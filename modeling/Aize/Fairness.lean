/-
  What the policy promises about its choice.

  The choice does not depend on where the entries stand in the queue (`chosen_perm`), as
  long as no two ready entries have one Session and role. And no priority can starve an
  entry: once it has waited for `STARVATION_WAIT_SECONDS`, only the entries that precede it
  by age can still be chosen before it (`selected_in_time`). These are all the ready ones,
  whether they can be chosen at that time or not: a delayed entry becomes a candidate later.
-/
import Aize.Choosing

namespace Aize
namespace Selection

variable {sel : Selection} {entries entries' : List Readiness} {c c' : Candidate}
  {e f : Readiness} {i j : ℕ}

/-! ## Eligible entries -/

/-- What the selection asks of an entry. -/
structure Eligible (sel : Selection) (e : Readiness) : Prop where
  status : e.status = .ready
  session : ∀ id ∈ sel.sessionId, id = "" ∨ e.sessionId = id
  available : readinessIsAvailable e sel.now
  goal : ∃ goal, sel.goals.lookup e.goalId = some goal ∧ goal.archivedAt = "" ∧
    goal.completionState = .incomplete
  active : ∃ session, sel.sessions.lookup e.sessionId = some session ∧ session.active
  free : (e.sessionId, e.role) ∉ sel.acquiredRoles

/-- The score of an entry. -/
def scoreOf (sel : Selection) (e : Readiness) : Int :=
  schedulingScore ((sel.sessions.lookup e.sessionId).elim {} Session.schedulingPolicy) e.role
    e.firstReadyAt sel.now

/-- The entry has waited for `STARVATION_WAIT_SECONDS`. -/
def HasStarved (sel : Selection) (e : Readiness) : Prop :=
  seconds starvationWaitSeconds ≤ waitingTime e.firstReadyAt sel.now

/-- An entry gives a candidate if and only if it is eligible. -/
theorem candidate_iff : sel.candidate? e i = some c ↔ sel.Eligible e ∧ c = ⟨i, e, sel.scoreOf e⟩ := by
  unfold candidate? considered goalOpen scoreOf
  constructor
  · intro h
    split_ifs at h with hopen
    cases hs : sel.sessions.lookup e.sessionId with
    | none => simp [hs] at h
    | some session =>
      simp only [hs] at h
      split_ifs at h with hactive
      cases h
      simp only [Bool.and_eq_true, decide_eq_true_eq] at hopen hactive
      obtain ⟨⟨⟨hready, hfilter⟩, havail⟩, hgoal⟩ := hopen
      refine ⟨⟨hready, fun id hid => ?_, havail, ?_, ⟨session, hs, hactive.1⟩, hactive.2⟩, rfl⟩
      · rw [hid] at hfilter
        simpa using hfilter
      · cases hg : sel.goals.lookup e.goalId with
        | none => simp [hg] at hgoal
        | some goal => exact ⟨goal, rfl, by simpa [hg] using hgoal⟩
  · rintro ⟨⟨hready, hfilter, havail, ⟨goal, hg, harch, hinc⟩, ⟨session, hs, hactive⟩, hfree⟩, rfl⟩
    have hall : (sel.sessionId.all fun id => id = "" || e.sessionId = id) = true := by
      cases hid : sel.sessionId with
      | none => rfl
      | some id => simpa using hfilter id hid
    simp [hready, hall, havail, hg, harch, hinc, hs, hactive, hfree]

theorem mem_candidates_iff : c ∈ sel.candidates entries ↔
    entries[c.index]? = some c.entry ∧ sel.Eligible c.entry ∧ c.score = sel.scoreOf c.entry := by
  rw [mem_candidates]
  constructor
  · rintro ⟨e, i, he, hc⟩
    obtain ⟨helig, rfl⟩ := candidate_iff.1 hc
    exact ⟨he, helig, rfl⟩
  · rintro ⟨he, helig, hscore⟩
    exact ⟨c.entry, c.index, he, candidate_iff.2 ⟨helig, by rw [← hscore]⟩⟩

/-! ## The order of the entries -/

end Selection

namespace Readiness

/-- What entries are ordered by after the score: by age, and then by Session and role. -/
def ageKey (e : Readiness) : String ×ₗ String ×ₗ String :=
  toLex (e.firstReadyAt.text, toLex (e.sessionId, e.role.token))

theorem eq_of_ageKey {e f : Readiness} (h : e.ageKey = f.ageKey) :
    (e.sessionId, e.role) = (f.sessionId, f.role) := by
  simp only [ageKey, toLex_inj, Prod.mk.injEq] at h
  obtain ⟨-, hs, hr⟩ := h
  have hrole : e.role = f.role := by
    revert hr
    cases e.role <;> cases f.role <;> decide
  rw [hs, hrole]

end Readiness

namespace Selection

variable {sel : Selection} {entries entries' : List Readiness} {c c' : Candidate}
  {e f : Readiness} {i j : ℕ}

theorem candidate_ageKey_lt : c.ageKey < c'.ageKey ↔
    c.entry.ageKey < c'.entry.ageKey ∨ c.entry.ageKey = c'.entry.ageKey ∧ c.index < c'.index := by
  unfold Candidate.ageKey Readiness.ageKey
  simp only [Prod.Lex.toLex_lt_toLex, toLex_inj, Prod.mk.injEq]
  tauto

/-- The order of the scores. -/
def Beats (sel : Selection) (e f : Readiness) : Prop :=
  sel.scoreOf f < sel.scoreOf e ∨ sel.scoreOf e = sel.scoreOf f ∧ e.ageKey < f.ageKey

theorem candidate_scoreKey_lt (hc : c.score = sel.scoreOf c.entry)
    (hc' : c'.score = sel.scoreOf c'.entry) : c.scoreKey < c'.scoreKey ↔
      sel.Beats c.entry c'.entry ∨ sel.scoreOf c.entry = sel.scoreOf c'.entry ∧
        c.entry.ageKey = c'.entry.ageKey ∧ c.index < c'.index := by
  unfold Candidate.scoreKey Beats
  rw [Prod.Lex.toLex_lt_toLex, candidate_ageKey_lt, hc, hc', neg_lt_neg_iff, neg_inj]
  tauto

theorem starved_iff : sel.starved c = true ↔ sel.HasStarved c.entry := by
  unfold starved HasStarved
  rw [decide_eq_true_eq]

theorem before_cases : sel.Before c c' ↔
    sel.HasStarved c.entry ∧ (sel.HasStarved c'.entry → c.ageKey < c'.ageKey) ∨
      (¬sel.HasStarved c.entry ∧ ¬sel.HasStarved c'.entry) ∧ c.scoreKey < c'.scoreKey := by
  rw [← starved_iff, ← starved_iff]
  unfold Before
  split_ifs with h
  · simp [h]
  · simp [h]

/-- `e` is chosen rather than `f`: by age if it has starved, and else by score. -/
def Preferred (sel : Selection) (e f : Readiness) : Prop :=
  sel.HasStarved e ∧ (sel.HasStarved f → e.ageKey < f.ageKey) ∨
    (¬sel.HasStarved e ∧ ¬sel.HasStarved f) ∧ sel.Beats e f

/-- Where positions do not decide, only the entries matter. -/
theorem before_iff (hc : c.score = sel.scoreOf c.entry) (hc' : c'.score = sel.scoreOf c'.entry)
    (hne : c.entry.ageKey ≠ c'.entry.ageKey) :
    sel.Before c c' ↔ sel.Preferred c.entry c'.entry := by
  rw [before_cases, candidate_ageKey_lt, candidate_scoreKey_lt hc hc']
  unfold Preferred
  simp [hne]

/-! ## The choice does not depend on the positions -/

/-- The Sessions and roles of the ready entries. -/
def readyKeys (entries : List Readiness) : List (String × Role) :=
  (entries.filter fun e => e.status = .ready).map fun e => (e.sessionId, e.role)

/-- Two ready entries of different positions have different Sessions or roles. -/
theorem eq_of_readyKey (hd : (readyKeys entries).Nodup) (hi : entries[i]? = some e)
    (hj : entries[j]? = some f) (he : e.status = .ready) (hf : f.status = .ready)
    (hkey : (e.sessionId, e.role) = (f.sessionId, f.role)) : i = j := by
  -- An earlier ready entry is in the front of the queue, and its key occurs there.
  have hlt : ∀ {i j : ℕ} {e f : Readiness}, entries[i]? = some e → entries[j]? = some f →
      e.status = .ready → f.status = .ready → (e.sessionId, e.role) = (f.sessionId, f.role) →
        ¬i < j := by
    intro i j e f hi hj he hf hkey hij
    obtain ⟨hjl, hjf⟩ := List.getElem?_eq_some_iff.1 hj
    have hsplit : entries.take j ++ entries.drop j = entries := List.take_append_drop j entries
    unfold readyKeys at hd
    rw [← hsplit, List.filter_append, List.map_append, List.nodup_append] at hd
    refine hd.2.2 (e.sessionId, e.role) ?_ (f.sessionId, f.role) ?_ hkey
    · refine List.mem_map_of_mem (f := fun e : Readiness => (e.sessionId, e.role))
        (List.mem_filter.2 ⟨?_, by simp [he]⟩)
      rw [List.mem_take_iff_getElem]
      obtain ⟨hil, hie⟩ := List.getElem?_eq_some_iff.1 hi
      exact ⟨i, by omega, hie⟩
    · refine List.mem_map_of_mem (f := fun e : Readiness => (e.sessionId, e.role))
        (List.mem_filter.2 ⟨?_, by simp [hf]⟩)
      rw [List.drop_eq_getElem_cons hjl, hjf]
      exact List.mem_cons_self
  rcases Nat.lt_trichotomy i j with h | h | h
  · exact absurd h (hlt hi hj he hf hkey)
  · exact h
  · exact absurd h (hlt hj hi hf he hkey.symm)

/-- **Which entry is chosen**: the eligible one to which no other is preferred. -/
theorem chosen_entry_iff (hd : (readyKeys entries).Nodup) :
    (∃ c, (selectRoleDispatchReadiness sel entries).chosen = some c ∧ c.entry = e) ↔
      e ∈ entries ∧ sel.Eligible e ∧ ∀ f ∈ entries, sel.Eligible f → f ≠ e → ¬sel.Preferred f e := by
  constructor
  · rintro ⟨c, hc, rfl⟩
    obtain ⟨hm, hfirst⟩ := chosen_iff.1 hc
    obtain ⟨hi, helig, hscore⟩ := mem_candidates_iff.1 hm
    refine ⟨List.mem_of_getElem? hi, helig, fun f hf hfelig hne hpref => ?_⟩
    obtain ⟨j, hj⟩ := List.mem_iff_getElem?.1 hf
    have hkey : f.ageKey ≠ c.entry.ageKey := by
      intro hkey
      have hij := eq_of_readyKey hd hj hi hfelig.status helig.status (Readiness.eq_of_ageKey hkey)
      rw [hij, hi] at hj
      exact hne (Option.some.inj hj).symm
    refine hfirst ⟨j, f, sel.scoreOf f⟩ (mem_candidates_iff.2 ⟨hj, hfelig, rfl⟩) ?_
    exact (before_iff rfl hscore hkey).2 hpref
  · rintro ⟨he, helig, hfirst⟩
    obtain ⟨i, hi⟩ := List.mem_iff_getElem?.1 he
    refine ⟨⟨i, e, sel.scoreOf e⟩, chosen_iff.2 ⟨mem_candidates_iff.2 ⟨hi, helig, rfl⟩, ?_⟩, rfl⟩
    intro c hc hb
    obtain ⟨hj, hcelig, hscore⟩ := mem_candidates_iff.1 hc
    by_cases hkey : c.entry.ageKey = e.ageKey
    · have hij := eq_of_readyKey hd hj hi hcelig.status helig.status (Readiness.eq_of_ageKey hkey)
      have hsame : c = ⟨i, e, sel.scoreOf e⟩ :=
        eq_of_index hc (mem_candidates_iff.2 ⟨hi, helig, rfl⟩) hij
      rw [hsame] at hb
      unfold Before at hb
      split_ifs at hb with hs
      · exact lt_irrefl _ (hb hs)
      · exact lt_irrefl _ hb.2
    · have hne : c.entry ≠ e := fun h => hkey (by rw [h])
      exact hfirst c.entry (List.mem_of_getElem? hj) hcelig hne ((before_iff hscore rfl hkey).1 hb)

/-- None is chosen if and only if none is eligible. -/
theorem chosen_eq_none_iff : (selectRoleDispatchReadiness sel entries).chosen = none ↔
    ∀ e ∈ entries, ¬sel.Eligible e := by
  constructor
  · intro hnone e he helig
    obtain ⟨i, hi⟩ := List.mem_iff_getElem?.1 he
    obtain ⟨m, hm⟩ := exists_chosen (c := ⟨i, e, sel.scoreOf e⟩)
      (mem_candidates_iff.2 ⟨hi, helig, rfl⟩)
    rw [hnone] at hm
    cases hm
  · intro h
    by_contra hne
    obtain ⟨c, hc⟩ := Option.ne_none_iff_exists'.1 hne
    obtain ⟨hm, -⟩ := chosen_iff.1 hc
    obtain ⟨hi, helig, -⟩ := mem_candidates_iff.1 hm
    exact h c.entry (List.mem_of_getElem? hi) helig

/-- The entries that are marked stale. -/
def staleEntries (sel : Selection) (entries : List Readiness) : List Readiness :=
  (selectRoleDispatchReadiness sel entries).staleIndexes.filterMap fun i => entries[i]?

theorem staleEntries_eq : sel.staleEntries entries =
    entries.filter fun e => sel.considered e && !sel.goalOpen e := by
  have hall : ∀ (l : List (Readiness × ℕ)), (∀ x ∈ l, entries[x.2]? = some x.1) →
      ((l.filter fun x => sel.considered x.1 && !sel.goalOpen x.1).map Prod.snd).filterMap
          (fun i => entries[i]?) =
        (l.map Prod.fst).filter fun e => sel.considered e && !sel.goalOpen e := by
    intro l
    induction l with
    | nil => exact fun _ => rfl
    | cons x l ih =>
      intro h
      have hx := h x List.mem_cons_self
      have ih := ih fun y hy => h y (List.mem_cons_of_mem x hy)
      rw [List.filter_cons, List.map_cons, List.filter_cons]
      split_ifs with hp
      · rw [List.map_cons, List.filterMap_cons, hx, ih]
      · exact ih
  unfold staleEntries selectRoleDispatchReadiness
  dsimp only
  rw [hall _ fun x hx => List.mem_zipIdx_iff_getElem?.1 hx, List.zipIdx_map_fst]

end Selection

open Selection

/-- **The choice is sound, and independent of the order of the queue.** -/
theorem choice_order_independent (sel : Selection) {entries entries' : List Readiness}
    (hd : (readyKeys entries).Nodup) (hperm : entries.Perm entries') :
    (selectRoleDispatchReadiness sel entries).chosen.map (fun c => (c.entry, c.score)) =
        (selectRoleDispatchReadiness sel entries').chosen.map (fun c => (c.entry, c.score)) ∧
      (sel.staleEntries entries).Perm (sel.staleEntries entries') ∧
      ((selectRoleDispatchReadiness sel entries).chosen = none ↔
        ∀ e ∈ entries, ¬sel.Eligible e) ∧
      ∀ c, (selectRoleDispatchReadiness sel entries).chosen = some c →
        (entries[c.index]? = some c.entry ∧ sel.Eligible c.entry ∧ c.score = sel.scoreOf c.entry) ∧
          ((∃ e ∈ entries, sel.Eligible e ∧ sel.HasStarved e) ∨
            ∀ e ∈ entries, sel.Eligible e → ¬sel.Beats e c.entry) := by
  have hd' : (readyKeys entries').Nodup := by
    unfold readyKeys at hd ⊢
    exact ((hperm.filter _).map _).nodup_iff.1 hd
  refine ⟨?_, ?_, chosen_eq_none_iff, fun c hc => ?_⟩
  · have hsame : ∀ e, (∃ c, (selectRoleDispatchReadiness sel entries).chosen = some c ∧
        c.entry = e) ↔ ∃ c, (selectRoleDispatchReadiness sel entries').chosen = some c ∧
          c.entry = e := by
      intro e
      rw [chosen_entry_iff hd, chosen_entry_iff hd', hperm.mem_iff]
      simp only [hperm.mem_iff]
    have hscore : ∀ {es : List Readiness} {c : Candidate},
        (selectRoleDispatchReadiness sel es).chosen = some c → c.score = sel.scoreOf c.entry :=
      fun hc => (mem_candidates_iff.1 (chosen_iff.1 hc).1).2.2
    cases hc : (selectRoleDispatchReadiness sel entries).chosen with
    | none =>
      cases hc' : (selectRoleDispatchReadiness sel entries').chosen with
      | none => rfl
      | some c' =>
        obtain ⟨c, h, -⟩ := (hsame c'.entry).2 ⟨c', hc', rfl⟩
        rw [hc] at h
        cases h
    | some c =>
      obtain ⟨c', hc', he⟩ := (hsame c.entry).1 ⟨c, hc, rfl⟩
      rw [hc', Option.map_some, Option.map_some, hscore hc, hscore hc', he]
  · rw [staleEntries_eq, staleEntries_eq]
    exact hperm.filter _
  · obtain ⟨hm, hfirst⟩ := chosen_iff.1 hc
    refine ⟨mem_candidates_iff.1 hm, ?_⟩
    by_cases hstarved : ∃ e ∈ entries, sel.Eligible e ∧ sel.HasStarved e
    · exact .inl hstarved
    · refine .inr fun e he helig hbeats => ?_
      obtain ⟨i, hi⟩ := List.mem_iff_getElem?.1 he
      obtain ⟨hci, hcelig, hscore⟩ := mem_candidates_iff.1 hm
      refine hfirst ⟨i, e, sel.scoreOf e⟩ (mem_candidates_iff.2 ⟨hi, helig, rfl⟩) ?_
      refine before_cases.2 (.inr ⟨⟨fun h => ?_, fun h => ?_⟩, ?_⟩)
      · exact hstarved ⟨e, he, helig, h⟩
      · exact hstarved ⟨_, List.mem_of_getElem? hci, hcelig, h⟩
      · exact (candidate_scoreKey_lt rfl hscore).2 (.inl hbeats)

/-- A queue of a background and a critical Session. -/
def twoEntries : List Readiness :=
  [{ readinessId := 1, sessionId := "one", goalId := 1, role := .goalManager, status := .ready
     firstReadyAt := .ofInstant 0, refreshedAt := .ofInstant 0, fromLogSeq := 0, observedToSeq := 1
     wakeReasons := [] },
   { readinessId := 2, sessionId := "two", goalId := 2, role := .workerAgent, status := .ready
     firstReadyAt := .ofInstant (seconds 60), refreshedAt := .ofInstant 0, fromLogSeq := 0
     observedToSeq := 1, wakeReasons := [] }]

/-- A selection among Sessions with incomplete Goals. -/
def selectionAt (now : Int) : Selection where
  goals := ((∅ : Dict ℕ Goal).insert 1 ⟨"one", "", "", "", .incomplete, "", none, ""⟩).insert 2
    ⟨"two", "", "", "", .incomplete, "", none, ""⟩
  sessions := ((∅ : Dict String Session).insert "one"
    { updatedAt := "", schedulingPolicy := ⟨.idle, -10000⟩ }).insert "two"
      { updatedAt := "", schedulingPolicy := ⟨.critical, 10000⟩ }
  acquiredRoles := []
  sessionId := none
  now := now

/-- Two entries, in both orders. -/
theorem choice_order_independent_two :
    (selectRoleDispatchReadiness (selectionAt (seconds 120)) twoEntries).chosen.map
        (fun c => (c.entry, c.score)) =
      (selectRoleDispatchReadiness (selectionAt (seconds 120)) twoEntries.reverse).chosen.map
        (fun c => (c.entry, c.score)) :=
  have hd : (readyKeys twoEntries).Nodup := by decide
  (choice_order_independent (selectionAt (seconds 120)) hd (List.reverse_perm twoEntries).symm).1

/-! ## Nobody is overtaken for ever -/

/-- A selection from a queue in which an entry stands between two parts. -/
structure Turn where
  sel : Selection
  before : List Readiness
  after : List Readiness

namespace Turn

variable {e : Readiness} {t t' : Turn}

/-- The queue, with the entry `e` in its place. -/
def queue (t : Turn) (e : Readiness) : List Readiness := t.before ++ e :: t.after

/-- What is selected from the queue. -/
def chosen (t : Turn) (e : Readiness) : Option Candidate :=
  (selectRoleDispatchReadiness t.sel (t.queue e)).chosen

/-- The entry `e` in its place is selected. -/
def Selects (t : Turn) (e : Readiness) : Prop :=
  (t.chosen e).map Candidate.index = some t.before.length

instance instDecidableSelects (t : Turn) (e : Readiness) : Decidable (t.Selects e) := by
  unfold Selects; infer_instance

/-- The queue has got new entries, which are all ready later than `e`. -/
inductive LaterAdded (e : Readiness) : List Readiness → List Readiness → Prop
  | nil : LaterAdded e [] []
  | keep {q q' : List Readiness} (f : Readiness) (h : LaterAdded e q q') :
      LaterAdded e (f :: q) (f :: q')
  | add {q q' : List Readiness} {f : Readiness}
      (hlater : e.firstReadyAt.text < f.firstReadyAt.text) (h : LaterAdded e q q') :
      LaterAdded e q (f :: q')

/-- From one selection of another entry than `e` to the next: the clock does not go back,
    the selected entry is removed, and entries may be added that are ready later than `e`. -/
structure Next (e : Readiness) (t t' : Turn) : Prop where
  clock : t.sel.now ≤ t'.sel.now
  queue : ∀ c, t.chosen e = some c →
    (c.index < t.before.length → LaterAdded e (t.before.eraseIdx c.index) t'.before ∧
      LaterAdded e t.after t'.after) ∧
    (t.before.length < c.index → LaterAdded e t.before t'.before ∧
      LaterAdded e (t.after.eraseIdx (c.index - (t.before.length + 1))) t'.after)

/-- The entries that precede `e` in the order by age, Session, role and position. -/
def preceding (t : Turn) (e : Readiness) : List Readiness :=
  t.before.filter (fun f => f.ageKey ≤ e.ageKey) ++ t.after.filter fun f => f.ageKey < e.ageKey

/-- The number of candidates that precede `e`. -/
def candidatesBefore (t : Turn) (e : Readiness) : ℕ :=
  (t.preceding e).countP fun f => (t.sel.candidate? f 0).isSome

/-- The number of ready entries that precede `e`, whether they are candidates or not. -/
def readyBefore (t : Turn) (e : Readiness) : ℕ :=
  (t.preceding e).countP fun f => f.status = .ready

/-- What is added later does not precede `e`. -/
theorem LaterAdded.countP {q q' : List Readiness} (h : LaterAdded e q q') (p : Readiness → Bool)
    (hp : ∀ f, e.firstReadyAt.text < f.firstReadyAt.text → p f = false) :
    q'.countP p = q.countP p := by
  induction h with
  | nil => rfl
  | keep f _ ih => rw [List.countP_cons, List.countP_cons, ih]
  | add hlater _ ih => rw [List.countP_cons, hp _ hlater, ih]; rfl

theorem ageKey_of_later {f : Readiness} (h : e.firstReadyAt.text < f.firstReadyAt.text) :
    e.ageKey < f.ageKey := by
  unfold Readiness.ageKey
  rw [Prod.Lex.toLex_lt_toLex]
  exact .inl h

theorem countP_eraseIdx {p : Readiness → Bool} {l : List Readiness} {i : ℕ} {f : Readiness}
    (hi : l[i]? = some f) (hp : p f) : (l.eraseIdx i).countP p + 1 = l.countP p := by
  obtain ⟨hl, rfl⟩ := List.getElem?_eq_some_iff.1 hi
  have hperm := (List.getElem_cons_eraseIdx_perm hl).countP_eq p
  rw [List.countP_cons_of_pos hp] at hperm
  exact hperm

/-- The count over both parts. -/
theorem readyBefore_eq : t.readyBefore e =
    t.before.countP (fun f => decide (f.status = .ready) && decide (f.ageKey ≤ e.ageKey)) +
      t.after.countP fun f => decide (f.status = .ready) && decide (f.ageKey < e.ageKey) := by
  unfold readyBefore preceding
  rw [List.countP_append, List.countP_filter, List.countP_filter]

/-- Once `e` has starved, what is selected instead of it is ready and precedes it. -/
theorem chosen_precedes (helig : t.sel.Eligible e) (hs : t.sel.HasStarved e) (hno : ¬t.Selects e) :
    ∃ c, t.chosen e = some c ∧ c.entry.status = .ready ∧
      (c.index < t.before.length ∧ t.before[c.index]? = some c.entry ∧
          c.entry.ageKey ≤ e.ageKey ∨
        t.before.length < c.index ∧
          t.after[c.index - (t.before.length + 1)]? = some c.entry ∧ c.entry.ageKey < e.ageKey) := by
  have hmem : (⟨t.before.length, e, t.sel.scoreOf e⟩ : Candidate) ∈ t.sel.candidates (t.queue e) :=
    mem_candidates_iff.2 ⟨by simp [queue], helig, rfl⟩
  obtain ⟨c, hc⟩ := exists_chosen hmem
  obtain ⟨hm, hfirst⟩ := chosen_iff.1 hc
  obtain ⟨hi, hcelig, -⟩ := mem_candidates_iff.1 hm
  refine ⟨c, hc, hcelig.status, ?_⟩
  have hne : c.index ≠ t.before.length := by
    intro h
    refine hno ?_
    unfold Selects chosen
    rw [hc, Option.map_some, h]
  have hle : ¬(t.sel.HasStarved c.entry →
      (⟨t.before.length, e, t.sel.scoreOf e⟩ : Candidate).ageKey < c.ageKey) := fun h =>
    hfirst _ hmem (before_cases.2 (.inl ⟨hs, h⟩))
  rw [candidate_ageKey_lt] at hle
  dsimp only at hle
  push Not at hle
  obtain ⟨-, hle, htie⟩ := hle
  unfold queue at hi
  rcases Nat.lt_or_gt_of_ne hne with hlt | hgt
  · rw [List.getElem?_append_left hlt] at hi
    exact .inl ⟨hlt, hi, hle⟩
  · rw [List.getElem?_append_right (by omega), List.getElem?_cons, if_neg (by omega)] at hi
    refine .inr ⟨hgt, ?_, lt_of_le_of_ne hle fun h => ?_⟩
    · rw [← hi]
      congr 1
    · have := htie h.symm
      omega

/-- **One selection** of another entry leaves one ready entry less before `e`. -/
theorem readyBefore_next (helig : t.sel.Eligible e) (hs : t.sel.HasStarved e)
    (hno : ¬t.Selects e) (hnext : Next e t t') : t'.readyBefore e + 1 = t.readyBefore e := by
  obtain ⟨c, hc, hready, hpos⟩ := chosen_precedes helig hs hno
  obtain ⟨hbefore, hafter⟩ := hnext.queue c hc
  have hle : ∀ f : Readiness, e.firstReadyAt.text < f.firstReadyAt.text →
      (decide (f.status = .ready) && decide (f.ageKey ≤ e.ageKey)) = false := fun f hf => by
    simp [ageKey_of_later hf]
  have hlt : ∀ f : Readiness, e.firstReadyAt.text < f.firstReadyAt.text →
      (decide (f.status = .ready) && decide (f.ageKey < e.ageKey)) = false := fun f hf => by
    simp [(ageKey_of_later hf).le]
  rw [readyBefore_eq, readyBefore_eq]
  rcases hpos with ⟨hi, hentry, hkey⟩ | ⟨hi, hentry, hkey⟩
  · obtain ⟨h₁, h₂⟩ := hbefore hi
    rw [h₁.countP _ hle, h₂.countP _ hlt, ← countP_eraseIdx hentry (by simp [hready, hkey])]
    omega
  · obtain ⟨h₁, h₂⟩ := hafter hi
    rw [h₁.countP _ hle, h₂.countP _ hlt, ← countP_eraseIdx hentry (by simp [hready, hkey])]
    omega

/-- Something precedes an entry that has starved and is not selected. -/
theorem readyBefore_pos (helig : t.sel.Eligible e) (hs : t.sel.HasStarved e) (hno : ¬t.Selects e) :
    0 < t.readyBefore e := by
  obtain ⟨c, -, hready, hpos⟩ := chosen_precedes helig hs hno
  rw [readyBefore_eq]
  rcases hpos with ⟨-, hentry, hkey⟩ | ⟨-, hentry, hkey⟩
  · rw [← countP_eraseIdx hentry (by simp [hready, hkey])]
    omega
  · have := countP_eraseIdx (p := fun f => decide (f.status = .ready) && decide (f.ageKey < e.ageKey))
      hentry (by simp [hready, hkey])
    omega

/-- Who has starved has starved later, too. -/
theorem hasStarved_mono {sel sel' : Selection} (h : sel.HasStarved e) (hnow : sel.now ≤ sel'.now) :
    sel'.HasStarved e := by
  unfold HasStarved waitingTime at *
  cases hi : e.firstReadyAt.instant with
  | none => rwa [hi] at h
  | some r =>
    rw [hi] at h
    exact h.trans (max_le_max le_rfl (by omega))

end Turn

open Aize.Turn

/-- **No starvation by priority.** An entry that has waited for `STARVATION_WAIT_SECONDS` and
    stays a candidate is selected at the latest when all ready entries that preceded it have
    been. -/
theorem selected_in_time {e : Readiness} {t : Turn} {turns : List Turn}
    (hchain : (t :: turns).IsChain (Next e)) (helig : ∀ u ∈ t :: turns, u.sel.Eligible e)
    (hs : t.sel.HasStarved e) (hlong : t.readyBefore e ≤ turns.length) :
    ∃ u ∈ (t :: turns).take (t.readyBefore e + 1), u.Selects e := by
  induction turns generalizing t with
  | nil =>
    by_cases hsel : t.Selects e
    · exact ⟨t, by simp, hsel⟩
    · have := readyBefore_pos (helig t (by simp)) hs hsel
      rw [List.length_nil] at hlong
      omega
  | cons u turns ih =>
    by_cases hsel : t.Selects e
    · exact ⟨t, by simp, hsel⟩
    · obtain ⟨hnext, hrest⟩ := List.isChain_cons_cons.1 hchain
      have hcount := readyBefore_next (helig t (by simp)) hs hsel hnext
      obtain ⟨v, hv, hvsel⟩ := ih hrest (fun v hv => helig v (List.mem_cons_of_mem t hv))
        (hasStarved_mono hs hnext.clock) (by rw [List.length_cons] at hlong; omega)
      refine ⟨v, ?_, hvsel⟩
      rw [← hcount, List.take_succ_cons]
      exact List.mem_cons_of_mem t hv

/-! ### A delayed entry

The candidates alone do not bound the wait: `delayed` is ready earlier than `waiting`, but is
no candidate until it is available. -/

def first : Readiness :=
  { readinessId := 1, sessionId := "one", goalId := 1, role := .goalManager, status := .ready
    firstReadyAt := .ofInstant 0, refreshedAt := .ofInstant 0, fromLogSeq := 0, observedToSeq := 1
    wakeReasons := [] }

def delayed : Readiness :=
  { first with
    readinessId := 2
    role := .workerAgent
    firstReadyAt := .ofInstant (seconds 1)
    availableAfter := .ofInstant (seconds 900) }

def waiting : Readiness :=
  { first with readinessId := 3, sessionId := "two", goalId := 2, firstReadyAt := .ofInstant (seconds 2) }

/-- The three entries after ten minutes, and what is left of them after fifteen. -/
def tenMinutes : Turn := ⟨selectionAt (seconds 700), [first, delayed], []⟩
def fifteenMinutes : Turn := ⟨selectionAt (seconds 900), [delayed], []⟩
def twentyMinutes : Turn := ⟨selectionAt (seconds 1200), [], []⟩

theorem eligible_of_candidate {sel : Selection} {e : Readiness}
    (h : (sel.candidate? e 0).isSome) : sel.Eligible e := by
  obtain ⟨c, hc⟩ := Option.isSome_iff_exists.1 h
  exact (candidate_iff.1 hc).1

/-- What is removed when the first entry of the queue is selected. -/
theorem next_of_first {e : Readiness} {t t' : Turn} (hnow : t.sel.now ≤ t'.sel.now)
    (hfirst : (t.chosen e).map Candidate.index = some 0)
    (hbefore : LaterAdded e (t.before.eraseIdx 0) t'.before) (hafter : LaterAdded e t.after t'.after)
    (hlen : 0 < t.before.length) : Next e t t' := by
  refine ⟨hnow, fun c hc => ?_⟩
  rw [hc] at hfirst
  have hi : c.index = 0 := Option.some.inj hfirst
  rw [hi]
  exact ⟨fun _ => ⟨hbefore, hafter⟩, fun h => by omega⟩

theorem delayed_chain :
    [tenMinutes, fifteenMinutes, twentyMinutes].IsChain (Next waiting) := by
  refine List.isChain_cons_cons.2 ⟨?_, List.isChain_cons_cons.2 ⟨?_, List.isChain_singleton _⟩⟩
  · exact next_of_first (by decide) (by decide +kernel) (.keep _ .nil) .nil (by decide)
  · exact next_of_first (by decide) (by decide +kernel) .nil .nil (by decide)

theorem delayed_eligible :
    ∀ u ∈ [tenMinutes, fifteenMinutes, twentyMinutes], u.sel.Eligible waiting := by
  have hall : ∀ u ∈ [tenMinutes, fifteenMinutes, twentyMinutes],
      (u.sel.candidate? waiting 0).isSome := by
    decide +kernel
  exact fun u hu => eligible_of_candidate (hall u hu)

theorem waiting_starved : tenMinutes.sel.HasStarved waiting := by
  unfold HasStarved
  decide

/-- **A delayed entry overtakes**: one candidate precedes the entry that has starved, and
    yet two selections go by. -/
theorem overtaken_by_delayed : ∃ (e : Readiness) (t : Turn) (turns : List Turn),
    (t :: turns).IsChain (Next e) ∧ (∀ u ∈ t :: turns, u.sel.Eligible e) ∧ t.sel.HasStarved e ∧
      t.candidatesBefore e ≤ turns.length ∧
      ∀ u ∈ (t :: turns).take (t.candidatesBefore e + 1), ¬u.Selects e := by
  refine ⟨waiting, tenMinutes, [fifteenMinutes, twentyMinutes], delayed_chain, delayed_eligible,
    waiting_starved, ?_, ?_⟩
  · decide +kernel
  · decide +kernel

/-- It is selected when both are gone. -/
theorem selected_in_time_delayed :
    ∃ u ∈ [tenMinutes, fifteenMinutes, twentyMinutes].take (tenMinutes.readyBefore waiting + 1),
      u.Selects waiting :=
  selected_in_time delayed_chain delayed_eligible waiting_starved (by decide +kernel)

end Aize
