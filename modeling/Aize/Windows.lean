/-
  The windows of the released runs of a role partition the log that the role has read.

  `Step.cursor_cases` is what one step of a ledger does to cursors and released runs:
  only a release moves a cursor, from the start of the window of its run to its end.
  An operation releases at most the run whose result it brings back (`next_releases`),
  so the windows follow one another in the order of the run: `released_windows`.
-/
import Aize.Reachable

namespace Aize

/-! ## Windows in a row -/

/-- Windows that follow one another: the first starts at 1, and the last ends at `n`. -/
inductive Covers : List (Nat × Nat) → Nat → Prop
  | nil : Covers [] 0
  | snoc {ws : List (Nat × Nat)} {n m : Nat} : Covers ws n → n < m → Covers (ws ++ [(n + 1, m)]) m

/-- The numbers of a window. -/
def windowSeqs (w : Nat × Nat) : List Nat := List.range' w.1 (w.2 + 1 - w.1)

/-- **No number is skipped, and none is in two windows.** -/
theorem Covers.seqs {ws : List (Nat × Nat)} {n : Nat} (h : Covers ws n) :
    ws.flatMap windowSeqs = List.range' 1 n := by
  induction h with
  | nil => rfl
  | @snoc ws n m _ hlt ih =>
    rw [List.flatMap_append, ih, List.flatMap_singleton, windowSeqs]
    have hlen : m = n + (m + 1 - (n + 1)) := by omega
    conv_rhs => rw [hlen, ← List.range'_append_1]
    rw [Nat.add_comm 1 n]

namespace Ledger

variable {c c' : Ledger} {sid : String} {role : Role} {rid : Nat} {r : DispatchRun}

/-! ## Cursors and releases -/

/-- The cursor of a role; one of a Session that does not exist is 0. -/
def cursor (c : Ledger) (key : String × Role) : Nat :=
  (c.session key.1).elim 0 fun v => v.cursors.get key.2

/-- Run `rid` has given its lease back. -/
def Done (run : Nat → Option DispatchRun) (rid : Nat) (r : DispatchRun) : Prop :=
  run rid = some r ∧ r.leaseState = .released

/-- The runs that are done are the same ones, with the same work. -/
def SameDone (c c' : Ledger) : Prop :=
  (∀ rid r, Done c.run rid r → ∃ r', Done c'.run rid r' ∧ Later r r') ∧
    ∀ rid r', Done c'.run rid r' → ∃ r, Done c.run rid r ∧ Later r r'

theorem SameDone.refl (c : Ledger) : SameDone c c :=
  ⟨fun _ r h => ⟨r, h, .refl r⟩, fun _ r h => ⟨r, h, .refl r⟩⟩

theorem SameDone.trans {c₁ c₂ c₃ : Ledger} (h₁ : SameDone c₁ c₂) (h₂ : SameDone c₂ c₃) :
    SameDone c₁ c₃ := by
  refine ⟨fun rid r h => ?_, fun rid r h => ?_⟩
  · obtain ⟨r', h', hl⟩ := h₁.1 rid r h
    obtain ⟨r'', h'', hl'⟩ := h₂.1 rid r' h'
    exact ⟨r'', h'', hl.trans hl'⟩
  · obtain ⟨r', h', hl⟩ := h₂.2 rid r h
    obtain ⟨r'', h'', hl'⟩ := h₁.2 rid r' h'
    exact ⟨r'', h'', hl'.trans hl⟩

theorem SameDone.of_eq (h : c'.run = c.run) : SameDone c c' := by
  refine ⟨fun rid r hr => ⟨r, h ▸ hr, .refl r⟩, fun rid r hr => ⟨r, h ▸ hr, .refl r⟩⟩

/-- A run that is not done is replaced by one that is not done, or a done one by its later
    record. -/
theorem sameDone_setRun {r' : DispatchRun} (h : c.run rid = some r) (hl : Later r r')
    (hd : r'.leaseState = .released ↔ r.leaseState = .released) : SameDone c (c.setRun rid r') := by
  refine ⟨fun x y hy => ?_, fun x y hy => ?_⟩
  · by_cases hx : x = rid
    · subst hx
      obtain ⟨hy, hrel⟩ := hy
      rw [h] at hy
      cases hy
      exact ⟨r', ⟨by rw [setRun_run, if_pos rfl], hd.2 hrel⟩, hl⟩
    · exact ⟨y, ⟨by rw [setRun_run, if_neg hx]; exact hy.1, hy.2⟩, .refl y⟩
  · obtain ⟨hy, hrel⟩ := hy
    rw [setRun_run] at hy
    split_ifs at hy with hx
    · cases hy
      exact ⟨r, ⟨hx ▸ h, hd.1 hrel⟩, hl⟩
    · exact ⟨y, ⟨hy, hrel⟩, .refl y⟩

/-- Run `rid` is released: its window starts after the cursor of its role, and the cursor
    moves to its end. -/
structure Releases (c : Ledger) (rid : Nat) (c' : Ledger) : Prop where
  fresh : ∀ r, ¬Done c.run rid r
  done : ∃ r, Done c'.run rid r ∧ r.fromLogSeq = c.cursor r.key + 1 ∧
    c.cursor r.key < r.observedToSeq ∧
    ∀ key, c'.cursor key = if key = r.key then r.observedToSeq else c.cursor key
  others : ∀ x, x ≠ rid → (∀ r, Done c.run x r → ∃ r', Done c'.run x r' ∧ Later r r') ∧
    ∀ r', Done c'.run x r' → ∃ r, Done c.run x r ∧ Later r r'

/-- Nothing is released, and no cursor moves. -/
structure Keeps (c c' : Ledger) : Prop where
  cursor : ∀ key, c'.cursor key = c.cursor key
  done : SameDone c c'

theorem cursor_of_grows (hg : Grows c.toBook c'.toBook) (key : String × Role) :
    c'.cursor key = c.cursor key := by
  obtain ⟨-, hnone, hsome⟩ := hg key.1
  unfold cursor
  cases hv : c.session key.1 with
  | none =>
    rcases hnone hv with h | h
    · rw [h]
    · rw [h]
      obtain ⟨_, role⟩ := key
      cases role <;> rfl
  | some v =>
    obtain ⟨v', hv', hc, -⟩ := hsome v hv
    rw [hv', Option.elim_some, Option.elim_some, hc]

theorem cursor_eq {v : SessionView} {key : String × Role} (h : c.session key.1 = some v) :
    c.cursor key = v.cursors.get key.2 := by
  unfold cursor
  rw [h]
  rfl

/-- **What one step does to cursors and released runs.** -/
theorem Step.cursor_cases {lb : Label} (h : Step c lb c') (hw : c.Windowed) (hlose : lb ≠ .lose) :
    (∃ rid, lb = .release rid ∧ Releases c rid c') ∨ Keeps c c' := by
  cases h with
  | book hb => exact .inr ⟨cursor_of_grows (grows_of_bookStep hb), .of_eq rfl⟩
  | @clamp sid v hv =>
    refine .inr ⟨fun key => ?_, .of_eq rfl⟩
    -- no cursor is beyond its log
    have hclamp : State.clampCursors v.cursors (c.log sid).length = v.cursors := by
      have h₁ := hw.cursor sid v .goalManager hv
      have h₂ := hw.cursor sid v .workerAgent hv
      unfold State.clampCursors
      rw [min_eq_left (show v.cursors.goalManager ≤ _ from h₁),
        min_eq_left (show v.cursors.workerAgent ≤ _ from h₂)]
    rw [hclamp]
    unfold cursor
    rw [setBook_toBook, Book.setSession_session]
    split_ifs with hk
    · rw [hk, hv]
    · rfl
  | @interrupt rid r hr =>
    have hd : r.interrupted.leaseState = .released ↔ r.leaseState = .released :=
      ⟨fun h => (by cases h), fun h => by rw [hr.2] at h; cases h⟩
    exact .inr ⟨fun _ => rfl, sameDone_setRun hr.1 (later_interrupted _) hd⟩
  | @amend rid r d st hr =>
    exact .inr ⟨fun _ => rfl, sameDone_setRun hr ⟨rfl, rfl, rfl, rfl, rfl, rfl, id⟩ Iff.rfl⟩
  | retire => exact .inr ⟨fun _ => rfl, .of_eq rfl⟩
  | refresh => exact .inr ⟨fun _ => rfl, .of_eq rfl⟩
  | @acquire rid r e hnone _ _ _ _ hacq =>
    refine .inr ⟨fun _ => rfl, fun x y hy => ?_, fun x y hy => ?_⟩
    · have hx : x ≠ rid := fun hx => by
        rw [hx, Done, hnone] at hy
        cases hy.1
      exact ⟨y, ⟨by rw [setReadiness_run, setRun_run, if_neg hx]; exact hy.1, hy.2⟩, .refl y⟩
    · obtain ⟨hy, hrel⟩ := hy
      rw [setReadiness_run, setRun_run] at hy
      split_ifs at hy
      · cases hy
        rw [hacq] at hrel
        cases hrel
      · exact ⟨y, ⟨hy, hrel⟩, .refl y⟩
  | @release rid r hr =>
    obtain ⟨v, g, hv, -, -, hfrom, hle, -⟩ := hw.run rid r hr
    have hcur : c.cursor r.key = v.cursors.get r.role := cursor_eq hv
    refine .inl ⟨rid, rfl, fun x hx => ?_, ⟨r.released, ⟨?_, rfl⟩, ?_, ?_, fun key => ?_⟩,
      fun x hx => ⟨fun y hy => ⟨y, ⟨?_, hy.2⟩, .refl y⟩, fun y hy => ⟨y, ⟨?_, hy.2⟩, .refl y⟩⟩⟩
    · rw [Done, hr.1] at hx
      have := hx.2
      rw [← Option.some.inj hx.1, hr.2] at this
      cases this
    · rw [setBook_run, setRun_run, if_pos rfl]
    · exact hfrom.trans (congrArg (· + 1) hcur.symm)
    · change c.cursor r.key < r.observedToSeq
      rw [hcur]
      exact (hfrom ▸ hle : v.cursors.get r.role + 1 ≤ _)
    · unfold cursor
      rw [setBook_toBook, Book.advance_session]
      change (Option.elim _ 0 fun v : SessionView => v.cursors.get key.2) = if key = r.key then r.observedToSeq else _
      by_cases hs : key.1 = r.sessionId
      · rw [if_pos hs, hs, show c.session r.sessionId = some v from hv, Option.map_some,
          Option.elim_some, Option.elim_some, RoleCursors.get_set]
        by_cases hrole : key.2 = r.role
        · rw [if_pos hrole, if_pos (show key = r.key from Prod.ext hs hrole), max_eq_right]
          exact (Nat.le_succ _).trans (hfrom ▸ hle : v.cursors.get r.role + 1 ≤ _)
        · rw [if_neg hrole, if_neg fun h => hrole (congrArg Prod.snd h)]
      · rw [if_neg hs, if_neg fun h => hs (congrArg Prod.fst h)]
    · rw [setBook_run, setRun_run, if_neg hx]
      exact hy.1
    · have := hy.1
      rwa [setBook_run, setRun_run, if_neg hx] at this
  | @recoverSession sid =>
    refine .inr ⟨fun _ => rfl, fun x y hy => ?_, fun x y hy => ?_⟩
    · refine ⟨y, ⟨?_, hy.2⟩, .refl y⟩
      change (c.run x).map _ = _
      rw [hy.1, Option.map_some, if_neg]
      rintro ⟨-, ha⟩
      rw [hy.2] at ha
      cases ha
    · obtain ⟨hy, hrel⟩ := hy
      obtain ⟨z, hz, rfl⟩ := Option.map_eq_some_iff.1 hy
      split_ifs at hrel ⊢
      · cases hrel
      · exact ⟨z, ⟨hz, hrel⟩, .refl z⟩
  | requeue => exact .inr ⟨fun _ => rfl, .of_eq rfl⟩
  | lose => exact absurd rfl hlose

theorem Keeps.trans {c₁ : Ledger} (h : Keeps c c₁) (h' : Keeps c₁ c') : Keeps c c' :=
  ⟨fun key => (h'.cursor key).trans (h.cursor key), h.done.trans h'.done⟩

theorem Keeps.releases {c₁ : Ledger} (h : Keeps c c₁) (h' : Releases c₁ rid c') :
    Releases c rid c' where
  fresh r hr := by
    obtain ⟨r', hr', -⟩ := h.done.1 rid r hr
    exact h'.fresh r' hr'
  done := by
    obtain ⟨r, hr, hfrom, hlt, hcur⟩ := h'.done
    rw [h.cursor] at hfrom hlt
    refine ⟨r, hr, hfrom, hlt, fun key => ?_⟩
    rw [hcur, h.cursor]
  others x hx := by
    refine ⟨fun r hr => ?_, fun r hr => ?_⟩
    · obtain ⟨r₁, hr₁, hl⟩ := h.done.1 x r hr
      obtain ⟨r₂, hr₂, hl'⟩ := (h'.others x hx).1 r₁ hr₁
      exact ⟨r₂, hr₂, hl.trans hl'⟩
    · obtain ⟨r₁, hr₁, hl⟩ := (h'.others x hx).2 r hr
      obtain ⟨r₂, hr₂, hl'⟩ := h.done.2 x r₁ hr₁
      exact ⟨r₂, hr₂, hl'.trans hl⟩

theorem Releases.keeps {c₁ : Ledger} (h : Releases c rid c₁) (h' : Keeps c₁ c') :
    Releases c rid c' where
  fresh := h.fresh
  done := by
    obtain ⟨r, hr, hfrom, hlt, hcur⟩ := h.done
    obtain ⟨r', hr', hl⟩ := h'.done.1 rid r hr
    refine ⟨r', hr', ?_, ?_, fun key => ?_⟩
    · rw [hl.fromLogSeq, hl.key, hfrom]
    · rw [hl.observedToSeq, hl.key]
      exact hlt
    · rw [h'.cursor, hcur, hl.key, hl.observedToSeq]
  others x hx := by
    refine ⟨fun r hr => ?_, fun r hr => ?_⟩
    · obtain ⟨r₁, hr₁, hl⟩ := (h.others x hx).1 r hr
      obtain ⟨r₂, hr₂, hl'⟩ := h'.done.1 x r₁ hr₁
      exact ⟨r₂, hr₂, hl.trans hl'⟩
    · obtain ⟨r₁, hr₁, hl⟩ := h'.done.2 x r hr
      obtain ⟨r₂, hr₂, hl'⟩ := (h.others x hx).2 r₁ hr₁
      exact ⟨r₂, hr₂, hl'.trans hl⟩

/-- **Some steps**: at most one run is released, if only one may be. -/
theorem Steps.cursor_cases {P : Label → Prop} (h : Steps P c c') (hP : ∀ l, P l → l.Orderly)
    (hone : ∀ x y, P (.release x) → P (.release y) → x = y) (hx : c.Exclusive) (hw : c.Windowed) :
    Keeps c c' ∨ ∃ rid, P (.release rid) ∧ Releases c rid c' := by
  have key := h.invariant (I := fun c₁ => (c₁.Exclusive ∧ c₁.Windowed) ∧
    (Keeps c c₁ ∨ ∃ rid, P (.release rid) ∧ Releases c rid c₁))
    ⟨⟨hx, hw⟩, .inl ⟨fun _ => rfl, .refl c⟩⟩ ?_
  · exact key.2
  · rintro c₁ lb c₂ ⟨⟨hx₁, hw₁⟩, ih⟩ hlb hstep
    refine ⟨steps_safe (.of_step hlb hstep) hP hx₁ hw₁, ?_⟩
    have hlose : lb ≠ .lose := fun h => (h ▸ hP lb hlb : Label.Orderly .lose)
    rcases hstep.cursor_cases hw₁ hlose with ⟨rid, rfl, hrel⟩ | hkeep
    · rcases ih with hkeep | ⟨rid', hrid', hrel'⟩
      · exact .inr ⟨rid, hlb, hkeep.releases hrel⟩
      · -- a released run is not released again
        obtain ⟨r, hr, -⟩ := hrel'.done
        exact absurd (hone rid' rid hrid' hlb ▸ hr) (hrel.fresh r)
    · rcases ih with hkeep' | ⟨rid, hrid, hrel⟩
      · exact .inl (hkeep'.trans hkeep)
      · exact .inr ⟨rid, hrid, hrel.keeps hkeep⟩

end Ledger

/-! ## The releases of a run of the store -/

/-- The runs of a role that a step has released. -/
def releasedBy (e : TransitionSystem.Event Sys Action) (sid : String) (role : Role) :
    List (Nat × DispatchRun) :=
  e.post.store.dispatchRuns.items.filter fun r =>
    r.2.key = (sid, role) && r.2.leaseState = .released &&
      !(e.pre.store.dispatchRuns.lookup r.1).any fun r₀ => r₀.leaseState = .released

/-- The released runs of a role, in the order of their release. -/
def releases (tr : List (TransitionSystem.Event Sys Action)) (sid : String) (role : Role) :
    List (Nat × DispatchRun) :=
  tr.flatMap fun e => releasedBy e sid role

/-- The window of a run. -/
def windowOf (r : Nat × DispatchRun) : Nat × Nat := (r.2.fromLogSeq, r.2.observedToSeq)

variable {sys s₀ : Sys} {a : Action} {tr : List (TransitionSystem.Event Sys Action)} {sid : String}
  {role : Role}

/-- An operation releases one run, and moves the cursor of its role, or it does neither. -/
theorem next_releases (h : sys.Safe) (a : Action) :
    Ledger.Keeps sys.store.ledger (sys.next a).store.ledger ∨
      ∃ rid, Ledger.Releases sys.store.ledger rid (sys.next a).store.ledger := by
  obtain ⟨-, hst⟩ := next_stores h.inv a
  have hone : ∀ x y, sys.Allowed a.op (.release x) → sys.Allowed a.op (.release y) → x = y := by
    rintro x y ⟨lease, _, hop, rfl⟩ ⟨lease', _, hop', rfl⟩
    rw [hop] at hop'
    cases hop'
    rfl
  rcases Ledger.Steps.cursor_cases hst.steps h.leased.orderly hone h.exclusive h.windowed with
    hk | ⟨rid, -, hr⟩
  · exact .inl hk
  · exact .inr ⟨rid, hr⟩

theorem mem_releasedBy {e : TransitionSystem.Event Sys Action} {r : Nat × DispatchRun} :
    r ∈ releasedBy e sid role ↔ Ledger.Done e.post.store.dispatchRuns.lookup r.1 r.2 ∧
      r.2.key = (sid, role) ∧ ∀ r₀, ¬Ledger.Done e.pre.store.dispatchRuns.lookup r.1 r₀ := by
  unfold releasedBy
  rw [List.mem_filter, Dict.mem_items]
  simp only [Bool.and_eq_true, decide_eq_true_eq, Ledger.Done]
  constructor
  · rintro ⟨hl, ⟨hk, hd⟩, hn⟩
    refine ⟨⟨hl, hd⟩, hk, fun r₀ h => ?_⟩
    simp [h.1, h.2] at hn
  · rintro ⟨⟨hl, hd⟩, hk, hn⟩
    refine ⟨hl, ⟨hk, hd⟩, ?_⟩
    cases hp : e.pre.store.dispatchRuns.lookup r.1 with
    | none => rfl
    | some r₀ => simpa using fun h => hn r₀ ⟨hp, h⟩

theorem releasedBy_of_keeps {sys' : Sys} (h : Ledger.Keeps sys.store.ledger sys'.store.ledger) :
    releasedBy ⟨sys, a, sys'⟩ sid role = [] := by
  refine List.eq_nil_iff_forall_not_mem.2 fun r hr => ?_
  obtain ⟨hd, -, hn⟩ := mem_releasedBy.1 hr
  obtain ⟨r₀, h₀, -⟩ := h.done.2 r.1 r.2 hd
  exact hn r₀ h₀

theorem releasedBy_of_releases {sys' : Sys} {rid : Nat} {r : DispatchRun}
    (h : Ledger.Releases sys.store.ledger rid sys'.store.ledger)
    (hr : Ledger.Done sys'.store.dispatchRuns.lookup rid r) :
    releasedBy ⟨sys, a, sys'⟩ sid role = if r.key = (sid, role) then [(rid, r)] else [] := by
  have hall : ∀ x ∈ releasedBy ⟨sys, a, sys'⟩ sid role, x = (rid, r) := by
    intro x hx
    obtain ⟨hd, -, hn⟩ := mem_releasedBy.1 hx
    by_cases hk : x.1 = rid
    · refine Prod.ext hk (Option.some.inj (hd.1.symm.trans ?_))
      rw [hk]
      exact hr.1
    · obtain ⟨r₀, h₀, -⟩ := (h.others x.1 hk).2 x.2 hd
      exact absurd h₀ (hn r₀)
  split_ifs with hk
  · have hmem : (rid, r) ∈ releasedBy ⟨sys, a, sys'⟩ sid role :=
      mem_releasedBy.2 ⟨hr, hk, h.fresh⟩
    exact List.Nodup.eq_singleton ((Dict.nodup_items _).filter _) hmem hall
  · refine List.eq_nil_iff_forall_not_mem.2 fun x hx => hk ?_
    have := (mem_releasedBy.1 hx).2.1
    rwa [hall x hx] at this

/-- A new store has released nothing, and its cursors are 0. -/
theorem keeps_initNew (h₀ : storeSystem.init s₀) :
    Ledger.Keeps (State.ledger {}) s₀.store.ledger := by
  obtain ⟨env, hs, -⟩ := h₀
  rcases Ledger.Steps.cursor_cases (initNew_stores hs).steps (fun l hl => hl ▸ trivial)
    (fun x y hx => by cases hx) ledger_empty.1 ledger_empty.2 with hk | ⟨rid, hrid, -⟩
  · exact hk
  · cases hrid

/-- **The windows of the released runs**, in the order of their release, cover what the role has
    read; and the released runs are those in the list. -/
theorem released_windows (h₀ : storeSystem.init s₀) (h : storeSystem.Run s₀ tr sys) (sid : String)
    (role : Role) : Covers ((releases tr sid role).map windowOf) (sys.store.ledger.cursor (sid, role)) ∧
      (∀ r ∈ releases tr sid role, ∃ r', Ledger.Done sys.store.dispatchRuns.lookup r.1 r' ∧
        Ledger.Later r.2 r') ∧
      ∀ rid r, Ledger.Done sys.store.dispatchRuns.lookup rid r → r.key = (sid, role) →
        rid ∈ (releases tr sid role).map Prod.fst := by
  refine h.invariant (P := fun tr sys =>
    Covers ((releases tr sid role).map windowOf) (sys.store.ledger.cursor (sid, role)) ∧
      (∀ r ∈ releases tr sid role, ∃ r', Ledger.Done sys.store.dispatchRuns.lookup r.1 r' ∧
        Ledger.Later r.2 r') ∧
      ∀ rid r, Ledger.Done sys.store.dispatchRuns.lookup rid r → r.key = (sid, role) →
        rid ∈ (releases tr sid role).map Prod.fst) ?_ ?_
  · have hk := keeps_initNew h₀
    refine ⟨?_, fun r hr => (by cases hr), fun rid r hr => ?_⟩
    · rw [hk.cursor]
      exact .nil
    · obtain ⟨r₀, hr₀, -⟩ := hk.done.2 rid r hr
      cases hr₀.1
  · rintro tr sys a _ hrun ⟨hcov, hrel, hall⟩ rfl
    have hsafe := reachable_safe ⟨s₀, tr, h₀, hrun⟩
    have happ : releases (tr ++ [⟨sys, a, sys.next a⟩]) sid role =
        releases tr sid role ++ releasedBy ⟨sys, a, sys.next a⟩ sid role := by
      simp [releases]
    rw [happ]
    rcases next_releases hsafe a with hk | ⟨rid, hr⟩
    · rw [releasedBy_of_keeps hk, List.append_nil, hk.cursor]
      refine ⟨hcov, fun r hmem => ?_, fun x r hd hkey => ?_⟩
      · obtain ⟨r', hd, hl⟩ := hrel r hmem
        obtain ⟨r'', hd', hl'⟩ := hk.done.1 r.1 r' hd
        exact ⟨r'', hd', hl.trans hl'⟩
      · obtain ⟨r₀, hd₀, hl⟩ := hk.done.2 x r hd
        exact hall x r₀ hd₀ (hl.key ▸ hkey)
    · obtain ⟨r, hd, hfrom, hlt, hcur⟩ := hr.done
      rw [releasedBy_of_releases hr hd, hcur]
      have hold : ∀ x : Nat × DispatchRun, Ledger.Done sys.store.dispatchRuns.lookup x.1 x.2 → x.1 ≠ rid :=
        fun x hx hk => hr.fresh x.2 (hk ▸ hx)
      have hrel' : ∀ x ∈ releases tr sid role, ∃ r', Ledger.Done
          (sys.next a).store.dispatchRuns.lookup x.1 r' ∧ Ledger.Later x.2 r' := by
        intro x hmem
        obtain ⟨r', hd', hl⟩ := hrel x hmem
        obtain ⟨r'', hd'', hl'⟩ := (hr.others x.1 (hold (x.1, r') hd')).1 r' hd'
        exact ⟨r'', hd'', hl.trans hl'⟩
      have hall' : ∀ x r', x ≠ rid → Ledger.Done (sys.next a).store.dispatchRuns.lookup x r' →
          r'.key = (sid, role) → x ∈ (releases tr sid role).map Prod.fst := by
        intro x r' hx hd' hkey
        obtain ⟨r₀, hd₀, hl⟩ := (hr.others x hx).2 r' hd'
        exact hall x r₀ hd₀ (hl.key ▸ hkey)
      by_cases hkey : r.key = (sid, role)
      · rw [if_pos hkey, if_pos hkey.symm]
        refine ⟨?_, ?_, fun x r' hd' hk => ?_⟩
        · rw [hkey] at hfrom hlt
          rw [List.map_append, List.map_singleton, windowOf, hfrom]
          exact hcov.snoc hlt
        · intro x hmem
          rcases List.mem_append.1 hmem with hmem | hmem
          · exact hrel' x hmem
          · rw [List.mem_singleton.1 hmem]
            exact ⟨r, hd, .refl r⟩
        · rw [List.map_append, List.mem_append]
          by_cases hx : x = rid
          · exact .inr (by simp [hx])
          · exact .inl (hall' x r' hx hd' hk)
      · rw [if_neg hkey, if_neg fun h => hkey h.symm, List.append_nil]
        refine ⟨hcov, hrel', fun x r' hd' hk => hall' x r' (fun hx => hkey ?_) hd' hk⟩
        rw [hx] at hd'
        rw [← hk, Option.some.inj (hd.1.symm.trans hd'.1)]

/-- The role cursor of a Session. -/
def State.cursorOf (s : State) (sid : String) (role : Role) : Nat :=
  (s.sessions.lookup sid).elim 0 fun session => session.roleCursors.get role

theorem cursor_ledger (s : State) (sid : String) (role : Role) :
    s.ledger.cursor (sid, role) = s.cursorOf sid role := by
  unfold Ledger.cursor State.cursorOf
  change (s.view sid).elim 0 _ = _
  unfold State.view
  cases s.sessions.lookup sid <;> rfl

/-- A step moves a cursor forward or not at all, and then only with a release. -/
theorem next_cursor (h : sys.Safe) (a : Action) (sid : String) (role : Role) :
    sys.store.cursorOf sid role ≤ (sys.next a).store.cursorOf sid role ∧
      (releasedBy ⟨sys, a, sys.next a⟩ sid role = [] →
        (sys.next a).store.cursorOf sid role = sys.store.cursorOf sid role) := by
  rw [← cursor_ledger, ← cursor_ledger]
  rcases next_releases h a with hk | ⟨rid, hr⟩
  · exact ⟨(hk.cursor _).ge, fun _ => hk.cursor _⟩
  · obtain ⟨r, hd, -, hlt, hcur⟩ := hr.done
    rw [releasedBy_of_releases hr hd, hcur]
    by_cases hkey : r.key = (sid, role)
    · rw [if_pos hkey.symm, if_pos hkey]
      exact ⟨(hkey ▸ hlt).le, fun h => by cases h⟩
    · rw [if_neg fun h => hkey h.symm]
      exact ⟨le_rfl, fun _ => rfl⟩

/-- **Role windows partition the log**: for every run of the store, the windows of the released
    runs of a role, in the order of their release, follow one another from 1 to the cursor of
    the role; and the cursor never moves back, and moves only with a release. -/
theorem windows_partition (h₀ : storeSystem.init s₀) (h : storeSystem.Run s₀ tr sys) (sid : String)
    (role : Role) :
    Covers ((releases tr sid role).map windowOf) (sys.store.cursorOf sid role) ∧
      ((releases tr sid role).map windowOf).flatMap windowSeqs =
        List.range' 1 (sys.store.cursorOf sid role) ∧
      (∀ rid, rid ∈ (releases tr sid role).map Prod.fst ↔ ∃ r,
        sys.store.dispatchRuns.lookup rid = some r ∧ r.leaseState = .released ∧
          r.key = (sid, role)) ∧
      ∀ e ∈ tr, e.pre.store.cursorOf sid role ≤ e.post.store.cursorOf sid role ∧
        (releasedBy e sid role = [] →
          e.post.store.cursorOf sid role = e.pre.store.cursorOf sid role) := by
  obtain ⟨hcov, hrel, hall⟩ := released_windows h₀ h sid role
  rw [cursor_ledger] at hcov
  refine ⟨hcov, hcov.seqs, fun rid => ⟨fun hmem => ?_, ?_⟩, fun e he => ?_⟩
  · obtain ⟨r, hr, rfl⟩ := List.mem_map.1 hmem
    obtain ⟨r', hd, hl⟩ := hrel r hr
    obtain ⟨e, -, he⟩ := List.mem_flatMap.1 hr
    exact ⟨r', hd.1, hd.2, hl.key.trans (mem_releasedBy.1 he).2.1⟩
  · rintro ⟨r, hl, hd, hk⟩
    exact hall rid r ⟨hl, hd⟩ hk
  · have hsafe := reachable_safe ((h.reachable (.init h₀)).2 e he)
    obtain ⟨pre, a, post⟩ := e
    have hstep : post = pre.next a := h.step_of_mem he
    rw [hstep]
    exact next_cursor hsafe a sid role

/-! ## Three turns of a Session -/

/-- A GoalManager run fails, and the next one finds new input. -/
def retried : List Action :=
  thenCommit started (clock 3) (.failed "no answer") ++
    [⟨clock 4, .appendUserInput "a" "root" "go on" ""⟩, ⟨clock 5, .acquire none⟩]

/-- It hands over to the Worker, which runs. -/
def handedOver : List Action :=
  thenCommit (retried ++ [⟨clock 6, .declareCompletion "a" .incomplete "not yet" "GoalManager"
      (some (newStore.nexts retried).firstLease.runId) {}⟩])
    (clock 7) (.result ⟨"prompt", "output", "codex", ""⟩) ++ [⟨clock 8, .acquire none⟩]

def workerDone : List Action :=
  thenCommit handedOver (clock 9) (.result ⟨"prompt", "output", "codex", ""⟩)

/-- The runs that failed, decided and worked have each read a window of their role. -/
theorem windows_partition_workerDone :
    (newStore.nexts workerDone).store.dispatchRuns.items.map (fun r => (r.2.key, windowOf r)) =
      [(("a", .workerAgent), (1, 6)), (("a", .goalManager), (2, 4)),
        (("a", .goalManager), (1, 1))] ∧
    ∃ tr, storeSystem.Run newStore tr (newStore.nexts workerDone) ∧
      Covers ((releases tr "a" .goalManager).map windowOf) 4 ∧
      Covers ((releases tr "a" .workerAgent).map windowOf) 6 := by
  have hall : (newStore.nexts workerDone).store.dispatchRuns.items.map
        (fun r => (r.2.key, windowOf r)) =
        [(("a", .workerAgent), (1, 6)), (("a", .goalManager), (2, 4)),
          (("a", .goalManager), (1, 1))] ∧
      (newStore.nexts workerDone).store.cursorOf "a" .goalManager = 4 ∧
      (newStore.nexts workerDone).store.cursorOf "a" .workerAgent = 6 := by
    decide +kernel
  obtain ⟨hruns, hmanager, hworker⟩ := hall
  obtain ⟨tr, hr⟩ := run_nexts newStore workerDone
  exact ⟨hruns, tr, hr, hmanager ▸ (windows_partition init_newStore hr "a" .goalManager).1,
    hworker ▸ (windows_partition init_newStore hr "a" .workerAgent).1⟩

end Aize
