/-
  What holds of every ledger, whatever happens to its runs.

  An entry and a run work on the Goal of their Session, a run and the entry it was
  given agree, and neither a window nor a cursor goes beyond the log. `Step.sound`:
  every step keeps this, also one that loses a run or requeues an entry.
-/
import Aize.Leases

namespace Aize
namespace Ledger

variable {c c' : Ledger} {sid : String}

/-- The Session has this Goal. -/
def Owns (b : Book) (sid : String) (goalId : Nat) : Prop :=
  ∃ v g, b.session sid = some v ∧ v.goal = some g ∧ g.goalId = goalId

theorem Owns.unique {b : Book} {goalId goalId' : Nat} (h : Owns b sid goalId)
    (h' : Owns b sid goalId') : goalId = goalId' := by
  obtain ⟨v, g, hv, hg, hid⟩ := h
  obtain ⟨v', g', hv', hg', hid'⟩ := h'
  rw [hv] at hv'
  cases hv'
  rw [hg] at hg'
  cases hg'
  exact hid.symm.trans hid'

theorem Owns.grows {b b' : Book} {goalId : Nat} (h : Owns b sid goalId) (hg : Grows b b') :
    Owns b' sid goalId := by
  obtain ⟨v, g, hv, hgo, hid⟩ := h
  obtain ⟨v', hv', -, hgoal⟩ := (hg sid).2.2 v hv
  obtain ⟨g', hg', hid'⟩ := hgoal g hgo
  exact ⟨v', g', hv', hg', hid'.trans hid⟩

/-- The assignment of work to a Session: its Goal, and a window within its log. -/
def Assigned (b : Book) (sid : String) (goalId toSeq : Nat) : Prop :=
  Owns b sid goalId ∧ toSeq ≤ (b.log sid).length

theorem Assigned.grows {b b' : Book} {goalId n : Nat} (h : Assigned b sid goalId n)
    (hg : Grows b b') : Assigned b' sid goalId n :=
  ⟨h.1.grows hg, h.2.trans (hg sid).1⟩

structure Sound (c : Ledger) : Prop where
  ids : (c.readiness.map Readiness.readinessId).Nodup
  entry : ∀ e ∈ c.readiness, Assigned c.toBook e.sessionId e.goalId e.observedToSeq
  run : ∀ rid r, c.run rid = some r → Assigned c.toBook r.sessionId r.goalId r.observedToSeq
  held : ∀ e ∈ c.readiness, ∀ rid r, c.run rid = some r → r.readinessId = e.readinessId →
    r.key = e.key
  cursor : ∀ sid v role, c.session sid = some v → v.cursors.get role ≤ (c.log sid).length

/-- A run afterwards was there before, with the same work. -/
def RunsKept (c c' : Ledger) : Prop :=
  ∀ rid r', c'.run rid = some r' → ∃ r, c.run rid = some r ∧ r'.key = r.key ∧
    r'.goalId = r.goalId ∧ r'.readinessId = r.readinessId ∧ r'.observedToSeq = r.observedToSeq

theorem RunsKept.of_eq (h : c'.run = c.run) : RunsKept c c' := fun _ r hr =>
  ⟨r, h ▸ hr, rfl, rfl, rfl, rfl⟩

theorem runsKept_setRun {rid : Nat} {r r' : DispatchRun} (h : c.run rid = some r)
    (hr : r'.key = r.key ∧ r'.goalId = r.goalId ∧ r'.readinessId = r.readinessId ∧
      r'.observedToSeq = r.observedToSeq) : RunsKept c (c.setRun rid r') := by
  intro rid' x hx
  rw [setRun_run] at hx
  split_ifs at hx with hk
  · cases hx; exact ⟨r, hk ▸ h, hr⟩
  · exact ⟨x, hx, rfl, rfl, rfl, rfl⟩

/-- Steps that keep Sessions, Goals and logs, and change entries but not their work. -/
theorem Sound.of_kept (hs : c.Sound) (hr : RunsKept c c') (hg : Grows c.toBook c'.toBook)
    (hids : (c'.readiness.map Readiness.readinessId).Nodup)
    (hq : ∀ e' ∈ c'.readiness, ∃ e ∈ c.readiness, e'.key = e.key ∧ e'.goalId = e.goalId ∧
      e'.readinessId = e.readinessId ∧ e'.observedToSeq = e.observedToSeq) : c'.Sound where
  ids := hids
  entry e' he' := by
    obtain ⟨e, he, hk, hgo, -, hto⟩ := hq e' he'
    have hsid : e'.sessionId = e.sessionId := congrArg Prod.fst hk
    rw [hsid, hgo, hto]
    exact (hs.entry e he).grows hg
  run rid r' hr' := by
    obtain ⟨r, h, hk, hgo, -, hto⟩ := hr rid r' hr'
    have hsid : r'.sessionId = r.sessionId := congrArg Prod.fst hk
    rw [hsid, hgo, hto]
    exact (hs.run rid r h).grows hg
  held e' he' rid r' hr' hid := by
    obtain ⟨e, he, hk, -, hi, -⟩ := hq e' he'
    obtain ⟨r, h, hkr, -, hir, -⟩ := hr rid r' hr'
    rw [hkr, hk]
    exact hs.held e he rid r h (hir.symm.trans (hid.trans hi))
  cursor sid v' role hv' := by
    obtain ⟨hlen, hnone, hsome⟩ := hg sid
    cases hv : c.session sid with
    | none =>
      rcases hnone hv with h | h
      · rw [h] at hv'; cases hv'
      · rw [h] at hv'; cases hv'; cases role <;> exact Nat.zero_le _
    | some v =>
      obtain ⟨w, hw', hcur, -⟩ := hsome v hv
      rw [hw'] at hv'
      cases hv'
      rw [hcur]
      exact (hs.cursor sid v role hv).trans hlen

/-- The same, where the queue stays as it is. -/
theorem Sound.of_runs (hs : c.Sound) (hr : RunsKept c c') (hg : Grows c.toBook c'.toBook)
    (hq : c'.readiness = c.readiness) : c'.Sound :=
  hs.of_kept hr hg (hq ▸ hs.ids) fun e he => ⟨e, hq ▸ he, rfl, rfl, rfl, rfl⟩

/-- The same, where entries change their status. -/
theorem Sound.of_map (hs : c.Sound) (hr : RunsKept c c') (hg : Grows c.toBook c'.toBook)
    {f : Readiness → Readiness} (hq : c'.readiness = c.readiness.map f)
    (hf : ∀ e, ∃ st, f e = { e with status := st }) : c'.Sound := by
  have hid : Readiness.readinessId ∘ f = Readiness.readinessId := funext fun e => by
    obtain ⟨st, h⟩ := hf e
    rw [Function.comp_apply, h]
  refine hs.of_kept hr hg (by rw [hq, List.map_map, hid]; exact hs.ids) fun e' he' => ?_
  rw [hq] at he'
  obtain ⟨e, he, rfl⟩ := List.mem_map.1 he'
  obtain ⟨st, h⟩ := hf e
  rw [h]
  exact ⟨e, he, rfl, rfl, rfl, rfl⟩

theorem grows_recursored {b b' : Book} (h : Recursored b b') {sid : String} {v : SessionView}
    (hv : b.session sid = some v) : ∃ v', b'.session sid = some v' ∧ v'.goal = v.goal := by
  obtain ⟨-, C, hC⟩ := h
  refine ⟨{ v with cursors := C sid v.cursors }, ?_, rfl⟩
  rw [hC, hv]
  rfl

/-- Moving cursors does not touch what work is assigned to. -/
theorem Assigned.recursored {b b' : Book} {goalId n : Nat} (h : Assigned b sid goalId n)
    (hb : Recursored b b') : Assigned b' sid goalId n := by
  obtain ⟨⟨v, g, hv, hg, hid⟩, hn⟩ := h
  obtain ⟨v', hv', hgo⟩ := grows_recursored hb hv
  exact ⟨⟨v', g, hv', hgo.trans hg, hid⟩, by rw [hb.1]; exact hn⟩

theorem Sound.of_recursored (hs : c.Sound) (hr : RunsKept c c') (hb : Recursored c.toBook c'.toBook)
    (hq : c'.readiness = c.readiness)
    (hcur : ∀ sid v role, c'.session sid = some v → v.cursors.get role ≤ (c'.log sid).length) :
    c'.Sound where
  ids := hq ▸ hs.ids
  entry e he := (hs.entry e (hq ▸ he)).recursored hb
  run rid r' hr' := by
    obtain ⟨r, h, hk, hgo, -, hto⟩ := hr rid r' hr'
    have hsid : r'.sessionId = r.sessionId := congrArg Prod.fst hk
    rw [hsid, hgo, hto]
    exact (hs.run rid r h).recursored hb
  held e he rid r' hr' hid := by
    obtain ⟨r, h, hkr, -, hir, -⟩ := hr rid r' hr'
    rw [hkr]
    exact hs.held e (hq ▸ he) rid r h (hir.symm.trans hid)
  cursor := hcur

/-- A refreshed queue. -/
theorem Refreshed.sound {l : List Readiness} (hl : c.Refreshed l) (hs : c.Sound) :
    (c.setReadiness l).Sound where
  ids := hl.ids
  entry e he := by
    rcases (hl.mem e he).2 with h | ⟨-, h⟩
    · exact hs.entry e h
    · obtain ⟨v, g, hv, hg, hid, -, -, hn⟩ := h.window
      exact ⟨⟨v, g, hv, hg, hid⟩, hn⟩
  run := hs.run
  held e he rid r hr hid := by
    rcases (hl.mem e he).2 with h | ⟨-, h⟩
    · exact hs.held e h rid r hr hid
    · rcases h.id with ⟨e', he', -, hid', hk⟩ | hno
      · rw [← hk]
        exact hs.held e' he' rid r hr (hid.trans hid'.symm)
      · exact absurd hid (hno rid r hr)
  cursor := hs.cursor

/-- **Every step keeps a ledger sound.** -/
theorem Step.sound {lb : Label} (h : Step c lb c') (hs : c.Sound) : c'.Sound := by
  cases h with
  | book hb => exact hs.of_runs (.of_eq rfl) (grows_of_bookStep hb) rfl
  | @clamp sid v hv =>
    refine hs.of_recursored (.of_eq rfl) (recursored_setSession hv _) rfl fun x w role hw => ?_
    rw [setBook_toBook, Book.setSession_session] at hw
    split_ifs at hw with hx
    · cases hw
      subst hx
      cases role
      · exact min_le_right _ _
      · exact min_le_right _ _
    · exact hs.cursor x w role hw
  | interrupt hr => exact hs.of_runs (runsKept_setRun hr.1 ⟨rfl, rfl, rfl, rfl⟩) (.refl _) rfl
  | amend d st hr => exact hs.of_runs (runsKept_setRun hr ⟨rfl, rfl, rfl, rfl⟩) (.refl _) rfl
  | retire hl =>
    obtain ⟨F, hF, hcases⟩ := hl
    refine hs.of_map (.of_eq rfl) (.refl _) hF fun e => ?_
    rcases hcases e with h | ⟨st, -, h⟩
    · exact ⟨e.status, h⟩
    · exact ⟨st, h⟩
  | refresh hl => exact hl.sound hs
  | @acquire rid r e hnone _ he hready _ _ hkey hgoal hid _ hto =>
    have hsid : r.sessionId = e.sessionId := congrArg Prod.fst hkey
    have hmem : ∀ x ∈ (c.readiness.map fun x =>
        if x.readinessId = e.readinessId then { x with status := .acquired } else x),
        ∃ y ∈ c.readiness, x.key = y.key ∧ x.goalId = y.goalId ∧ x.readinessId = y.readinessId ∧
          x.observedToSeq = y.observedToSeq ∧ x.sessionId = y.sessionId := by
      intro x hx
      obtain ⟨y, hy, rfl⟩ := List.mem_map.1 hx
      refine ⟨y, hy, ?_⟩
      split_ifs <;> exact ⟨rfl, rfl, rfl, rfl, rfl⟩
    refine ⟨?_, fun x hx => ?_, fun rid' r' hr' => ?_, fun x hx rid' r' hr' hxid => ?_, hs.cursor⟩
    · rw [setReadiness_readiness, List.map_map]
      have : (Readiness.readinessId ∘ fun x : Readiness =>
          if x.readinessId = e.readinessId then { x with status := .acquired } else x) =
          Readiness.readinessId := funext fun x => (ite_status x _).1
      rw [this]; exact hs.ids
    · obtain ⟨y, hy, -, hg, -, ht, hsy⟩ := hmem x hx
      rw [hg, ht, hsy]
      exact hs.entry y hy
    · rw [setReadiness_run, setRun_run] at hr'
      split_ifs at hr' with hk
      · cases hr'
        rw [hsid, hgoal, hto]
        exact hs.entry e he
      · exact hs.run rid' r' hr'
    · obtain ⟨y, hy, hk, -, hi, -⟩ := hmem x hx
      rw [hk]
      rw [hi] at hxid
      rw [setReadiness_run, setRun_run] at hr'
      split_ifs at hr' with hkr
      · cases hr'
        rw [hkey, List.inj_on_of_nodup_map hs.ids he hy (hid.symm.trans hxid)]
      · exact hs.held y hy rid' r' hr' hxid
  | @release rid r hr =>
    refine hs.of_recursored (runsKept_setRun hr.1 ⟨rfl, rfl, rfl, rfl⟩)
      (recursored_advance _ _ _ _) rfl fun x w role hw => ?_
    rw [setBook_toBook, Book.advance_session] at hw
    split_ifs at hw with hx
    · obtain ⟨v, hv, rfl⟩ := Option.map_eq_some_iff.1 hw
      have hlen := hs.cursor x v role hv
      rw [RoleCursors.get_set]
      split_ifs with hrole
      · subst hrole
        refine max_le hlen ?_
        have := (hs.run rid r hr.1).2
        rw [hx]
        exact this
      · exact hlen
    · exact hs.cursor x w role hw
  | @recoverSession sid held _ =>
    refine hs.of_map (fun rid r' hr' => ?_) (.refl _) rfl fun e => ?_
    · obtain ⟨r, hr, rfl⟩ := Option.map_eq_some_iff.1 hr'
      refine ⟨r, hr, ?_⟩
      split_ifs <;> exact ⟨rfl, rfl, rfl, rfl⟩
    · by_cases h : e.sessionId = sid ∧ e.status = .acquired
      · exact ⟨_, if_pos h⟩
      · exact ⟨e.status, if_neg h⟩
  | requeue id =>
    refine hs.of_map (.of_eq rfl) (.refl _) rfl fun e => ?_
    by_cases h : e.readinessId = id ∧ e.status = .acquired
    · exact ⟨_, if_pos h⟩
    · exact ⟨e.status, if_neg h⟩
  | lose rid =>
    refine hs.of_runs (fun rid' r' hr' => ?_) (.refl _) rfl
    simp only [Function.update_apply] at hr'
    split_ifs at hr'
    exact ⟨r', hr', rfl, rfl, rfl, rfl⟩

/-! ## Forwarded input -/

/-- A user input that names a run names a Worker run. -/
def Forwards (c : Ledger) : Prop :=
  ∀ sid, ∀ e ∈ c.log sid, ∀ rid, e.inputRun = some rid → ∀ r, c.run rid = some r →
    r.role = .workerAgent

theorem Forwards.of_kept (hf : c.Forwards) (hr : RunsKept c c') (hlog : c'.log = c.log) :
    c'.Forwards := by
  intro sid e he rid hrid r' hr'
  obtain ⟨r, h, hk, -⟩ := hr rid r' hr'
  rw [hlog] at he
  exact (congrArg Prod.snd hk).trans (hf sid e he rid hrid r h)

/-- **Every step keeps the input forwarded.** -/
theorem Step.forwards {lb : Label} (h : Step c lb c') (hf : c.Forwards) : c'.Forwards := by
  cases h with
  | book hb =>
    intro sid e he rid hrid r hr
    obtain ⟨es, hes, hfits, -⟩ := hb.log_grows sid
    rw [setBook_toBook, hes] at he
    rcases List.mem_append.1 he with he | he
    · exact hf sid e he rid hrid r hr
    · obtain ⟨r', hr', hrole⟩ := hfits.forwarded e he rid hrid
      rw [setBook_run, hr'] at hr
      cases hr
      exact hrole
  | clamp hv => exact hf.of_kept (.of_eq rfl) rfl
  | interrupt hr => exact hf.of_kept (runsKept_setRun hr.1 ⟨rfl, rfl, rfl, rfl⟩) rfl
  | amend d st hr => exact hf.of_kept (runsKept_setRun hr ⟨rfl, rfl, rfl, rfl⟩) rfl
  | retire => exact hf.of_kept (.of_eq rfl) rfl
  | refresh => exact hf.of_kept (.of_eq rfl) rfl
  | @acquire rid r e _ hfresh =>
    intro sid x hx rid' hrid' r' hr'
    rw [setReadiness_run, setRun_run] at hr'
    split_ifs at hr' with hk
    · exact absurd (hk ▸ hrid') (hfresh sid x hx).2
    · exact hf sid x hx rid' hrid' r' hr'
  | release hr => exact hf.of_kept (runsKept_setRun hr.1 ⟨rfl, rfl, rfl, rfl⟩) rfl
  | recoverSession =>
    refine hf.of_kept (fun rid r' hr' => ?_) rfl
    obtain ⟨r, hr, rfl⟩ := Option.map_eq_some_iff.1 hr'
    refine ⟨r, hr, ?_⟩
    split_ifs <;> exact ⟨rfl, rfl, rfl, rfl⟩
  | requeue => exact hf.of_kept (.of_eq rfl) rfl
  | lose rid =>
    refine hf.of_kept (fun rid' r' hr' => ?_) rfl
    simp only [Function.update_apply] at hr'
    split_ifs at hr'
    exact ⟨r', hr', rfl, rfl, rfl, rfl⟩

/-! ## Runs over some steps -/

/-- `r'` is the record of `r` at a later time: its work is the same, and it has not got its
    lease back. -/
structure Later (r r' : DispatchRun) : Prop where
  key : r'.key = r.key
  goalId : r'.goalId = r.goalId
  readinessId : r'.readinessId = r.readinessId
  fromLogSeq : r'.fromLogSeq = r.fromLogSeq
  observedToSeq : r'.observedToSeq = r.observedToSeq
  observedGoalBody : r'.observedGoalBody = r.observedGoalBody
  acquired : r'.leaseState = .acquired → r.leaseState = .acquired

theorem Later.refl (r : DispatchRun) : Later r r := ⟨rfl, rfl, rfl, rfl, rfl, rfl, id⟩

theorem Later.trans {r r' r'' : DispatchRun} (h : Later r r') (h' : Later r' r'') : Later r r'' :=
  ⟨h'.key.trans h.key, h'.goalId.trans h.goalId, h'.readinessId.trans h.readinessId,
    h'.fromLogSeq.trans h.fromLogSeq, h'.observedToSeq.trans h.observedToSeq,
    h'.observedGoalBody.trans h.observedGoalBody, fun ha => h.acquired (h'.acquired ha)⟩

theorem later_interrupted (r : DispatchRun) : Later r r.interrupted :=
  ⟨rfl, rfl, rfl, rfl, rfl, rfl, fun ha => by cases ha⟩

theorem later_released (r : DispatchRun) : Later r r.released :=
  ⟨rfl, rfl, rfl, rfl, rfl, rfl, fun ha => by cases ha⟩

/-- What one step does to the record of a run. -/
theorem Step.run_cases {lb : Label} (h : Step c lb c') (rid : Nat) :
    (∃ r r', c.run rid = some r ∧ c'.run rid = some r' ∧ Later r r') ∨
      (c.run rid = none ∧ (c'.run rid = none ∨ lb = .acquire rid)) ∨
      (lb = .lose ∧ c'.run rid = none) := by
  have same : c'.run rid = c.run rid → (∃ r r', c.run rid = some r ∧ c'.run rid = some r' ∧
      Later r r') ∨ (c.run rid = none ∧ (c'.run rid = none ∨ lb = .acquire rid)) ∨
      (lb = .lose ∧ c'.run rid = none) := by
    intro heq
    cases hr : c.run rid with
    | none => exact .inr (.inl ⟨rfl, .inl (heq.trans hr)⟩)
    | some r => exact .inl ⟨r, r, rfl, heq.trans hr, .refl r⟩
  have set : ∀ {rid' r r'}, c.run rid' = some r → Later r r' → c'.run = (c.setRun rid' r').run →
      (∃ r r', c.run rid = some r ∧ c'.run rid = some r' ∧ Later r r') ∨
        (c.run rid = none ∧ (c'.run rid = none ∨ lb = .acquire rid)) ∨
        (lb = .lose ∧ c'.run rid = none) := by
    intro rid' r r' hr hl heq
    by_cases hk : rid = rid'
    · subst hk
      exact .inl ⟨r, r', hr, by rw [heq, setRun_run, if_pos rfl], hl⟩
    · exact same (by rw [heq, setRun_run, if_neg hk])
  cases h with
  | book => exact same rfl
  | clamp => exact same rfl
  | interrupt hr => exact set hr.1 (later_interrupted _) rfl
  | @amend rid' r d st hr =>
    have hlater : Later r { r with declaredOutcome := d, staleResults := st } :=
      ⟨rfl, rfl, rfl, rfl, rfl, rfl, id⟩
    exact set hr hlater rfl
  | retire => exact same rfl
  | refresh => exact same rfl
  | @acquire rid' r e hnone =>
    by_cases hk : rid = rid'
    · subst hk
      exact .inr (.inl ⟨hnone, .inr rfl⟩)
    · exact same (by rw [setReadiness_run, setRun_run, if_neg hk])
  | release hr => exact set hr.1 (later_released _) rfl
  | @recoverSession sid =>
    cases hr : c.run rid with
    | none => exact .inr (.inl ⟨rfl, .inl (congrArg (Option.map _) hr)⟩)
    | some r =>
      refine .inl ⟨r, _, rfl, congrArg (Option.map _) hr, ?_⟩
      dsimp only
      split_ifs
      · exact later_interrupted r
      · exact .refl r
  | requeue => exact same rfl
  | lose rid' =>
    by_cases hk : rid = rid'
    · subst hk
      exact .inr (.inr ⟨rfl, Function.update_self ..⟩)
    · exact same (Function.update_of_ne hk ..)

variable {P : Label → Prop}

/-- A run stays, unless records are lost. -/
theorem Steps.run_forth (h : Steps P c c') (hlose : ¬P .lose) {rid : Nat} {r : DispatchRun}
    (hr : c.run rid = some r) : ∃ r', c'.run rid = some r' ∧ Later r r' :=
  h.invariant (I := fun c => ∃ r', c.run rid = some r' ∧ Later r r') ⟨r, hr, .refl r⟩ <| by
    rintro c₁ lb c₂ ⟨r₁, h₁, hl₁⟩ hlb hstep
    rcases hstep.run_cases rid with ⟨r, r₂, h, h₂, hl₂⟩ | ⟨h, -⟩ | ⟨rfl, -⟩
    · rw [h₁] at h
      cases h
      exact ⟨r₂, h₂, hl₁.trans hl₂⟩
    · rw [h₁] at h
      cases h
    · exact absurd hlb hlose

/-- A run that is not new was there before. -/
theorem Steps.run_back (h : Steps P c c') {rid : Nat} (hnew : ¬P (.acquire rid)) {r' : DispatchRun}
    (hr : c'.run rid = some r') : ∃ r, c.run rid = some r ∧ Later r r' := by
  have key := h.invariant (I := fun c' => ∀ r', c'.run rid = some r' → ∃ r, c.run rid = some r ∧
    Later r r') (fun r hr => ⟨r, hr, .refl r⟩) <| by
    intro c₁ lb c₂ ih hlb hstep r₂ hr₂
    rcases hstep.run_cases rid with ⟨r, r₂', h, h₂, hl₂⟩ | ⟨-, h | rfl⟩ | ⟨-, h⟩
    · rw [hr₂] at h₂
      cases h₂
      obtain ⟨r₀, h₀, hl₀⟩ := ih r h
      exact ⟨r₀, h₀, hl₀.trans hl₂⟩
    · rw [hr₂] at h
      cases h
    · exact absurd hlb hnew
    · rw [hr₂] at h
      cases h
  exact key r' hr

end Ledger
end Aize
