/-
  A complete Goal has been completed by a GoalManager run that had seen every requirement.

  One step of a ledger completes a Goal with all requirements inside the window of the
  run (`Step.complete_cases`), or it found the Goal complete and brought no requirement.
  `completed_by` carries this along the runs of the store: the operation that completed
  the Goal was the commit of a run that still held its lease.
-/
import Aize.Reachable

namespace Aize

/-- The Goal of the Session is complete, and no requirement is later than `n`. -/
def Book.Finished (b : Book) (sid : String) (n : Nat) : Prop :=
  ∃ v g, b.session sid = some v ∧ v.goal = some g ∧ g.completionState = .complete ∧
    ∀ e ∈ b.log sid, e.isRequirement → e.seq ≤ n

/-- The Goal of the Session is complete. -/
def Book.Complete (b : Book) (sid : String) : Prop :=
  ∃ v g, b.session sid = some v ∧ v.goal = some g ∧ g.completionState = .complete

/-- The Goal was complete before, and nothing new is required of it. -/
def Book.StaysComplete (b b' : Book) (sid : String) : Prop :=
  b.Complete sid ∧ ∀ n, b.Finished sid n → b'.Finished sid n

variable {run : Nat → Option DispatchRun} {b b' : Book} {l : Label} {sid : String}

theorem Book.StaysComplete.of_eq (hs : b'.session sid = b.session sid) (hl : b'.log sid = b.log sid)
    (h : b'.Complete sid) : b.StaysComplete b' sid := by
  obtain ⟨v, g, hv, hg, hc⟩ := h
  refine ⟨⟨v, g, hs ▸ hv, hg, hc⟩, fun n => ?_⟩
  unfold Book.Finished
  rw [hs, hl]
  exact id

/-- Changing something else of the Session, with entries that require nothing. -/
theorem Book.StaysComplete.of_session {v v' : SessionView} {g g' : GoalView} {es : List LogEntry}
    (hv : b.session sid = some v) (hg : v.goal = some g) (hc : g.completionState = .complete)
    (hv' : b'.session sid = some v') (hg' : v'.goal = some g') (hc' : g'.completionState = .complete)
    (hl : b'.log sid = b.log sid ++ es) (hes : ∀ e ∈ es, ¬e.isRequirement) :
    b.StaysComplete b' sid := by
  refine ⟨⟨v, g, hv, hg, hc⟩, ?_⟩
  rintro n ⟨-, -, -, -, -, hreq⟩
  refine ⟨v', g', hv', hg', hc', fun e he hr => ?_⟩
  rw [hl] at he
  rcases List.mem_append.1 he with he | he
  · exact hreq e he hr
  · exact absurd hr (hes e he)

/-- **What one step on the book does to a complete Goal.** -/
theorem BookStep.complete_cases (h : BookStep run b l b') (hb : b.Consistent run)
    (hc : b'.Complete sid) :
    (∃ rid r, l = .complete sid rid ∧ run rid = some r ∧ r.role = .goalManager ∧
      b'.Finished sid r.observedToSeq) ∨ b.StaysComplete b' sid := by
  have hold := hb.state sid
  cases h with
  | @note sid' v e hv hf hq =>
    by_cases hk : sid = sid'
    · subst hk
      obtain ⟨v', g, hv', hg, hcomp⟩ := hc
      refine .inr (.of_session hv' hg hcomp hv' hg hcomp (by rw [Book.addEntries_log, if_pos rfl]) ?_)
      intro x hx
      rw [List.mem_singleton.1 hx, LogEntry.not_requirement_of_quiet hq]
      exact Bool.false_ne_true
    · exact .inr (.of_eq rfl (by rw [Book.addEntries_log, if_neg hk]) hc)
  | arrive hall =>
    rcases hall sid with ⟨hs, hl⟩ | ⟨v, es, goal, hv, hv', hl, -, hw⟩
    · exact .inr (.of_eq hs hl hc)
    · -- what arrives finds or leaves the Goal incomplete
      obtain ⟨w, g, hw', hg, hcomp⟩ := hc
      rw [hv'] at hw'
      cases hw'
      cases hw with
      | keep hinc _ =>
        rw [hinc g hg] at hcomp
        cases hcomp
      | reopen _ hinc _ =>
        cases hg
        rw [hinc] at hcomp
        cases hcomp
  | @openSession sid' hn hl =>
    by_cases hk : sid = sid'
    · subst hk
      obtain ⟨w, g, hw, hg, -⟩ := hc
      rw [Book.setSession_session, if_pos rfl] at hw
      cases hw
      cases hg
    · exact .inr (.of_eq (by rw [Book.setSession_session, if_neg hk]) rfl hc)
  | @setActive sid' v e a a' actor hv hf hbody =>
    by_cases hk : sid = sid'
    · subst hk
      obtain ⟨w, g, hw, hg, hcomp⟩ := hc
      have hw' := hw
      rw [Book.setSession_session, if_pos rfl] at hw
      cases hw
      refine .inr (.of_session hv hg hcomp hw' hg hcomp
        (by rw [Book.setSession_log, Book.addEntries_log, if_pos rfl]) ?_)
      intro x hx
      rw [List.mem_singleton.1 hx]
      simp [LogEntry.isRequirement, hbody]
    · exact .inr (.of_eq (by rw [Book.setSession_session, if_neg hk]; rfl)
        (by rw [Book.setSession_log, Book.addEntries_log, if_neg hk]) hc)
  | @reactivate sid' v hv =>
    by_cases hk : sid = sid'
    · subst hk
      obtain ⟨w, g, hw, hg, hcomp⟩ := hc
      have hw' := hw
      rw [Book.setSession_session, if_pos rfl] at hw
      cases hw
      exact .inr (.of_session hv hg hcomp hw' hg hcomp (by rw [List.append_nil]; rfl)
        fun e he => absurd he List.not_mem_nil)
    · exact .inr (.of_eq (by rw [Book.setSession_session, if_neg hk]) rfl hc)
  | @unlogged sid' v g₀ g hv hg₀ hid hinc₀ hinc =>
    by_cases hk : sid = sid'
    · subst hk
      obtain ⟨w, g', hw, hg, hcomp⟩ := hc
      rw [Book.setSession_session, if_pos rfl] at hw
      cases hw
      cases hg
      rw [hinc] at hcomp
      cases hcomp
    · exact .inr (.of_eq (by rw [Book.setSession_session, if_neg hk]) rfl hc)
  | @complete sid' v g rid r e t hv hg hr hrole hsid hreq hf hbody ht =>
    by_cases hk : sid = sid'
    · subst hk
      refine .inl ⟨rid, r, rfl, hr, hrole, _, _, by rw [Book.setSession_session, if_pos rfl], rfl,
        rfl, fun x hx hrx => ?_⟩
      rw [Book.setSession_log, Book.addEntries_log, if_pos rfl] at hx
      rcases List.mem_append.1 hx with hx | hx
      · exact hreq x hx hrx
      · rw [List.mem_singleton.1 hx] at hrx
        simp [LogEntry.isRequirement, hbody] at hrx
    · exact .inr (.of_eq (by rw [Book.setSession_session, if_neg hk]; rfl)
        (by rw [Book.setSession_log, Book.addEntries_log, if_neg hk]) hc)
  | @replay sid' v hv =>
    by_cases hk : sid = sid'
    · subst hk
      obtain ⟨w, g', hw, hg', hcomp⟩ := hc
      have hw' := hw
      rw [Book.setSession_session, if_pos rfl] at hw
      cases hw
      have hg₁ := hg'
      obtain ⟨g, hg, rfl⟩ := Option.map_eq_some_iff.1 hg'
      -- the log of a consistent book replays to what the Goal is
      have hcomp₀ : g.completionState = .complete := (hold v g hv hg).symm.trans hcomp
      exact .inr (.of_session hv hg hcomp₀ hw' hg₁ hcomp
        (by rw [List.append_nil]; rfl) fun e he => absurd he List.not_mem_nil)
    · exact .inr (.of_eq (by rw [Book.setSession_session, if_neg hk]) rfl hc)

/-- Moving cursors does not touch Goals or logs. -/
theorem complete_recursored (h : Ledger.Recursored b b') (hc : b'.Complete sid) :
    b.StaysComplete b' sid := by
  obtain ⟨hlog, C, hC⟩ := h
  obtain ⟨v', g, hv', hg, hcomp⟩ := hc
  have hmap := hv'
  rw [hC] at hmap
  obtain ⟨v, hv, rfl⟩ := Option.map_eq_some_iff.1 hmap
  exact .of_session hv hg hcomp hv' hg hcomp (by rw [hlog, List.append_nil])
    fun e he => absurd he List.not_mem_nil

namespace Ledger

variable {c c' : Ledger} {P : Label → Prop}

/-- **What one step of a ledger does to a complete Goal.** -/
theorem Step.complete_cases (h : Step c l c') (hb : c.Consistent) (hc : c'.toBook.Complete sid) :
    (∃ rid r, l = .complete sid rid ∧ c'.run rid = some r ∧ r.role = .goalManager ∧
      c'.toBook.Finished sid r.observedToSeq) ∨ c.toBook.StaysComplete c'.toBook sid := by
  cases h with
  | book hs => exact hs.complete_cases hb hc
  | clamp hv => exact .inr (complete_recursored (recursored_setSession hv _) hc)
  | release => exact .inr (complete_recursored (recursored_advance _ _ _ _) hc)
  | interrupt => exact .inr (.of_eq rfl rfl hc)
  | amend => exact .inr (.of_eq rfl rfl hc)
  | retire => exact .inr (.of_eq rfl rfl hc)
  | refresh => exact .inr (.of_eq rfl rfl hc)
  | acquire => exact .inr (.of_eq rfl rfl hc)
  | recoverSession => exact .inr (.of_eq rfl rfl hc)
  | requeue => exact .inr (.of_eq rfl rfl hc)
  | lose => exact .inr (.of_eq rfl rfl hc)

/-- The Goal of the Session has been completed by a run of a label in `P`. -/
def CompletedIn (P : Label → Prop) (c' : Ledger) (sid : String) : Prop :=
  ∃ rid r, P (.complete sid rid) ∧ c'.run rid = some r ∧ r.role = .goalManager ∧
    c'.toBook.Finished sid r.observedToSeq

/-- **Some steps**: a Goal that is complete after them was complete before, or one of them has
    completed it. -/
theorem Steps.complete_cases (h : Steps P c c') (hP : ¬P .lose) (hb : c.Consistent)
    (hc : c'.toBook.Complete sid) :
    CompletedIn P c' sid ∨ c.toBook.StaysComplete c'.toBook sid := by
  refine (h.invariant (I := fun c₁ => c₁.Consistent ∧ (c₁.toBook.Complete sid →
    CompletedIn P c₁ sid ∨ c.toBook.StaysComplete c₁.toBook sid)) ⟨hb, fun hc => .inr ?_⟩ ?_).2 hc
  · exact .of_eq rfl rfl hc
  · rintro c₁ lb c₂ ⟨hb₁, ih⟩ hlb hstep
    refine ⟨hstep.consistent hb₁, fun hc₂ => ?_⟩
    rcases hstep.complete_cases hb₁ hc₂ with ⟨rid, r, rfl, hr, hrole, hfin⟩ | ⟨hc₁, hfin⟩
    · exact .inl ⟨rid, r, hlb, hr, hrole, hfin⟩
    · rcases ih hc₁ with ⟨rid, r, hrid, hr, hrole, hfin₁⟩ | ⟨hc₀, hfin₀⟩
      · -- the run of the completing step is still there
        have hsteps : Steps P c₁ c₂ := .of_step hlb hstep
        obtain ⟨r', hr', hl⟩ := hsteps.run_forth hP hr
        refine .inl ⟨rid, r', hrid, hr', (congrArg Prod.snd hl.key).trans hrole, ?_⟩
        rw [hl.observedToSeq]
        exact hfin _ hfin₁
      · exact .inr ⟨hc₀, fun n hn => hfin n (hfin₀ n hn)⟩

end Ledger

/-! ## Runs of the store -/

variable {sys s₀ : Sys} {tr : List (TransitionSystem.Event Sys Action)}

/-- The event is the commit of what a GoalManager run has decided on the Goal of the Session,
    and the run still holds its lease. -/
def CompletingCommit (e : TransitionSystem.Event Sys Action) (sid : String) (run : DispatchRun) :
    Prop :=
  ∃ lease result, e.act.op = .commit lease (.result result) ∧ lease ∈ e.pre.leases ∧
    lease.sessionId = sid ∧ e.pre.store.dispatchRuns.lookup lease.runId = some run ∧
    run.sessionId = sid ∧ run.leaseState = .acquired ∧ run.role = .goalManager

/-- The current Goal of the Session is complete. -/
def State.SessionComplete (s : State) (sid : String) : Prop :=
  ∃ g, s.currentGoalForSession sid = some g ∧ g.2.completionState = .complete

theorem complete_book {s : State} (hw : s.Wf) : s.SessionComplete sid ↔ s.book.Complete sid := by
  constructor
  · rintro ⟨g, hg, hc⟩
    obtain ⟨hl, hs⟩ := hw.currentGoal.1 hg
    obtain ⟨session, hsess⟩ := Dict.mem_iff_lookup.1 (hs ▸ (hw.goal _ _ hl).2.1)
    have hv : s.view sid = some ⟨session.active, session.roleCursors,
        some ⟨g.1, g.2.completionState, g.2.completionReason, g.2.body⟩⟩ :=
      State.view_eq_some_iff.2 ⟨session, hsess, rfl, rfl, by rw [hg]; rfl⟩
    exact ⟨_, _, hv, rfl, hc⟩
  · rintro ⟨v, g, hv, hg, hc⟩
    obtain ⟨session, -, -, -, hgoal⟩ := State.view_eq_some_iff.1 hv
    rw [hg] at hgoal
    obtain ⟨g', hg', rfl⟩ := Option.map_eq_some_iff.1 hgoal
    exact ⟨g', hg', hc⟩

/-- No requirement in the log of the Session is later than `n`. -/
def State.RequiredUpTo (s : State) (sid : String) (n : Nat) : Prop :=
  ∀ e ∈ s.log sid, e.isRequirement → e.seq ≤ n

/-- What an operation does to a complete Goal. -/
theorem next_complete (h : sys.Safe) (a : Action) (hc : (sys.next a).store.SessionComplete sid) :
    (∃ run, CompletingCommit ⟨sys, a, sys.next a⟩ sid run ∧
      (sys.next a).store.RequiredUpTo sid run.observedToSeq) ∨
      sys.store.SessionComplete sid ∧ ∀ n, sys.store.RequiredUpTo sid n →
        (sys.next a).store.RequiredUpTo sid n := by
  obtain ⟨-, hst⟩ := next_stores h.inv a
  have hc' := (complete_book hst.stored.wf).1 hc
  rcases Ledger.Steps.complete_cases hst.steps id h.inv.stored.book hc' with
    ⟨rid, r', ⟨lease, result, run, hop, hmem, hsid, rfl, hr, ha, hrole⟩, hr', -, hfin⟩ |
      ⟨hold, hfin⟩
  · obtain ⟨r₀, h₀, hl⟩ := Ledger.Steps.run_forth hst.steps id hr
    have hr₀ : r' = r₀ := Option.some.inj (hr'.symm.trans h₀)
    have hof := h.inv.lease lease hmem run hr
    refine .inl ⟨run, ⟨lease, result, hop, hmem, hsid, hr, hof.sessionId.symm.trans hsid, ha, hrole⟩, ?_⟩
    obtain ⟨-, -, -, -, -, hreq⟩ := hfin
    rw [hr₀, hl.observedToSeq] at hreq
    exact hreq
  · refine .inr ⟨(complete_book h.inv.stored.wf).2 hold, fun n hn => ?_⟩
    obtain ⟨v, g, hv, hg, hcomp⟩ := hold
    obtain ⟨-, -, -, -, -, hreq⟩ := hfin n ⟨v, g, hv, hg, hcomp, hn⟩
    exact hreq

/-- **Completion safety**: in every run of the store, a complete Goal has been completed by the
    commit of a GoalManager run that held its lease, it has been complete since, and every
    requirement in the log of its Session was in what the run had seen. -/
theorem completed_by (h₀ : storeSystem.init s₀) (h : storeSystem.Run s₀ tr sys)
    (hc : sys.store.SessionComplete sid) :
    ∃ before e after run, tr = before ++ e :: after ∧ CompletingCommit e sid run ∧
      (∀ e' ∈ e :: after, e'.post.store.SessionComplete sid) ∧
      ∀ x ∈ sys.store.log sid, x.isRequirement → x.seq ≤ run.observedToSeq := by
  refine h.invariant (P := fun tr sys => sys.store.SessionComplete sid →
    ∃ before e after run, tr = before ++ e :: after ∧ CompletingCommit e sid run ∧
      (∀ e' ∈ e :: after, e'.post.store.SessionComplete sid) ∧
      sys.store.RequiredUpTo sid run.observedToSeq) ?_ ?_ hc
  · -- a new store has no Goals
    intro hc
    obtain ⟨env, hs, -⟩ := h₀
    have hnew := initNew_stores hs
    rcases Ledger.Steps.complete_cases hnew.steps (fun h => by cases h) intact_empty.book
      ((complete_book hnew.stored.wf).1 hc) with ⟨rid, r, hrid, -⟩ | ⟨⟨v, g, hv, -⟩, -⟩
    · cases hrid
    · cases hv
  · rintro tr sys a _ hrun ih rfl hc
    have hsafe := reachable_safe ⟨s₀, tr, h₀, hrun⟩
    rcases next_complete hsafe a hc with ⟨run, hcommit, hreq⟩ | ⟨hold, hreq⟩
    · refine ⟨tr, _, [], run, rfl, hcommit, fun e' he' => ?_, hreq⟩
      rw [List.mem_singleton.1 he']
      exact hc
    · obtain ⟨before, e, after, run, rfl, hcommit, hsince, hold⟩ := ih hold
      refine ⟨before, e, after ++ [⟨sys, a, sys.next a⟩], run, by simp, hcommit, fun e' he' => ?_,
        hreq _ hold⟩
      rw [← List.cons_append] at he'
      rcases List.mem_append.1 he' with he' | he'
      · exact hsince e' he'
      · rw [List.mem_singleton.1 he']
        exact hc

/-- A Goal that its GoalManager completes. -/
theorem completed_by_finished : ∃ (tr : List (TransitionSystem.Event Sys Action)) (run : DispatchRun),
    ∃ e ∈ tr, CompletingCommit e "a" run ∧
    (newStore.nexts (finished .complete)).store.RequiredUpTo "a" run.observedToSeq := by
  have hc : (newStore.nexts (finished .complete)).store.SessionComplete "a" := by
    unfold State.SessionComplete
    decide +kernel
  obtain ⟨tr, hr⟩ := run_nexts newStore (finished .complete)
  obtain ⟨before, e, after, run, htr, hcommit, -, hreq⟩ := completed_by init_newStore hr hc
  exact ⟨tr, run, e, by simp [htr], hcommit, hreq⟩

end Aize
