/-
  The log as the history of the store.

  A log only grows, and it tells what has become of the Goal of its Session: the completion
  state is what a replay from a new Goal gives (`Recorded`), and a body that has changed has
  an entry of its edit (`Kept`). `log_is_history` says so of every run of the store.
-/
import Aize.Editing

namespace Aize

namespace Book

/-- The completion state that the Session shows; without a Goal nothing is complete. -/
def outcome (b : Book) (sid : String) : CompletionState :=
  ((b.session sid).bind SessionView.goal).elim .incomplete GoalView.completionState

/-- The completion states are those that the logs tell. -/
def Recorded (b : Book) : Prop :=
  ∀ sid, ((b.log sid).foldl replayGoal (.incomplete, "")).1 = b.outcome sid

end Book

section

variable {run : Nat → Option DispatchRun} {b b' : Book} {l : Label}

theorem Book.outcome_eq {sid : String} {v : SessionView} (h : b.session sid = some v) :
    b.outcome sid = v.goal.elim .incomplete GoalView.completionState := by
  unfold outcome
  rw [h]
  rfl

/-- **What a step writes into a book it writes into the log.** -/
theorem BookStep.recorded (h : BookStep run b l b') (hc : b.Consistent run) (hb : b.Recorded) :
    b'.Recorded := by
  intro sid
  have old := hb sid
  cases h with
  | @note sid' v e hv hf hq =>
    have hout : (b.addEntries sid' [e]).outcome sid = b.outcome sid := rfl
    rw [hout, Book.addEntries_log]
    split_ifs with hk
    · subst hk
      rw [List.foldl_append, List.foldl_cons, List.foldl_nil, LogEntry.replayGoal_quiet hq]
      exact old
    · exact old
  | arrive hall =>
    rcases hall sid with ⟨hs, hl⟩ | ⟨v, es, goal, hv, hs, hl, -, hw⟩
    · rw [hl, old]
      unfold Book.outcome
      rw [hs]
    · rw [Book.outcome_eq hv] at old
      rw [hl, Book.outcome_eq hs, List.foldl_append]
      cases hw with
      | keep hinc hreq =>
        have hinc' : v.goal.elim .incomplete GoalView.completionState = .incomplete := by
          cases hg : v.goal with
          | none => rfl
          | some g => exact hinc g hg
        rw [replayGoal_requirements hreq _ (old.trans hinc')]
        exact old
      | reopen _ hinc hset =>
        rw [hset.goal]
        exact hinc.symm
  | @openSession sid' hn hl =>
    rw [Book.setSession_log]
    by_cases hk : sid = sid'
    · subst hk
      rw [Book.outcome_eq (Book.setSession_session.trans (if_pos rfl)), hl]
      rfl
    · rw [old]
      unfold Book.outcome
      rw [Book.setSession_session, if_neg hk]
  | @setActive sid' v e a a' actor hv hf hbody =>
    rw [Book.setSession_log, Book.addEntries_log]
    by_cases hk : sid = sid'
    · subst hk
      rw [Book.outcome_eq (Book.setSession_session.trans (if_pos rfl)), if_pos rfl,
        List.foldl_append, List.foldl_cons, List.foldl_nil]
      simp only [replayGoal, hbody]
      rw [old, Book.outcome_eq hv]
    · rw [if_neg hk, old]
      unfold Book.outcome
      rw [Book.setSession_session, if_neg hk]
      rfl
  | @reactivate sid' v hv =>
    rw [Book.setSession_log, old]
    by_cases hk : sid = sid'
    · subst hk
      rw [Book.outcome_eq hv, Book.outcome_eq (Book.setSession_session.trans (if_pos rfl))]
    · unfold Book.outcome
      rw [Book.setSession_session, if_neg hk]
  | @unlogged sid' v g₀ g hv hg₀ hid hinc₀ hinc =>
    rw [Book.setSession_log, old]
    by_cases hk : sid = sid'
    · subst hk
      rw [Book.outcome_eq hv, Book.outcome_eq (Book.setSession_session.trans (if_pos rfl)), hg₀]
      exact hinc₀.trans hinc.symm
    · unfold Book.outcome
      rw [Book.setSession_session, if_neg hk]
  | @complete sid' v g rid r e t hv hg hr hrole hrs hreq hf hbody ht =>
    rw [Book.setSession_log, Book.addEntries_log]
    by_cases hk : sid = sid'
    · subst hk
      rw [Book.outcome_eq (Book.setSession_session.trans (if_pos rfl)), if_pos rfl,
        List.foldl_append, List.foldl_cons, List.foldl_nil]
      simp only [replayGoal, hbody, ht]
      rfl
    · rw [if_neg hk, old]
      unfold Book.outcome
      rw [Book.setSession_session, if_neg hk]
      rfl
  | @replay sid' v hv =>
    rw [Book.setSession_log, old]
    by_cases hk : sid = sid'
    · subst hk
      rw [Book.outcome_eq hv, Book.outcome_eq (Book.setSession_session.trans (if_pos rfl))]
      unfold SessionView.replay
      cases hg : v.goal with
      | none => rfl
      | some g => exact (hc.state sid v g hv hg).symm
    · unfold Book.outcome
      rw [Book.setSession_session, if_neg hk]

end

namespace Ledger

variable {c c' : Ledger}

/-- Cursors do not tell outcomes. -/
theorem recorded_of_goals (hb : c.toBook.Recorded) (hl : c'.log = c.log)
    (hs : ∀ sid, (c'.session sid).bind SessionView.goal = (c.session sid).bind SessionView.goal) :
    c'.toBook.Recorded := by
  intro sid
  unfold Book.outcome
  rw [hl, hs]
  exact hb sid

theorem Step.recorded {lb : Label} (h : Step c lb c') (hc : c.Consistent)
    (hb : c.toBook.Recorded) : c'.toBook.Recorded := by
  cases h with
  | book h => exact h.recorded hc hb
  | @clamp sid' v hv =>
    refine recorded_of_goals hb rfl fun sid => ?_
    change ((Book.setSession _ _ _).session sid).bind _ = _
    rw [Book.setSession_session]
    split_ifs with hk
    · rw [hk, hv]
      rfl
    · rfl
  | release hr =>
    refine recorded_of_goals hb rfl fun sid => ?_
    change ((Book.advance _ _ _ _).session sid).bind _ = _
    rw [Book.advance_session]
    split_ifs
    · cases c.session sid <;> rfl
    · rfl
  | _ => exact hb

end Ledger

open State

/-! ## Runs of the store -/

/-- What has become of the logs and Goals of a store. -/
structure State.Kept (s s' : State) : Prop where
  log : ∀ sid, s.log sid <+: s'.log sid
  goal : ∀ goalId g, s.goals.lookup goalId = some g → ∃ g', s'.goals.lookup goalId = some g' ∧
    g'.sessionId = g.sessionId ∧ (g'.body = g.body ∨
      ∃ es, s'.log g.sessionId = s.log g.sessionId ++ es ∧ ∃ e ∈ es, e.isEdit)

namespace State.Kept

variable {s s₁ s' : State}

theorem refl (s : State) : Kept s s :=
  ⟨fun _ => List.prefix_rfl, fun _ g hg => ⟨g, hg, rfl, .inl rfl⟩⟩

theorem trans (h₁ : Kept s s₁) (h₂ : Kept s₁ s') : Kept s s' where
  log sid := (h₁.log sid).trans (h₂.log sid)
  goal goalId g hg := by
    obtain ⟨g₁, hg₁, hsid₁, hbody₁⟩ := h₁.goal goalId g hg
    obtain ⟨g', hg', hsid', hbody'⟩ := h₂.goal goalId g₁ hg₁
    refine ⟨g', hg', hsid'.trans hsid₁, ?_⟩
    rw [hsid₁] at hbody'
    rcases hbody' with h' | ⟨es', hes', e, he, hedit⟩
    · rcases hbody₁ with h₁' | ⟨es, hes, e, he, hedit⟩
      · exact .inl (h'.trans h₁')
      · obtain ⟨es', hes'⟩ := h₂.log g.sessionId
        refine .inr ⟨es ++ es', ?_, e, List.mem_append_left es' he, hedit⟩
        rw [← hes', hes, List.append_assoc]
    · obtain ⟨es, hes⟩ := h₁.log g.sessionId
      refine .inr ⟨es ++ es', ?_, e, List.mem_append_right es he, hedit⟩
      rw [hes', ← hes, List.append_assoc]

end State.Kept

variable {sys : Sys}

theorem kept_next (h : sys.store.Stored) (a : Action) : State.Kept sys.store (sys.next a).store := by
  obtain ⟨hlog, hgoal, -, -⟩ := (next_edits h a).spec h
  refine ⟨hlog, fun goalId g hg => ?_⟩
  obtain ⟨g', hg', he⟩ := hgoal goalId g hg
  exact ⟨g', hg', he.sessionId, he.body⟩

theorem kept_nexts (hI : sys.Inv) (as : List Action) :
    State.Kept sys.store (sys.nexts as).store := by
  induction as generalizing sys with
  | nil => exact .refl _
  | cons a as ih => exact (kept_next hI.stored a).trans (ih (next_stores hI a).1)

theorem recorded_reachable (h : storeSystem.Reachable sys) : sys.store.book.Recorded := by
  have steps : ∀ {P : Label → Prop} {c c' : Ledger}, Ledger.Steps P c c' → c.Consistent →
      c.toBook.Recorded → c'.toBook.Recorded := fun h hc hb =>
    (h.invariant (I := fun c => c.Consistent ∧ c.toBook.Recorded) ⟨hc, hb⟩
      fun _ _ _ hI _ hstep => ⟨hstep.consistent hI.1, hstep.recorded hI.1 hI.2⟩).2
  refine (h.of_step (P := fun sys => sys.Inv ∧ sys.store.book.Recorded) ?_ ?_).2
  · rintro sys hinit
    obtain ⟨env, hnew, -⟩ := id hinit
    exact ⟨reachable_inv (.init hinit), steps (initNew_stores hnew).steps intact_empty.book
      fun sid => rfl⟩
  · rintro sys a _ - ⟨hI, hb⟩ rfl
    obtain ⟨hI', hst⟩ := next_stores hI a
    exact ⟨hI', steps hst.steps hI.stored.book hb⟩

/-- **The log is the history of the store.** In every reachable state each log is numbered
    1, 2, 3, …, and the completion state of a Session's Goal is what a replay of its log from a
    new Goal gives. Whatever follows, logs only grow, a Goal stays with its Session, and where
    its body has changed the log tells of the edit. -/
theorem log_is_history (h : storeSystem.Reachable sys) :
    (∀ sid, Numbered 0 (sys.store.log sid)) ∧
    (∀ sid goalId goal, sys.store.currentGoalForSession sid = some (goalId, goal) →
      ((sys.store.log sid).foldl replayGoal (.incomplete, "")).1 = goal.completionState) ∧
    ∀ as, State.Kept sys.store (sys.nexts as).store := by
  have hI := reachable_inv h
  refine ⟨hI.stored.book.numbered, fun sid goalId goal hg => ?_, kept_nexts hI⟩
  obtain ⟨session, hs⟩ := Dict.mem_iff_lookup.1
    ((hI.stored.wf.currentGoal.1 hg).2 ▸ (hI.stored.wf.goal _ _ (hI.stored.wf.currentGoal.1 hg).1).2.1)
  have hv : sys.store.book.session sid = some ⟨session.active, session.roleCursors,
      some ⟨goalId, goal.completionState, goal.completionReason, goal.body⟩⟩ :=
    view_eq_some_iff.2 ⟨session, hs, rfl, rfl, by rw [hg]; rfl⟩
  exact (recorded_reachable h sid).trans (Book.outcome_eq hv)

/-- A new requirement for the Goal of a Session at work. -/
def revision : Action := ⟨clock 3, .updateGoal "a" "build more" "root"⟩

/-- The log tells of it. -/
theorem log_is_history_revised : ∃ es, ((newStore.nexts started).nexts [revision]).store.log "a" =
    (newStore.nexts started).store.log "a" ++ es ∧ ∃ e ∈ es, e.isEdit := by
  have hall : ((newStore.nexts started).store.goals.lookup 0).map (fun g => (g.sessionId, g.body)) =
        some ("a", "build it") ∧
      (((newStore.nexts started).nexts [revision]).store.goals.lookup 0).map Goal.body =
        some "build more" := by decide +kernel
  obtain ⟨hg, hbody'⟩ := hall
  obtain ⟨g, hg, hgb⟩ := Option.map_eq_some_iff.1 hg
  obtain ⟨hsid, hbody⟩ := Prod.mk.inj hgb
  have hkept := (log_is_history (reachable_nexts started)).2.2 [revision]
  obtain ⟨g', hg', -, hsame | hedit⟩ := hkept.goal 0 g hg
  · rw [hg', Option.map_some, Option.some.injEq, hsame, hbody] at hbody'
    exact absurd hbody' (by decide)
  · exact hsid ▸ hedit

end Aize
