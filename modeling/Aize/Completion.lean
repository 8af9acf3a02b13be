/-
  The completion of a Goal, with what it does to the parent Sessions.

  Each existing parent gets a `ChildGoalCompleted` entry, and then each parent Goal
  that is complete is reopened. The two loops of the source visit the same parents,
  so a parent sees both effects, but not at once; for the ledger they are one step
  (`BookStep.arrive`), since in between a complete Goal has an unseen requirement.
  `Works` follows the work on several Sessions up to this step.
-/
import Aize.Writes

namespace Aize
namespace State

variable {run : Nat → Option DispatchRun} {P : Label → Prop} {s₀ s s' : State}
  {E : String → List LogEntry}

/-- The work on several Sessions since `s₀`. -/
structure Works (run : Nat → Option DispatchRun) (s₀ s : State) (E : String → List LogEntry) :
    Prop where
  runs : s.dispatchRuns = s₀.dispatchRuns
  queue : Retired s₀.dispatchReadiness s.dispatchReadiness
  next : s₀.nextId ≤ s.nextId
  wf : s.Wf
  log : ∀ x, s.log x = s₀.log x ++ E x
  fits : ∀ x, Fits run (s₀.log x).length (E x)
  inert : ∀ x, ∀ e ∈ E x, e.inert
  cached : ∀ x, ∀ e ∈ s.cachedLog x, e ∈ s₀.cachedLog x ∨ e ∈ E x
  view : ∀ x v, s₀.view x = some v → ∃ goal, s.view x = some { v with goal := goal } ∧
    ∀ g₀, v.goal = some g₀ → ∃ g, goal = some g ∧ g.goalId = g₀.goalId
  none : ∀ x, s₀.view x = none → s.view x = none ∧ E x = []

namespace Works

theorem start (run : Nat → Option DispatchRun) (hw : s.Wf) : Works run s s fun _ => [] where
  runs := rfl
  queue := .refl _
  next := le_rfl
  wf := hw
  log _ := (List.append_nil _).symm
  fits _ := .nil _ _
  inert _ _ h := absurd h List.not_mem_nil
  cached _ _ h := .inl h
  view _ v h := ⟨v.goal, h, fun g hg => ⟨g, hg, rfl⟩⟩
  none _ h := ⟨h, rfl⟩

theorem numbered (h : Works run s₀ s E) (hn : ∀ x, Numbered 0 (s₀.log x)) (x : String) :
    Numbered 0 (s.log x) := by
  rw [h.log]
  exact (hn x).append (by simpa using (h.fits x).numbered)

/-- Work on one more Session. -/
theorem step (h : Works run s₀ s E) {p : String} {es : List LogEntry} (w : Work run s s' p es) :
    Works run s₀ s' (Function.update E p (E p ++ es)) where
  runs := w.runs.trans h.runs
  queue := h.queue.trans w.queue
  next := h.next.trans w.next
  wf := w.wf
  log x := by
    by_cases hx : x = p
    · subst hx; rw [Function.update_self, w.log, h.log, List.append_assoc]
    · rw [Function.update_of_ne hx, (w.other x hx).2.1, h.log]
  fits x := by
    by_cases hx : x = p
    · subst hx
      rw [Function.update_self]
      have hf := w.fits
      rw [h.log, List.length_append] at hf
      exact (h.fits x).append hf
    · rw [Function.update_of_ne hx]; exact h.fits x
  inert x e he := by
    by_cases hx : x = p
    · subst hx
      rw [Function.update_self] at he
      exact (List.mem_append.1 he).elim (h.inert x e) (w.inert e)
    · rw [Function.update_of_ne hx] at he; exact h.inert x e he
  cached x e he := by
    by_cases hx : x = p
    · subst hx
      rw [Function.update_self]
      rcases w.cached e he with he | he
      · exact (h.cached x e he).imp_right (List.mem_append_left _)
      · exact .inr (List.mem_append_right _ he)
    · rw [Function.update_of_ne hx]
      rw [(w.other x hx).2.2.1] at he
      exact h.cached x e he
  view x v hv := by
    obtain ⟨goal, hg, hid⟩ := h.view x v hv
    by_cases hx : x = p
    · subst hx
      obtain ⟨v', goal', hv', hw', hid'⟩ := w.view
      rw [hg] at hv'
      cases hv'
      refine ⟨goal', hw', fun g₀ hg₀ => ?_⟩
      obtain ⟨g, rfl, hgid⟩ := hid g₀ hg₀
      obtain ⟨g', hg', hgid'⟩ := hid' g rfl
      exact ⟨g', hg', hgid'.trans hgid⟩
    · exact ⟨goal, (w.other x hx).1.trans hg, hid⟩
  none x hv := by
    obtain ⟨hn, hE⟩ := h.none x hv
    by_cases hx : x = p
    · subst hx
      exact absurd (mem_of_view w.view.choose_spec.choose_spec.1) (view_eq_none.1 hn)
    · exact ⟨(w.other x hx).1.trans hn, by rw [Function.update_of_ne hx]; exact hE⟩

/-- **New requirements for several Sessions are one step of the book.** -/
theorem arrive (h : Works run s₀ s E) (hP : P .plain)
    (hall : ∀ x, s.view x = s₀.view x ∧ E x = [] ∨ ∃ v goal, s₀.view x = some v ∧
      s.view x = some { v with goal := goal } ∧ Welcome v.goal (E x) goal) :
    Effect run P s₀ s := by
  refine ⟨h.runs, h.queue, h.next, h.wf, .of_step hP (.arrive fun x => ?_)⟩
  rcases hall x with ⟨hv, hE⟩ | ⟨v, goal, hv, hv', hw⟩
  · exact .inl ⟨hv, by change s.log x = s₀.log x; rw [h.log, hE, List.append_nil]⟩
  · exact .inr ⟨v, E x, goal, hv, hv', h.log x, h.fits x, hw⟩

end Works

/-! ## The parents of a Session -/

theorem nodup_parentSessionIds (s : State) (x : String) : (s.parentSessionIds x).Nodup :=
  (List.perm_insertionSort _ _).nodup_iff.2 (List.nodup_dedup _)

theorem mem_parentSessionIds {p x : String} :
    p ∈ s.parentSessionIds x ↔ (⟨p, x⟩ : Edge) ∈ s.sessionEdges ∧ p ≠ "" := by
  simp only [parentSessionIds, List.mem_insertionSort, List.mem_dedup, List.mem_filter,
    List.mem_map, decide_eq_true_eq]
  refine and_congr_left fun _ => ⟨?_, fun h => ⟨⟨p, x⟩, ⟨h, rfl⟩, rfl⟩⟩
  rintro ⟨⟨a, b⟩, ⟨h, rfl⟩, rfl⟩
  exact h

theorem Wf.not_mem_parents (hw : s.Wf) (x : String) : x ∉ s.parentSessionIds x := fun h =>
  hw.edge _ (mem_parentSessionIds.1 h).1 rfl

/-! ## The two loops -/

/-- One round of `_log_child_goal_completed_for_parents`. -/
def logChild (goalId : Nat) (goal : Goal) (t : Transition) (s : State) (p : String) : State :=
  if p ∈ s.sessions then
    (s.appendSessionLogEntry p
      (.childGoalCompleted goal.sessionId goalId goal.body t.reason t.actor t.runId) t.createdAt
      (some (.childGoalCompleted p goalId t.createdAt))).modifySession p
        fun session => { session with updatedAt := t.createdAt }
  else s

/-- The reason a completed child gives for reopening the Goal of a parent. -/
def reviewReason (childSessionId : String) : String :=
  s!"Child SessionGoal {childSessionId} completed and requires parent review."

/-- One round of `_reopen_completed_parent_goals_for_child`. -/
def reopenParent (goal : Goal) (t : Transition) (s : State) (p : String) : State :=
  match s.currentGoalForSession p with
  | some (parentGoalId, parentGoal) =>
    if parentGoal.completionState = .complete then
      s.applyGoalCompletionState parentGoalId parentGoal .incomplete (reviewReason goal.sessionId)
        "system" none t.createdAt false
    else s
  | none => s

theorem logChildGoalCompletedForParents_eq {goalId : Nat} {goal : Goal} {t : Transition}
    (h : goal.sessionId ≠ "") : s.logChildGoalCompletedForParents goalId goal t =
      (s.parentSessionIds goal.sessionId).foldl (logChild goalId goal t) s := if_neg h

theorem reopenCompletedParentGoalsForChild_eq {goal : Goal} {t : Transition} :
    s.reopenCompletedParentGoalsForChild goal t =
      (s.parentSessionIds goal.sessionId).foldl (reopenParent goal t) s := rfl

/-- The entry tells of the completion of a child. -/
def tellsOf (goalId : Nat) (goal : Goal) (t : Transition) (e : LogEntry) : Prop :=
  e.body = .childGoalCompleted goal.sessionId goalId goal.body t.reason t.actor t.runId

section
variable {goalId : Nat} {goal : Goal} {t : Transition} {p : String}

/-- One round of the first loop. -/
theorem work_logChild (run : Nat → Option DispatchRun) (goalId : Nat) (goal : Goal)
    (t : Transition) (hw : s.Wf) (hn : Numbered 0 (s.log p)) (hp : p ∈ s.sessions)
    (hc : s.cachedLog p = []) : ∃ e : LogEntry, tellsOf goalId goal t e ∧
      Work run s (logChild goalId goal t s p) p [e] ∧ (logChild goalId goal t s p).goals = s.goals ∧
      (logChild goalId goal t s p).view = s.view := by
  have hd : isDuplicate (s.cachedLog p)
      (.childGoalCompleted goal.sessionId goalId goal.body t.reason t.actor t.runId)
      (some (.childGoalCompleted p goalId t.createdAt)) = false := by
    simp [isDuplicate, hc]
  have h := (Work.start run hw hp).append hn
    (.childGoalCompleted goal.sessionId goalId goal.body t.reason t.actor t.runId) t.createdAt
    (some (.childGoalCompleted p goalId t.createdAt))
    ⟨fun _ hm => (by cases hm), fun _ hr => (by cases hr), fun _ hr => (by cases hr),
      fun _ hk => (by cases hk), fun _ _ _ hk => (by cases hk), fun _ _ _ _ _ hk => (by cases hk)⟩ rfl
    (fun e he rid hr => by rw [List.mem_singleton.1 he] at hr; cases hr)
    (fun e he rid hr => by rw [List.mem_singleton.1 he] at hr; cases hr)
  have h' := h.modifySession p (f := fun session => { session with updatedAt := t.createdAt })
    fun _ => ⟨rfl, rfl⟩
  unfold logChild
  rw [if_pos hp]
  unfold appended at h'
  rw [if_neg (by rw [hd]; exact Bool.false_ne_true)] at h'
  refine ⟨s.newEntry p _ _ _, rfl, h', goals_append, ?_⟩
  refine (view_modifySession p (f := fun session => { session with updatedAt := t.createdAt })
    fun _ => ⟨rfl, rfl⟩).trans (funext fun y => ?_)
  exact view_congr sessions_append goals_append y

theorem mem_sessions_of_view (h : s'.view = s.view) : p ∈ s'.sessions ↔ p ∈ s.sessions := by
  rw [← not_iff_not, ← view_eq_none, ← view_eq_none, h]

/-- **The first loop**: each existing parent is told of the completion. -/
theorem works_logChild (run : Nat → Option DispatchRun) (goalId : Nat) (goal : Goal)
    (t : Transition) (hw : s.Wf) (hn : ∀ x, Numbered 0 (s.log x)) {ps : List String}
    (hps : ps.Nodup) (hc : ∀ p ∈ ps, s.cachedLog p = []) :
    ∃ E, Works run s (ps.foldl (logChild goalId goal t) s) E ∧
      (ps.foldl (logChild goalId goal t) s).goals = s.goals ∧
      (ps.foldl (logChild goalId goal t) s).view = s.view ∧
      ∀ x, (x ∈ ps ∧ x ∈ s.sessions → ∃ e : LogEntry, tellsOf goalId goal t e ∧ E x = [e]) ∧
        (¬(x ∈ ps ∧ x ∈ s.sessions) → E x = []) := by
  induction ps using List.reverseRecOn with
  | nil => exact ⟨_, .start run hw, rfl, rfl, fun x => by simp⟩
  | append_singleton ps p ih =>
    obtain ⟨hps, hp⟩ : ps.Nodup ∧ p ∉ ps := by
      rw [List.nodup_append] at hps
      exact ⟨hps.1, fun h => hps.2.2 p h p (List.mem_singleton_self p) rfl⟩
    obtain ⟨E, hE, hgoals, hview, hall⟩ := ih hps fun x hx => hc x (List.mem_append_left _ hx)
    rw [List.foldl_append, List.foldl_cons, List.foldl_nil]
    generalize ps.foldl (logChild goalId goal t) s = s₁ at hE hgoals hview
    by_cases hmem : p ∈ s.sessions
    · have hEp : E p = [] := (hall p).2 fun h => hp h.1
      have hcached : s₁.cachedLog p = [] := by
        refine List.eq_nil_iff_forall_not_mem.2 fun e he => ?_
        rcases hE.cached p e he with he | he
        · rw [hc p (by simp)] at he; cases he
        · rw [hEp] at he; cases he
      obtain ⟨e, he, hwork, hg₁, hv₁⟩ := work_logChild run goalId goal t
        hE.wf (hE.numbered hn p) ((mem_sessions_of_view hview).2 hmem) hcached
      refine ⟨_, hE.step hwork, hg₁.trans hgoals, hv₁.trans hview, fun x => ?_⟩
      by_cases hx : x = p
      · subst hx
        rw [Function.update_self, hEp]
        exact ⟨fun _ => ⟨e, he, rfl⟩, fun hno => absurd ⟨by simp, hmem⟩ hno⟩
      · rw [Function.update_of_ne hx]
        simpa [hx] using hall x
    · have : logChild goalId goal t s₁ p = s₁ :=
        if_neg fun h => hmem ((mem_sessions_of_view hview).1 h)
      rw [this]
      refine ⟨E, hE, hgoals, hview, fun x => ?_⟩
      by_cases hx : x = p
      · subst hx
        exact ⟨fun h => absurd h.2 hmem, fun _ => (hall x).2 fun h => hmem h.2⟩
      · simpa [hx] using hall x

/-- The parent has been reopened by the entry `e`. -/
structure Reopened (goal : Goal) (s s' : State) (x : String) (e : LogEntry) : Prop where
  reopened : ∃ g, s.currentGoalForSession x = some g ∧ g.2.completionState = .complete ∧
    s'.currentGoalForSession x = some (g.1, { g.2 with
      completionState := .incomplete, completionReason := reviewReason goal.sessionId })
  logged : ∃ tr, e.body = .goalStateChanged tr ∧ tr.completionState = .incomplete ∧
    tr.reason = reviewReason goal.sessionId

/-- The Goal of the parent is complete. -/
def Closed (s : State) (x : String) : Prop :=
  ∃ g, s.currentGoalForSession x = some g ∧ g.2.completionState = .complete

/-- One round of the second loop, for a Goal that is complete. -/
theorem work_reopenParent (run : Nat → Option DispatchRun) (goal : Goal) (t : Transition) (hw : s.Wf)
    (hn : Numbered 0 (s.log p)) (hc : ∀ e ∈ s.cachedLog p, e.isStateChange = false)
    (hcl : s.Closed p) : ∃ e, Work run s (reopenParent goal t s p) p [e] ∧
      Reopened goal s (reopenParent goal t s p) p e ∧ ∀ x, x ≠ p →
        (reopenParent goal t s p).currentGoalForSession x = s.currentGoalForSession x := by
  obtain ⟨⟨goalId, g⟩, hcur, hst⟩ := hcl
  obtain ⟨hlook, hgs⟩ := hw.currentGoal.1 hcur
  have hp : p ∈ s.sessions := hgs ▸ (hw.goal goalId g hlook).2.1
  have hstart := Work.start run hw hp
  obtain ⟨⟨e, he, hwork⟩, hcur'⟩ := hstart.applyGoalCompletionState hn hcur hgs .incomplete
    (reviewReason goal.sessionId) "system" none t.createdAt false (by simp)
  have hd : isDuplicate (s.cachedLog p) (.goalStateChanged (transitionOf g .incomplete
      (reviewReason goal.sessionId) "system" none t.createdAt false)) (some (stateKey goalId
        (transitionOf g .incomplete (reviewReason goal.sessionId) "system" none t.createdAt false))) =
      false :=
    hstart.not_duplicate _ _ (fun e he tr hb => by
      have := hc e he
      simp [LogEntry.isStateChange, hb] at this) (by simp)
  rw [if_neg (by rw [hd]; exact Bool.false_ne_true)] at hwork
  have heq : reopenParent goal t s p = s.applyGoalCompletionState goalId g .incomplete
      (reviewReason goal.sessionId) "system" none t.createdAt false := by
    unfold reopenParent
    rw [hcur]
    exact if_pos hst
  rw [heq]
  refine ⟨e, hwork, ⟨⟨(goalId, g), hcur, hst, hcur'⟩, _, he, rfl, rfl⟩, fun x hx => ?_⟩
  have hgoals : (s.applyGoalCompletionState goalId g .incomplete (reviewReason goal.sessionId)
      "system" none t.createdAt false).goals = (s.modifyGoal goalId fun g =>
        { g with completionState := .incomplete, completionReason := reviewReason goal.sessionId }).goals :=
    goals_applyGoalCompletionState
  rw [currentGoal_congr hgoals]
  exact currentGoal_modifyGoal_ne hw hcur (f := fun g =>
    { g with completionState := .incomplete, completionReason := reviewReason goal.sessionId })
    (fun _ => ⟨rfl, rfl, rfl⟩) hx

/-- **The second loop**: each parent whose Goal is complete is reopened. -/
theorem works_reopenParent (goal : Goal) (t : Transition) (hE : Works run s₀ s E)
    (hn : ∀ x, Numbered 0 (s₀.log x)) {ps : List String} (hps : ps.Nodup)
    (hc : ∀ p ∈ ps, ∀ e ∈ s.cachedLog p, e.isStateChange = false) :
    let s' := ps.foldl (reopenParent goal t) s
    ∃ E', Works run s₀ s' E' ∧ ∀ x,
      (x ∈ ps ∧ s.Closed x → ∃ e, Reopened goal s s' x e ∧ E' x = E x ++ [e]) ∧
      (¬(x ∈ ps ∧ s.Closed x) → s'.currentGoalForSession x = s.currentGoalForSession x ∧
        s'.view x = s.view x ∧ s'.cachedLog x = s.cachedLog x ∧ E' x = E x) := by
  induction ps using List.reverseRecOn with
  | nil => exact ⟨E, hE, fun x => by simp⟩
  | append_singleton ps p ih =>
    obtain ⟨hps, hp⟩ : ps.Nodup ∧ p ∉ ps := by
      rw [List.nodup_append] at hps
      exact ⟨hps.1, fun h => hps.2.2 p h p (List.mem_singleton_self p) rfl⟩
    obtain ⟨E', hE', hall⟩ := ih hps fun x hx => hc x (List.mem_append_left _ hx)
    intro s'
    have hs' : s' = reopenParent goal t (ps.foldl (reopenParent goal t) s) p := by
      simp [s', List.foldl_append]
    rw [hs']
    generalize ps.foldl (reopenParent goal t) s = s₁ at hE' hall
    obtain ⟨hcur, hview, hcached, hEp⟩ := (hall p).2 fun h => hp h.1
    by_cases hcl : s.Closed p
    · have hcl₁ : s₁.Closed p := by unfold Closed; rw [hcur]; exact hcl
      obtain ⟨e, hwork, hre, hother⟩ := work_reopenParent run goal t hE'.wf (hE'.numbered hn p)
        (by rw [hcached]; exact hc p (by simp)) hcl₁
      refine ⟨_, hE'.step hwork, fun x => ?_⟩
      by_cases hx : x = p
      · subst hx
        rw [Function.update_self, hEp]
        refine ⟨fun _ => ⟨e, ⟨?_, hre.logged⟩, rfl⟩, fun hno => absurd ⟨by simp, hcl⟩ hno⟩
        rw [← hcur]
        exact hre.reopened
      · rw [Function.update_of_ne hx]
        have hmem : x ∈ ps ++ [p] ↔ x ∈ ps := by simp [hx]
        rw [hmem, hother x hx, (hwork.other x hx).1, (hwork.other x hx).2.2.1]
        refine ⟨fun h => ?_, (hall x).2⟩
        obtain ⟨e', hre', hE''⟩ := (hall x).1 h
        refine ⟨e', ⟨?_, hre'.logged⟩, hE''⟩
        rw [hother x hx]
        exact hre'.reopened
    · have hsame : reopenParent goal t s₁ p = s₁ := by
        unfold reopenParent
        rw [hcur]
        cases hg : s.currentGoalForSession p with
        | none => rfl
        | some g => exact if_neg fun hst => hcl ⟨g, hg, hst⟩
      rw [hsame]
      refine ⟨E', hE', fun x => ?_⟩
      by_cases hx : x = p
      · subst hx
        exact ⟨fun h => absurd h.2 hcl, fun _ => (hall x).2 fun h => hcl h.2⟩
      · simpa [hx] using hall x

/-- What the two loops do to the parents of a Session. -/
structure Reviewed (goalId : Nat) (goal : Goal) (t : Transition) (s s' : State)
    (E : String → List LogEntry) (x : String) : Prop where
  other : ¬(x ∈ s.parentSessionIds goal.sessionId ∧ x ∈ s.sessions) →
    E x = [] ∧ s'.view x = s.view x ∧ s'.currentGoalForSession x = s.currentGoalForSession x
  told : x ∈ s.parentSessionIds goal.sessionId ∧ x ∈ s.sessions → ¬s.Closed x →
    ∃ c, tellsOf goalId goal t c ∧ E x = [c] ∧ s'.view x = s.view x ∧
      s'.currentGoalForSession x = s.currentGoalForSession x
  reopened : x ∈ s.parentSessionIds goal.sessionId ∧ x ∈ s.sessions → s.Closed x →
    ∃ c e, tellsOf goalId goal t c ∧ E x = [c, e] ∧ Reopened goal s s' x e

theorem sessionEdges_logChild : (logChild goalId goal t s p).sessionEdges = s.sessionEdges := by
  unfold logChild
  split_ifs
  · exact sessionEdges_append
  · rfl

/-- Both loops. -/
def notifyParents (s : State) (goalId : Nat) (goal : Goal) (t : Transition) : State :=
  (s.logChildGoalCompletedForParents goalId goal t).reopenCompletedParentGoalsForChild goal t

theorem works_notifyParents (run : Nat → Option DispatchRun) (goalId : Nat) {goal : Goal}
    (t : Transition) (hw : s.Wf) (hn : ∀ x, Numbered 0 (s.log x)) (hs : goal.sessionId ≠ "")
    (hc : ∀ x ∈ s.parentSessionIds goal.sessionId, s.cachedLog x = []) :
    ∃ E, Works run s (s.notifyParents goalId goal t) E ∧
      ∀ x, Reviewed goalId goal t s (s.notifyParents goalId goal t) E x := by
  have hps := s.nodup_parentSessionIds goal.sessionId
  obtain ⟨E, hE, hgoals, hview, hall⟩ := works_logChild run goalId goal t hw hn hps hc
  have hedges : ((s.parentSessionIds goal.sessionId).foldl (logChild goalId goal t) s).sessionEdges =
      s.sessionEdges := List.foldlRecOn _ _ (motive := fun s' : State =>
    s'.sessionEdges = s.sessionEdges) rfl fun s' h p _ => sessionEdges_logChild.trans h
  have hparents : (s.logChildGoalCompletedForParents goalId goal t).parentSessionIds goal.sessionId =
      s.parentSessionIds goal.sessionId := by
    rw [logChildGoalCompletedForParents_eq hs]
    unfold parentSessionIds at hedges ⊢
    rw [hedges]
  unfold notifyParents
  rw [reopenCompletedParentGoalsForChild_eq, hparents, logChildGoalCompletedForParents_eq hs]
  generalize (s.parentSessionIds goal.sessionId).foldl (logChild goalId goal t) s = s₁
    at hE hgoals hview
  obtain ⟨E', hE', hall'⟩ := works_reopenParent goal t hE hn hps fun p hp e he => by
    rcases hE.cached p e he with he | he
    · rw [hc p hp] at he; cases he
    · by_cases hmem : p ∈ s.sessions
      · obtain ⟨c, hc', hEp⟩ := (hall p).1 ⟨hp, hmem⟩
        rw [hEp] at he
        rw [List.mem_singleton.1 he]
        unfold tellsOf at hc'
        simp [LogEntry.isStateChange, hc']
      · rw [(hall p).2 fun h => hmem h.2] at he; cases he
  refine ⟨E', hE', fun x => ?_⟩
  have hcur : s₁.currentGoalForSession = s.currentGoalForSession := currentGoal_congr hgoals
  have hclosed : s₁.Closed x ↔ s.Closed x := by unfold Closed; rw [hcur]
  -- a Session without record has no Goal
  have hmem : s.Closed x → x ∈ s.sessions := by
    rintro ⟨g, hg, -⟩
    obtain ⟨h₁, h₂⟩ := hw.currentGoal.1 hg
    exact h₂ ▸ (hw.goal _ _ h₁).2.1
  have hleft := (hall' x).2
  rw [hclosed, hcur, hview] at hleft
  refine ⟨fun hno => ?_, fun hx hcl => ?_, fun hx hcl => ?_⟩
  · obtain ⟨h₁, h₂, -, h₄⟩ := hleft fun h => hno ⟨h.1, hmem h.2⟩
    exact ⟨h₄.trans ((hall x).2 hno), h₂, h₁⟩
  · obtain ⟨c, hc', hEx⟩ := (hall x).1 hx
    obtain ⟨h₁, h₂, -, h₄⟩ := hleft fun h => hcl h.2
    exact ⟨c, hc', h₄.trans hEx, h₂, h₁⟩
  · obtain ⟨c, hc', hEx⟩ := (hall x).1 hx
    obtain ⟨e, hre, hE''⟩ := (hall' x).1 ⟨hx.1, hclosed.2 hcl⟩
    refine ⟨c, e, hc', by rw [hE'', hEx]; rfl, ?_, hre.logged⟩
    rw [← hcur]
    exact hre.reopened

/-- **The parents are told of a completion, and reopened.** -/
theorem effect_notifyParents (goalId : Nat) {goal : Goal} (t : Transition) (hg : s.Good run)
    (hP : P .plain) (hs : goal.sessionId ≠ "")
    (hc : ∀ x ∈ s.parentSessionIds goal.sessionId, s.cachedLog x = []) :
    Effect run P s (s.notifyParents goalId goal t) := by
  obtain ⟨E, hE, hall⟩ := works_notifyParents run goalId t hg.wf hg.book.numbered hs hc
  refine hE.arrive hP fun x => ?_
  by_cases hx : x ∈ s.parentSessionIds goal.sessionId ∧ x ∈ s.sessions
  · refine .inr ?_
    obtain ⟨v, hv⟩ := exists_view hx.2
    obtain ⟨session, -, -, -, hcur⟩ := view_eq_some_iff.1 hv
    by_cases hcl : s.Closed x
    · obtain ⟨c, e, hc', hEx, hre⟩ := (hall x).reopened hx hcl
      obtain ⟨goal', hv', hid⟩ := hE.view x v hv
      obtain ⟨-, -, -, -, hcur'⟩ := view_eq_some_iff.1 hv'
      obtain ⟨g, hg₁, hst, hg₂⟩ := hre.reopened
      obtain ⟨tr, hb, hst', hreason⟩ := hre.logged
      rw [hg₂] at hcur'
      have hgoal' := hcur'.symm
      subst hgoal'
      refine ⟨v, _, hv, hv', hEx ▸ .reopen (fun g₀ hg₀ => ?_) rfl ⟨fun y => ?_, fun b => ?_⟩⟩
      · rw [← hcur, hg₁] at hg₀
        rw [← Option.some.inj hg₀]
      · unfold tellsOf at hc'
        simp [replayGoal, hc', hb, hst', hreason]
      · unfold tellsOf at hc'
        simp [replayActive, hc', hb]
    · obtain ⟨c, hc', hEx, hview, -⟩ := (hall x).told hx hcl
      refine ⟨v, v.goal, hv, hview.trans hv, hEx ▸ .keep (fun g₀ hg₀ => ?_) fun e he => ?_⟩
      · rw [← hcur] at hg₀
        obtain ⟨g, hg', rfl⟩ := Option.map_eq_some_iff.1 hg₀
        cases hst : g.2.completionState with
        | incomplete => rfl
        | complete => exact absurd ⟨g, hg', hst⟩ hcl
      · unfold tellsOf at hc'
        rw [List.mem_singleton.1 he]
        exact .inl (by simp [LogEntry.isRequirement, hc'])
  · obtain ⟨hEx, hview, -⟩ := (hall x).other hx
    exact .inl ⟨hview, hEx⟩

/-- **A completion**: the Goal is complete by the run `rid`, and its parents know. -/
theorem effect_complete {sid : String} {ns : List LogEntry} (h : Work run s₀ s sid ns)
    (hg : s₀.Good run) (hP : P .plain) {rid : Nat} {r : DispatchRun} (hP' : P (.complete sid rid))
    (hq : ∀ e ∈ ns, e.isQuiet ∧ e.isStateChange = false) {goal : Goal}
    (hc₀ : s₀.currentGoalForSession sid = some (goalId, goal))
    (hc : s.currentGoalForSession sid = some (goalId, goal)) (hr : run rid = some r)
    (hrel : r.leaseState ≠ .acquired) (hrole : r.role = .goalManager) (hsid : r.sessionId = sid)
    (hreq : ∀ e ∈ s₀.log sid, e.isRequirement → e.seq ≤ r.observedToSeq) (hrid : rid < s.nextId)
    (hfresh : ∀ e ∈ s₀.cachedLog sid, ∀ tr, e.body = .goalStateChanged tr → tr.runId ≠ some rid)
    (hcached : ∀ x, x ≠ sid → s₀.cachedLog x = []) (reason actor now : String)
    (deferGoalManager : Bool) :
    Effect run P s₀ (s.setGoalCompletionState goalId goal .complete reason actor (some rid) now
      deferGoalManager) := by
  obtain ⟨-, hgs⟩ := hg.wf.currentGoal.1 hc₀
  have hrun : ∀ rid', some rid = some rid' → rid' < s.nextId ∧ ∀ r, ¬Holding run rid' r := by
    rintro rid' ⟨⟩
    refine ⟨hrid, fun r' hr' => hrel ?_⟩
    rw [hr'.1] at hr
    cases hr
    exact hr'.2
  obtain ⟨⟨e, he, h₁⟩, hc₁⟩ := h.applyGoalCompletionState (hg.book.numbered sid) hc hgs .complete
    reason actor (some rid) now deferGoalManager hrun
  have hd := h.not_duplicate goalId (transitionOf goal .complete reason actor (some rid) now
    deferGoalManager) hfresh fun e he => (hq e he).2
  rw [if_neg (by rw [hd]; exact Bool.false_ne_true)] at h₁
  obtain ⟨v, hv⟩ := exists_view (hgs ▸ (hg.wf.goal _ _ (hg.wf.currentGoal.1 hc₀).1).2.1 : sid ∈ s₀.sessions)
  obtain ⟨session, -, -, -, hcur⟩ := view_eq_some_iff.1 hv
  rw [hc₀] at hcur
  have heff := h₁.complete (fun e he => (hq e he).1) hP hP' hc₁ rfl he rfl rfl hv hcur.symm rfl hr
    hrole hsid hreq
  unfold setGoalCompletionState
  dsimp only
  split_ifs with hst
  · refine heff.trans (effect_notifyParents goalId _ (heff.good hg) hP ?_ fun x hx => ?_)
    · exact fun hs => hg.wf.blank (hs ▸ (hg.wf.goal _ _ (hg.wf.currentGoal.1 hc₀).1).2.1)
    · have hne : x ≠ sid := fun hxs => h₁.wf.not_mem_parents _ (hgs.symm ▸ hxs ▸ hx)
      exact (h₁.other x hne).2.2.1.trans (hcached x hne)
  · exact heff

end

end State
end Aize
