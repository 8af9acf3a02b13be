/-
  Goals and their completion state (`goal/sessions.py`, with the transition
  logging of `goal/log.py`).

  `setGoalCompletionState` is the only writer of a completion state outside the
  replay of a restart. A completion is logged in the Session itself and, as
  `ChildGoalCompleted`, in each direct parent; a parent Goal that was complete
  is reopened.
-/
import Mathlib.Data.List.Dedup
import Aize.SessionLog

namespace Aize
namespace State

/-! ## The current Goal of a Session -/

/-- The order in which the Goals of a Session are sorted: creation text, then id. -/
def createdBefore (a b : Nat × Goal) : Prop :=
  a.2.createdAt < b.2.createdAt ∨ a.2.createdAt = b.2.createdAt ∧ a.1 ≤ b.1

instance : DecidableRel createdBefore := fun a b => by
  unfold createdBefore; infer_instance

/-- The Goals that are not archived, with their ids. -/
def openGoals (s : State) : List (Nat × Goal) :=
  (s.goals.entries.map fun e => (e.1, e.2)).filter fun g => g.2.archivedAt = ""

/-- `_current_goal_for_session`. -/
def currentGoalForSession (s : State) (sessionId : String) : Option (Nat × Goal) :=
  ((s.openGoals.filter fun g => g.2.sessionId = sessionId).insertionSort createdBefore).getLast?

/-- `_current_goals`, sorted by Session. -/
def currentGoals (s : State) : List (Nat × Goal) :=
  (((s.openGoals.map fun g => g.2.sessionId).filter (· ≠ "")).dedup.insertionSort (· ≤ ·)).filterMap
    s.currentGoalForSession

theorem mem_openGoals {s : State} {g : Nat × Goal} :
    g ∈ s.openGoals ↔ s.goals.lookup g.1 = some g.2 ∧ g.2.archivedAt = "" := by
  obtain ⟨goalId, goal⟩ := g
  simp only [openGoals, List.mem_filter, List.mem_map, decide_eq_true_eq]
  refine and_congr_left fun _ => ⟨?_, fun h => ⟨⟨goalId, goal⟩, ?_, rfl⟩⟩
  · rintro ⟨⟨k, v⟩, h, heq⟩
    cases heq
    simpa [← AList.mem_lookup_iff] using h
  · simpa [← AList.mem_lookup_iff] using h

theorem currentGoalForSession_eq_some {s : State} {sessionId : String} {g : Nat × Goal}
    (h : s.currentGoalForSession sessionId = some g) :
    s.goals.lookup g.1 = some g.2 ∧ g.2.archivedAt = "" ∧ g.2.sessionId = sessionId := by
  have hm := List.mem_of_getLast? h
  rw [List.mem_insertionSort, List.mem_filter] at hm
  obtain ⟨ho, hs⟩ := hm
  exact ⟨(mem_openGoals.1 ho).1, (mem_openGoals.1 ho).2, by simpa using hs⟩

/-- A Session without a current Goal has no open Goal. -/
theorem currentGoalForSession_eq_none {s : State} {sessionId : String} :
    s.currentGoalForSession sessionId = none ↔
      ∀ g ∈ s.openGoals, g.2.sessionId ≠ sessionId := by
  unfold currentGoalForSession
  rw [List.getLast?_eq_none_iff, ← List.length_eq_zero_iff, List.length_insertionSort,
    List.length_eq_zero_iff, List.filter_eq_nil_iff]
  simp

theorem mem_currentGoals {s : State} {g : Nat × Goal} :
    g ∈ s.currentGoals ↔
      g.2.sessionId ≠ "" ∧ s.currentGoalForSession g.2.sessionId = some g := by
  unfold currentGoals
  simp only [List.mem_filterMap, List.mem_insertionSort, List.mem_dedup, List.mem_filter,
    List.mem_map, decide_eq_true_eq]
  constructor
  · rintro ⟨sessionId, ⟨-, hne⟩, h⟩
    obtain ⟨-, -, hs⟩ := currentGoalForSession_eq_some h
    exact ⟨hs ▸ hne, hs ▸ h⟩
  · rintro ⟨hne, h⟩
    obtain ⟨hl, ha, -⟩ := currentGoalForSession_eq_some h
    exact ⟨_, ⟨⟨g, mem_openGoals.2 ⟨hl, ha⟩, rfl⟩, hne⟩, h⟩

/-- The current Goals belong to different Sessions. -/
theorem nodup_currentGoals (s : State) :
    (s.currentGoals.map fun g => g.2.sessionId).Nodup := by
  unfold currentGoals
  rw [List.map_filterMap]
  refine List.Nodup.filterMap ?_ ((List.perm_insertionSort _ _).nodup_iff.2 (List.nodup_dedup _))
  intro a b c ha hb
  obtain ⟨x, hx, rfl⟩ := Option.map_eq_some_iff.1 ha
  obtain ⟨y, hy, hyx⟩ := Option.map_eq_some_iff.1 hb
  rw [← (currentGoalForSession_eq_some hx).2.2, ← (currentGoalForSession_eq_some hy).2.2, hyx]

/-- Changing Goals, but neither their Sessions nor what they are sorted by, does not
    change which Goals are current. -/
theorem currentGoalForSession_mapVals {s s' : State} {F : Nat → Goal → Goal}
    (h : s'.goals = s.goals.mapVals F)
    (hF : ∀ k g, (F k g).archivedAt = g.archivedAt ∧ (F k g).sessionId = g.sessionId ∧
      (F k g).createdAt = g.createdAt) (sessionId : String) :
    s'.currentGoalForSession sessionId =
      (s.currentGoalForSession sessionId).map fun g => (g.1, F g.1 g.2) := by
  have hopen : s'.openGoals = s.openGoals.map fun g => (g.1, F g.1 g.2) := by
    unfold openGoals
    rw [h]
    simp only [Dict.mapVals, List.map_map, List.filter_map, Function.comp_def, hF]
  unfold currentGoalForSession
  rw [hopen, List.filter_map, ← List.getLast?_map]
  simp only [Function.comp_def, hF]
  rw [List.map_insertionSort (createdBefore) (createdBefore) (fun g : Nat × Goal => (g.1, F g.1 g.2))]
  intro a _ b _
  simp only [createdBefore, hF]

theorem currentGoalForSession_modifyGoal (s : State) (goalId : Nat) {f : Goal → Goal}
    (hf : ∀ g, (f g).archivedAt = g.archivedAt ∧ (f g).sessionId = g.sessionId ∧
      (f g).createdAt = g.createdAt) (sessionId : String) :
    (s.modifyGoal goalId f).currentGoalForSession sessionId =
      (s.currentGoalForSession sessionId).map fun g =>
        (g.1, if g.1 = goalId then f g.2 else g.2) :=
  currentGoalForSession_mapVals (F := fun k g => if k = goalId then f g else g) rfl
    (fun k g => by split_ifs <;> simp [hf]) sessionId

/-! ## Completion state -/

/-- `_resolve_dispatch_readiness`. -/
def resolveDispatchReadiness (s : State) (goalId : Nat) : State :=
  s.modifyReadiness
    (fun e => e.goalId = goalId && (e.status = .ready || e.status = .acquired))
    fun e => { e with status := .resolved }

/-- `_log_goal_state_transition`, with the key of `_goal_state_event_key`. -/
def logGoalStateTransition (s : State) (goalId : Nat) (sessionId : String) (t : Transition) : State :=
  if sessionId = "" then s
  else s.appendSessionLogEntry sessionId (.goalStateChanged t) t.createdAt
    (some (.goalState goalId t.createdAt t.completionState t.runId t.actor))

/-- `_log_child_goal_completed_for_parents`. -/
def logChildGoalCompletedForParents (s : State) (goalId : Nat) (goal : Goal) (t : Transition) :
    State :=
  if goal.sessionId = "" then s
  else (s.parentSessionIds goal.sessionId).foldl (fun s parentId =>
    if parentId ∈ s.sessions then
      (s.appendSessionLogEntry parentId
        (.childGoalCompleted goal.sessionId goalId goal.body t.reason t.actor t.runId) t.createdAt
        (some (.childGoalCompleted parentId goalId t.createdAt))).modifySession parentId
          fun session => { session with updatedAt := t.createdAt }
    else s) s

/-- The transition that a completion state change logs. -/
def transitionOf (goal : Goal) (completionState : CompletionState) (reason actor : String)
    (runId : Option Nat) (now : String) (deferGoalManager : Bool) : Transition :=
  { previousState := some goal.completionState
    completionState := completionState.outcome
    reason
    actor := normalizeEndpoint actor goal.sessionId
    runId
    createdAt := now
    deferGoalManager }

/-- The first half of `_set_goal_completion_state`: the Goal, its readiness
    entries, its Session and the log of the Session. -/
def applyGoalCompletionState (s : State) (goalId : Nat) (goal : Goal)
    (completionState : CompletionState) (reason actor : String) (runId : Option Nat)
    (now : String) (deferGoalManager : Bool) : State :=
  let s := s.modifyGoal goalId fun g =>
    { g with completionState := completionState, completionReason := reason }
  let s := match completionState with
    | .complete => s.resolveDispatchReadiness goalId
    | .incomplete => s
  let s := s.modifySession goal.sessionId fun session => { session with updatedAt := now }
  s.logGoalStateTransition goalId goal.sessionId
    (transitionOf goal completionState reason actor runId now deferGoalManager)

/-- `_reopen_completed_parent_goals_for_child`. The nested call sets `incomplete`,
    so it does not propagate any further. -/
def reopenCompletedParentGoalsForChild (s : State) (goal : Goal) (t : Transition) : State :=
  (s.parentSessionIds goal.sessionId).foldl (fun s parentId =>
    match s.currentGoalForSession parentId with
    | some (parentGoalId, parentGoal) =>
      if parentGoal.completionState = .complete then
        s.applyGoalCompletionState parentGoalId parentGoal .incomplete
          s!"Child SessionGoal {goal.sessionId} completed and requires parent review."
          "system" none t.createdAt false
      else s
    | none => s) s

/-- `_set_goal_completion_state` for the Goal `goalId`, whose record is `goal`. -/
def setGoalCompletionState (s : State) (goalId : Nat) (goal : Goal)
    (completionState : CompletionState) (reason actor : String) (runId : Option Nat)
    (now : String) (deferGoalManager : Bool := false) : State :=
  let t := transitionOf goal completionState reason actor runId now deferGoalManager
  let s := s.applyGoalCompletionState goalId goal completionState reason actor runId now
    deferGoalManager
  if completionState = .complete ∧ goal.completionState ≠ .complete then
    (s.logChildGoalCompletedForParents goalId goal t).reopenCompletedParentGoalsForChild goal t
  else s

/-! ## Creating and reopening -/

/-- Insert a new incomplete Goal for a Session. -/
def createGoal (s : State) (sessionId body createdBy createdAt : String) : State × Nat × Goal :=
  let (goalId, s) := s.newId
  let goal : Goal := { sessionId, body, createdBy, createdAt }
  ({ s with goals := s.goals.insert goalId goal }, goalId, goal)

/-- `_mark_session_reprocess_needed`. -/
def markSessionReprocessNeeded (s : State) (env : Env) (sessionId actor reason createdAt : String)
    (deferGoalManager : Bool) : State :=
  let (s, goalId, goal) := match s.currentGoalForSession sessionId with
    | some (goalId, goal) => (s, goalId, goal)
    | none => s.createGoal sessionId "Reply to user input sent to this Session." actor createdAt
  let s := if goal.waiting.isSome then
      (s.modifyGoal goalId fun g => { g with waiting := none }).logSystemSignal sessionId
        "GoalWaitingCancelled"
        s!"New UserInput cancelled the SessionGoal's bounded waiting: {reason}"
        [.goalManager] actor createdAt
    else s
  s.setGoalCompletionState goalId goal .incomplete reason actor none env.utcNow.text
    deferGoalManager

end State

open State

/-- `update_goal`, after the checks: revise the body of the current Goal, or give
    the Session its first Goal. -/
def State.reviseGoal (s : State) (env : Env) (sessionId body createdBy : String) : State :=
  let now := env.utcNow.text
  match s.currentGoalForSession sessionId with
  | some (goalId, goal) =>
    let s := s.modifyGoal goalId fun g => { g with body := body, createdBy := createdBy }
    let s := s.logGoalBodyUpdate sessionId goalId goal.body body createdBy now
    let s := s.modifySession sessionId fun session => { session with updatedAt := now }
    s.setGoalCompletionState goalId goal .incomplete "SessionGoal updated." "system" none now
  | none =>
    let (s, goalId, goal) := s.createGoal sessionId body createdBy now
    let s := s.modifySession sessionId fun session => { session with updatedAt := now }
    s.setGoalCompletionState goalId goal .incomplete "SessionGoal created." "system" none now

end Aize
