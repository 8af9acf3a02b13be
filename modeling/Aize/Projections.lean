/-
  Which log entries wake a role (`goal/projections.py`).

  `deriveRoleDispatchReadiness` turns the entries a role has not consumed into
  one dispatch window, or into nothing when none of them wakes the role.
-/
import Aize.SessionLog

namespace Aize

/-- The window of a role: `RoleDispatchReadiness`. -/
structure RoleDispatchReadiness where
  fromLogSeq : Nat
  observedToSeq : Nat
  wakeReasons : List WakeReason
  availableAfter : Stamp := .absent
  deriving DecidableEq, Repr

/-- `_reason`. -/
def reasonOf (e : LogEntry) (kind : WakeKind) (reason : String)
    (availableAfter : Stamp := .absent) : WakeReason :=
  { seq := e.seq, kind, reason, messageId := e.message?.map Message.messageId, logId := e.logId,
    availableAfter }

/-- `_agent_sender_matches`. -/
def agentSenderMatches (m : Message) (role : Role) : Bool :=
  m.payload.agentRole = some role || m.fromEndpoint = agentEndpoint role

/-- `_system_signal_reason`. -/
def systemSignalReason (e : LogEntry) (signal : Signal) (role : Role) : Option WakeReason :=
  if role ∈ signal.targetRoles then
    some (reasonOf e .systemSignal
      s!"System signal {signal.signalType} requires {role.token} processing."
      signal.availableAfter.strip)
  else none

/-- `_goal_manager_wake_reason`. -/
def goalManagerWakeReason (e : LogEntry) (sessionId : String) (activeWorker : Bool) :
    Option WakeReason :=
  match e.body with
  | .sessionActiveChanged _ active _ =>
    if active then
      some (reasonOf e .sessionActivated "Session became active with an incomplete Goal.")
    else none
  | .goalStateChanged t =>
    if t.completionState ≠ .incomplete then none
    else if t.deferGoalManager then none
    else if t.actor = agentEndpoint .goalManager then none
    else if activeWorker then none
    else some (reasonOf e .goalIncomplete "SessionGoal became incomplete outside GoalManager.")
  | .systemSignal signal => systemSignalReason e signal .goalManager
  | .childGoalCompleted .. =>
    some (reasonOf e .childGoalCompleted
      "A child SessionGoal completed and requires parent review.")
  | .goalBodyUpdated .. => none
  | .message m =>
    if m.payload.userInput then
      if m.payload.workerRequest || m.payload.deferGoalManager then none
      else some (reasonOf e .userInput "New UserInput requires GoalManager review.")
    else if m.payload.scheduleUpdate then
      some (reasonOf e .scheduleUpdate "A Unit schedule update requires GoalManager review.")
    else if m.toEndpoint = sessionEndpoint sessionId && agentSenderMatches m .workerAgent then
      some (reasonOf e .workerReport "A WorkerAgent Session report requires GoalManager review.")
    else none

/-- `_worker_wake_reason`. -/
def workerWakeReason (e : LogEntry) (sessionId : String) : Option WakeReason :=
  match e.body with
  | .systemSignal signal => systemSignalReason e signal .workerAgent
  | .message m =>
    if !m.payload.workerRequest then none
    else if m.toEndpoint ≠ sessionEndpoint sessionId then none
    else if agentSenderMatches m .goalManager then
      some (reasonOf e .workerRequest "GoalManager requested WorkerAgent work.")
    else if m.payload.workerFollowup then
      some (reasonOf e .workerFollowup "New UserInput must reach the active WorkerAgent.")
    else none
  | _ => none

/-- `_wake_reason`. -/
def wakeReason (role : Role) (sessionId : String) (activeWorker : Bool) (e : LogEntry) :
    Option WakeReason :=
  match role with
  | .goalManager => goalManagerWakeReason e sessionId activeWorker
  | .workerAgent => workerWakeReason e sessionId

/-- The least of some timestamps by text; the first of equal ones. -/
def leastStamp : List Stamp → Stamp
  | [] => .absent
  | t :: ts => ts.foldl (fun least t => if t.text < least.text then t else least) t

/-- `derive_role_dispatch_readiness`. The window is held back only while every
    reason in it is. -/
def deriveRoleDispatchReadiness (entries : List LogEntry) (role : Role) (sessionId : String)
    (activeWorker : Bool) : Option RoleDispatchReadiness :=
  let wakeReasons := entries.filterMap (wakeReason role sessionId activeWorker)
  if wakeReasons = [] then none
  else
    let delayed := (wakeReasons.map WakeReason.availableAfter).filter fun t => !t.isAbsent
    some
      { fromLogSeq := ((entries.map LogEntry.seq).min?).getD 0
        observedToSeq := ((entries.map LogEntry.seq).max?).getD 0
        wakeReasons := wakeReasons.insertionSort fun a b => a.seq ≤ b.seq
        availableAfter := if delayed.length ≠ wakeReasons.length then .absent
          else leastStamp delayed }

end Aize
