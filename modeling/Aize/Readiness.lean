/-
  The dispatch queue (`goal/readiness.py`): refreshing the readiness entries from
  the logs, expiring bounded waits, and the liveness reconciliation that every
  lease acquisition starts with; and the check of it in `goal/query.py`.
-/
import Aize.Goals
import Aize.Projections
import Aize.Policy

namespace Aize

/-- The Session and role of a readiness entry. -/
def Readiness.key (e : Readiness) : String × Role := (e.sessionId, e.role)

/-- The entry is ready, for this Session and role. -/
def Readiness.readyFor (sessionId : String) (role : Role) (e : Readiness) : Bool :=
  e.status = .ready && e.sessionId = sessionId && e.role = role

namespace State

/-! ## Runs and entries of a role -/

/-- The acquired runs, with their ids. -/
def acquiredRuns (s : State) : List (Nat × DispatchRun) :=
  (s.dispatchRuns.entries.map fun e => (e.1, e.2)).filter fun r => r.2.leaseState = .acquired

/-- `_has_acquired_role_run`. -/
def hasAcquiredRoleRun (s : State) (sessionId : String) (role : Role) : Bool :=
  s.acquiredRuns.any fun r =>
    r.2.sessionId = sessionId && (r.2.role = role || r.2.currentPhase = some role)

/-- `_acquired_readiness_for_role`. -/
def acquiredReadinessForRole (s : State) (sessionId : String) (role : Role) : Option Readiness :=
  s.dispatchReadiness.find? fun e =>
    e.status = .acquired && e.sessionId = sessionId && e.role = role

/-- Set the status of the entry with this id. -/
def setReadinessStatus (s : State) (readinessId : Nat) (status : ReadinessStatus) : State :=
  s.modifyReadiness (fun e => e.readinessId = readinessId) fun e => { e with status := status }

/-- `_active_worker_run_for_session`: the latest one, by the text of its lease. -/
def activeWorkerRunForSession (s : State) (sessionId : String) : Option (Nat × DispatchRun) :=
  ((s.acquiredRuns.filter fun r =>
    r.2.sessionId = sessionId && r.2.currentPhase = some .workerAgent).insertionSort
      fun a b => a.2.leaseAcquiredAt.text ≤ b.2.leaseAcquiredAt.text).getLast?

/-- `_has_live_worker_readiness_for_goal`. -/
def hasLiveWorkerReadinessForGoal (s : State) (goalId : Nat) : Bool :=
  (s.dispatchReadiness.any fun e => e.goalId = goalId && e.role = .workerAgent &&
    (e.status = .ready || e.status = .acquired)) ||
  s.acquiredRuns.any fun r => r.2.goalId = goalId && r.2.role = .workerAgent

/-! ## Bounded waiting -/

/-- `_goal_waiting_wake_reason`. -/
def goalWaitingWakeReason (s : State) (env : Env) (sessionId : String) (waiting : Waiting) :
    Option String :=
  let later := s.sessionLogAfterCursor sessionId waiting.wakeLogSeq
  match waiting.kind with
  | .deadline _ instant =>
    if instant ≤ env.now then
      some "bounded waiting deadline reached; GoalManager must review the SessionGoal again."
    else none
  | .event eventName =>
    if later.any fun e => e.message?.any fun m => eventName ∈ m.payload.wakeEvents then
      some s!"bounded waiting event {eventName} fired."
    else none
  | .child childSessionId =>
    let completed := later.any fun e => match e.body with
      | .childGoalCompleted child .. => childSessionId = "" || child = childSessionId
      | _ => false
    if completed then
      let named := if childSessionId = "" then "(any child)" else childSessionId
      some s!"bounded waiting child SessionGoal {named} completed."
    else none

/-- One round of `_expire_goal_waiting`, for the Goal `goalId`. -/
def expireGoalWaitingOf (s : State) (env : Env) (goalId : Nat) : State :=
  match s.goals.lookup goalId with
  | none => s
  | some goal =>
    match goal.waiting, s.sessions.lookup goal.sessionId with
    | some waiting, some session =>
      if session.active then
        match s.goalWaitingWakeReason env goal.sessionId waiting with
        | some reason =>
          (s.modifyGoal goalId fun g => { g with waiting := none }).logSystemSignal
            goal.sessionId "GoalWaitingWake" reason [.goalManager] "scheduler" env.utcNow.text
        | none => s
      else s
    | _, _ => s

/-- The Goals whose wait is over. -/
def wakesWaiting (s : State) (env : Env) (goalId : Nat) : Bool :=
  match s.goals.lookup goalId with
  | none => false
  | some goal =>
    match goal.waiting, s.sessions.lookup goal.sessionId with
    | some waiting, some session =>
      session.active && (s.goalWaitingWakeReason env goal.sessionId waiting).isSome
    | _, _ => false

/-- `_expire_goal_waiting`: the new state, and whether a wait ended. -/
def expireGoalWaiting (s : State) (env : Env) : State × Bool :=
  (s.currentGoals.map Prod.fst).foldl (fun r goalId =>
    (r.1.expireGoalWaitingOf env goalId, r.2 || r.1.wakesWaiting env goalId)) (s, false)

/-! ## Refreshing the queue -/

/-- One round of `_deduplicate_ready_entries`. -/
def retainReady (retained : List Readiness) (e : Readiness) : List Readiness :=
  if e.status ≠ .ready then retained ++ [e]
  else
    match retained.find? fun x =>
        x.status = .ready && x.sessionId = e.sessionId && x.role = e.role with
    | none => retained ++ [e]
    | some existing =>
      if e.firstReadyAt.text < existing.firstReadyAt.text then retained.erase existing ++ [e]
      else retained

/-- `_deduplicate_ready_entries`. -/
def deduplicateReadyEntries (entries : List Readiness) : List Readiness :=
  entries.foldl retainReady []

/-- `_readiness_fields_from_session_log`. -/
def readinessFieldsFromSessionLog (s : State) (sessionId : String) (role : Role) :
    Option RoleDispatchReadiness :=
  let cursor := (s.sessions.lookup sessionId).elim 0 fun session => session.roleCursors.get role
  deriveRoleDispatchReadiness (s.sessionLogAfterCursor sessionId cursor) role sessionId
    (s.activeWorkerRunForSession sessionId).isSome

/-- `_reconcile_ready_entry`. -/
def reconcileReadyEntry (s : State) (env : Env) (goalId : Nat) (sessionId : String) (role : Role)
    (fields : Option RoleDispatchReadiness) : State :=
  let current := s.dispatchReadiness.find? (Readiness.readyFor sessionId role)
  match fields, current with
  | none, none => s
  | none, some entry => { s with dispatchReadiness := s.dispatchReadiness.erase entry }
  | some f, none =>
    let (readinessId, s) := s.newId
    let entry : Readiness :=
      { readinessId, sessionId, goalId, role
        status := .ready
        firstReadyAt := env.utcNow
        refreshedAt := env.utcNow
        fromLogSeq := f.fromLogSeq
        observedToSeq := f.observedToSeq
        wakeReasons := f.wakeReasons
        availableAfter := f.availableAfter }
    { s with dispatchReadiness := s.dispatchReadiness ++ [entry] }
  | some f, some _ =>
    -- `current` is the only entry that is ready for the role: the queue has been deduplicated
    s.modifyReadiness (Readiness.readyFor sessionId role) fun e =>
      { e with
        goalId := goalId
        fromLogSeq := f.fromLogSeq
        observedToSeq := f.observedToSeq
        wakeReasons := f.wakeReasons
        availableAfter := f.availableAfter
        refreshedAt := env.utcNow }

/-- The body of the role loop in `_refresh_dispatch_readiness`. -/
def refreshRole (s : State) (env : Env) (goalId : Nat) (sessionId : String) (role : Role) : State :=
  if s.hasAcquiredRoleRun sessionId role then s
  else if (s.acquiredReadinessForRole sessionId role).isSome then s
  else s.reconcileReadyEntry env goalId sessionId role (s.readinessFieldsFromSessionLog sessionId role)

/-- The Goals whose entries a refresh rebuilds: incomplete, not waiting, and in an
    active Session. -/
def refreshable (s : State) (goal : Goal) : Bool :=
  goal.archivedAt = "" && goal.completionState = .incomplete && goal.waiting.isNone &&
    (s.sessions.lookup goal.sessionId).any Session.active

/-- The body of the Goal loop in `_refresh_dispatch_readiness`. -/
def refreshGoal (s : State) (env : Env) (g : Nat × Goal) : State :=
  if s.refreshable g.2 then
    Role.all.foldl (fun s role => s.refreshRole env g.1 g.2.sessionId role) s
  else s

/-- `_refresh_dispatch_readiness` from the point where no wait is left to expire. -/
def rebuildReadiness (s : State) (env : Env) : State :=
  let live := s.dispatchReadiness.filter fun e => e.status = .ready || e.status = .acquired
  let s := { s with dispatchReadiness := deduplicateReadyEntries live }
  s.currentGoals.foldl (fun s g => s.refreshGoal env g) s

/-- `_refresh_dispatch_readiness`: the new state, and whether anything changed. -/
def refreshDispatchReadiness (s : State) (env : Env) : State × Bool :=
  let (s, waitingChanged) := s.expireGoalWaiting env
  let s' := s.rebuildReadiness env
  (s', s.dispatchReadiness ≠ s'.dispatchReadiness || waitingChanged)

/-! ## Liveness reconciliation -/

/-- `_dispatch_lease_expired`. -/
def dispatchLeaseExpired (run : DispatchRun) (now : Int) : Bool :=
  match run.leaseAcquiredAt.instant with
  | none => true
  | some acquired => acquired + seconds dispatchLeaseRecoverySeconds ≤ now

/-- A run loses its lease without a result. -/
def interruptRun (s : State) (runId : Nat) : State :=
  s.modifyRun runId DispatchRun.interrupted

/-- `_unit_paused` of the Unit with this id; an unknown Unit is not paused. -/
def unitPaused (s : State) (unitId : String) : Bool :=
  (s.units.lookup unitId).any fun unit => unit.status ≠ .active

/-- The first repair pass: interrupt the acquired runs whose lease has expired. -/
def interruptExpired (s : State) (now : Int) : State :=
  (s.acquiredRuns.filter fun r => dispatchLeaseExpired r.2 now).foldl
    (fun s r => s.interruptRun r.1) s

/-- The run that holds a readiness entry among `acquired`: the last one listed. -/
def holderOf (acquired : List (Nat × DispatchRun)) (readinessId : Nat) :
    Option (Nat × DispatchRun) :=
  acquired.reverse.find? fun r => r.2.readinessId = readinessId

/-- An acquired entry is orphaned when its holder among `acquired` is gone, or has
    lost its lease in `s`. -/
def orphaned (s : State) (acquired : List (Nat × DispatchRun)) (e : Readiness) : Bool :=
  e.status = .acquired &&
    !((holderOf acquired e.readinessId).any fun r =>
      (s.dispatchRuns.lookup r.1).any fun run => run.leaseState = .acquired)

/-- The second repair pass: orphaned entries become stale. -/
def staleOrphans (s : State) (acquired : List (Nat × DispatchRun)) : State :=
  s.modifyReadiness (s.orphaned acquired) fun e => { e with status := .stale }

/-- The Sessions that the first two passes repaired, in the order they were met. -/
def repairedSessions (s : State) (now : Int) : List String :=
  let expired := (s.acquiredRuns.filter fun r => dispatchLeaseExpired r.2 now).map fun r =>
    r.2.sessionId
  let orphans := (s.dispatchReadiness.filter fun e =>
    (s.interruptExpired now).orphaned s.acquiredRuns e).map Readiness.sessionId
  (expired ++ orphans).reverse.dedup.reverse

def dispatchLivenessRecoveredBody : String :=
  "AIze recovered dispatch ownership that no longer had a live Agent run. " ++
    "GoalManager must reassess the SessionGoal."

def sessionLivenessRecoveryBody : String :=
  "This Session is Active and its SessionGoal is incomplete, but no GoalManager or " ++
    "WorkerAgent is ready or running. GoalManager must choose the next action."

/-- The `DispatchLivenessRecovered` signals of the repaired Sessions that exist. -/
def signalRepaired (s : State) (env : Env) (repaired : List String) : State :=
  repaired.foldl (fun s sessionId =>
    if sessionId ∈ s.sessions then
      s.logSystemSignal sessionId "DispatchLivenessRecovered" dispatchLivenessRecoveredBody
        [.goalManager] "dispatcher" env.utcNow.text
    else s) s

/-- `live_goal_ids`. -/
def liveGoalIds (s : State) : List Nat :=
  ((s.dispatchReadiness.filter fun e => e.status = .ready || e.status = .acquired).map
    Readiness.goalId) ++ s.acquiredRuns.map fun r => r.2.goalId

/-- The Goals that a liveness signal is due for: incomplete and not waiting, in an
    active Session of no paused Unit, and neither queued nor running. -/
def needsLivenessSignal (s : State) (live : List Nat) (g : Nat × Goal) : Bool :=
  g.2.archivedAt = "" && g.2.completionState = .incomplete &&
    ((s.sessions.lookup g.2.sessionId).any fun session =>
      session.active && !s.unitPaused session.unitId) &&
    g.1 ∉ live && g.2.waiting.isNone

/-- The `SessionLivenessRecovery` signals. -/
def signalGaps (s : State) (env : Env) (gaps : List (Nat × Goal)) : State :=
  gaps.foldl (fun s g =>
    s.logSystemSignal g.2.sessionId "SessionLivenessRecovery" sessionLivenessRecoveryBody
      [.goalManager] "dispatcher" env.utcNow.text) s

/-- The Goals that get a `SessionLivenessRecovery` signal. A Goal is listed once, so
    that adding its id to `live_goal_ids` makes no difference. -/
def livenessGaps (s : State) : List (Nat × Goal) :=
  s.currentGoals.filter (s.needsLivenessSignal s.liveGoalIds)

/-- The repairs of `_reconcile_dispatch_liveness` that precede the refresh. -/
def repairOwnership (s : State) (env : Env) : State :=
  ((s.interruptExpired env.now).staleOrphans s.acquiredRuns).signalRepaired env
    (s.repairedSessions env.now)

/-- `_reconcile_dispatch_liveness`: the new state, and whether anything changed. -/
def reconcileDispatchLiveness (s : State) (env : Env) : State × Bool :=
  let repaired := s.repairedSessions env.now
  let (s, refreshed) := (s.repairOwnership env).refreshDispatchReadiness env
  let gaps := s.livenessGaps
  if gaps = [] then (s, repaired ≠ [] || refreshed)
  else (((s.signalGaps env gaps).refreshDispatchReadiness env).1, true)

/-! ## Choosing an entry -/

/-- The (Session, role) pairs with an acquired run. -/
def acquiredRoles (s : State) : List (String × Role) :=
  s.acquiredRuns.flatMap fun r =>
    (r.2.sessionId, r.2.role) :: (r.2.currentPhase.map fun role => (r.2.sessionId, role)).toList

/-- The arguments that `_next_dispatch_readiness_entry` hands to the policy. -/
def selection (s : State) (env : Env) (sessionId : Option String) : Selection :=
  { goals := s.goals, sessions := s.sessions, acquiredRoles := s.acquiredRoles, sessionId,
    now := env.time }

/-- `_next_dispatch_readiness_entry`: the state after the refresh, with the stale
    entries marked, and the chosen entry with its score. -/
def nextDispatchReadinessEntry (s : State) (env : Env) (sessionId : Option String) :
    State × Option Candidate :=
  let s := (s.refreshDispatchReadiness env).1
  let decision := selectRoleDispatchReadiness (s.selection env sessionId) s.dispatchReadiness
  ({ s with
      dispatchReadiness := s.dispatchReadiness.zipIdx.map fun e =>
        if e.2 ∈ decision.staleIndexes then { e.1 with status := .stale } else e.1 },
    decision.chosen)

/-! ## The liveness snapshot -/

/-- The fields of `_dispatch_liveness_snapshot` that count what reconciliation
    should have removed. -/
structure LivenessSnapshot where
  gapCount : Nat
  orphanedAcquiredReadinessCount : Nat
  expiredAcquiredDispatchLeaseCount : Nat
  deriving DecidableEq, Repr

/-- The acquired runs whose lease has not expired. -/
def liveRuns (s : State) (now : Int) : List (Nat × DispatchRun) :=
  s.acquiredRuns.filter fun r => !dispatchLeaseExpired r.2 now

/-- The Goals that `_dispatch_liveness_snapshot` lists. -/
def activeIncompleteGoals (s : State) : List (Nat × Goal) :=
  s.currentGoals.filter fun g =>
    g.2.archivedAt = "" && g.2.completionState = .incomplete &&
      (s.sessions.lookup g.2.sessionId).any fun session =>
        session.active && !s.unitPaused session.unitId

/-- `covered`: a role is ready or running for the Goal, or it waits. -/
def covered (s : State) (now : Int) (g : Nat × Goal) : Bool :=
  (s.dispatchReadiness.any fun e => e.status = .ready && e.goalId = g.1) ||
    ((s.liveRuns now).any fun r => r.2.goalId = g.1) || g.2.waiting.isSome

/-- `_dispatch_liveness_snapshot`. -/
def dispatchLivenessSnapshot (s : State) (env : Env) : LivenessSnapshot :=
  { gapCount := (s.activeIncompleteGoals.filter fun g => !s.covered env.now g).length
    orphanedAcquiredReadinessCount := (s.dispatchReadiness.filter fun e =>
      e.status = .acquired && !((s.liveRuns env.now).any fun r =>
        r.2.readinessId = e.readinessId)).length
    expiredAcquiredDispatchLeaseCount := s.acquiredRuns.length - (s.liveRuns env.now).length }

end State
end Aize
