/-
  Leases and commits (`goal/dispatch.py`, with the GoalManager declarations of
  `goal/sessions.py` and the runtime recovery of `goal/log.py`).

  A run is acquired together with its readiness entry; the agent works outside the
  lock; its result comes back through `commitRun`. Between the two, anything may
  happen to the store, so each commit is fenced by `staleDispatchFence`.
-/
import Aize.Messages

namespace Aize

/-- What an agent returns. -/
structure AgentResult where
  prompt : String
  output : String
  provider : String
  providerThreadId : String := ""
  deriving DecidableEq, Repr

/-- What a Lot holds while its agent works. -/
structure Lease where
  goalId : Nat
  sessionId : String
  runId : Nat
  readinessId : Nat
  role : Role
  provider : String
  agentUser : String
  resumeToken : Nat
  sessionMessages : List Message
  dispatchMessages : List Message
  dispatchSignals : List Signal
  deriving DecidableEq, Repr

namespace State

/-! ## Agents -/

/-- An account that may be appointed, with the provider it acts through. -/
def eligibleAccount (s : State) (role : Role) (profile : AgentProfile) (name : String) :
    Option (String × String) :=
  match s.users.lookup name with
  | none => none
  | some user =>
    if role.slotGroup ∉ user.groups then none
    else some (name, if user.provider ≠ "" then user.provider
      else if profile.provider ≠ "" then profile.provider else defaultAgentProvider)

/-- `_select_dispatch_account`. -/
def selectDispatchAccount (s : State) (env : Env) (role : Role) (profile : AgentProfile) :
    Option (String × String) :=
  let eligible := ((profile.accounts.map strip).filter (· ≠ "")).filterMap
    (s.eligibleAccount role profile)
  (eligible.find? fun a => env.providerIsAvailable a.2).or eligible.head?

/-- A new thread under `key`. -/
def newThread (s : State) (sessionId : String) (role : Role) (account key : String) :
    State × String :=
  let (token, s) := s.newId
  let thread : AgentThread := { sessionId, role, account, resumeToken := token }
  ({ s with agentThreads := s.agentThreads.insert key thread }, key)

/-- `_ensure_agent_thread`: the key of the thread. A thread without account is adopted
    by the first account whose provider owns all its provider threads. -/
def ensureAgentThread (s : State) (sessionId : String) (role : Role) (account provider : String) :
    State × String :=
  let legacyKey := sessionId ++ ":" ++ role.token
  let account := strip account
  if account = "" then
    if legacyKey ∈ s.agentThreads then (s, legacyKey)
    else s.newThread sessionId role "" legacyKey
  else
    let key := legacyKey ++ ":" ++ account
    if key ∈ s.agentThreads then (s, key)
    else
      match s.agentThreads.lookup legacyKey with
      | some legacy =>
        if strip legacy.account = "" ∧ ∀ t ∈ legacy.providerThreads, t.1 = provider then
          let threads := (s.agentThreads.erase legacyKey).insert key
            { legacy with account := account }
          ({ s with agentThreads := threads }, key)
        else s.newThread sessionId role account key
      | none => s.newThread sessionId role account key

/-- `_record_agent_turn`. -/
def recordAgentTurn (s : State) (key : String) (result : AgentResult) : State :=
  { s with agentThreads := s.agentThreads.modify key fun thread =>
      { thread with
        turns := thread.turns ++ [⟨result.prompt, result.output⟩]
        providerThreads :=
          if result.provider ≠ "" ∧ result.providerThreadId ≠ "" then
            (thread.providerThreads.filter fun t => t.1 ≠ result.provider) ++
              [(result.provider, result.providerThreadId)]
          else thread.providerThreads } }

/-- `_ensure_agent_thread` and `_record_agent_turn` of a commit. -/
def recordRunTurn (s : State) (run : DispatchRun) (sessionId : String) (result : AgentResult) :
    State :=
  let (s, key) := s.ensureAgentThread sessionId run.role run.agentUser run.agentProvider
  s.recordAgentTurn key result

/-! ## Acquiring a lease -/

/-- The entries of a Session's log within a window. -/
def logWindow (s : State) (sessionId : String) (fromSeq toSeq : Nat) : List LogEntry :=
  (s.log sessionId).filter fun e => fromSeq ≤ e.seq && e.seq ≤ toSeq

/-- `_system_signals_for_log_range`, for one role. -/
def signalsFor (role : Role) (entries : List LogEntry) : List Signal :=
  entries.filterMap fun e => match e.body with
    | .systemSignal signal => if role ∈ signal.targetRoles then some signal else none
    | _ => none

/-- The times a dispatched Session was queued and started. -/
def ScheduleTiming.dispatch (t : ScheduleTiming) (queuedAt startedAt : Stamp) : ScheduleTiming :=
  { t with
    queuedAt := if t.queuedAt.isAbsent then queuedAt else t.queuedAt
    startedAt := if t.startedAt.isAbsent then startedAt else t.startedAt }

/-- The part of `_acquire_dispatch_lease_locked` after an entry has been chosen for the
    Goal `goalId` of the Session `sessionId`. -/
def leaseEntry (s : State) (env : Env) (c : Candidate) (goal : Goal) (session : Session) :
    State × Lease :=
  let e := c.entry
  let sessionId := goal.sessionId
  let s := s.setReadinessStatus e.readinessId .acquired
  let queuedAt := if e.firstReadyAt.isAbsent then env.utcNow else e.firstReadyAt
  let s := s.modifySession sessionId fun session =>
    { session with
      scheduleTiming := session.scheduleTiming.map fun t =>
        ScheduleTiming.dispatch t queuedAt env.utcNow }
  let profile := (s.agentProfiles.lookup e.role).getD ⟨defaultAgentProvider, []⟩
  let appointed := s.selectDispatchAccount env e.role profile
  let profileProvider := if profile.provider = "" then defaultAgentProvider else profile.provider
  let provider := (appointed.map Prod.snd).getD profileProvider
  let agentUser := (appointed.map Prod.fst).getD ""
  let (s, key) := s.ensureAgentThread sessionId e.role agentUser provider
  let s := s.readSessionLog sessionId
  let window := s.logWindow sessionId e.fromLogSeq e.observedToSeq
  let (runId, s) := s.newId
  let run : DispatchRun :=
    { goalId := e.goalId
      sessionId
      role := e.role
      unitId := strip session.unitId
      leaseState := .acquired
      currentPhase := some e.role
      readinessId := e.readinessId
      leaseAcquiredAt := env.utcNow
      schedulingScore := c.score
      agentUser
      agentProvider := provider
      observedGoalBody := goal.body
      fromLogSeq := e.fromLogSeq
      observedToSeq := e.observedToSeq
      wakeReasons := e.wakeReasons }
  ({ s with dispatchRuns := s.dispatchRuns.insert runId run },
    { goalId := e.goalId
      sessionId
      runId
      readinessId := e.readinessId
      role := e.role
      provider
      agentUser
      resumeToken := (s.agentThreads.lookup key).elim 0 AgentThread.resumeToken
      sessionMessages := s.sessionMessages sessionId
      dispatchMessages := window.filterMap LogEntry.message?
      dispatchSignals := signalsFor e.role window })

/-- The checks of `_acquire_dispatch_lease_locked` on the chosen entry. -/
def checkLease (s : State) (e : Readiness) : Except Err (Goal × Session) := do
  match s.goals.lookup e.goalId with
  | none => .error (.keyError s!"goal-{e.goalId}")
  | some goal =>
    match s.sessions.lookup goal.sessionId with
    | none => .error (.storeError s!"goal references unknown session: {goal.sessionId}")
    | some session =>
      Except.require session.active
        (.storeError s!"goal session is inactive: {goal.sessionId}")
      let unitId := strip session.unitId
      Except.require (unitId = "" ∨ unitId ∈ s.units)
        (.storeError s!"session references unknown unit: {unitId}")
      Except.require (unitId = "" ∨ !s.unitPaused unitId)
        (.storeError s!"session unit is not active: {unitId}")
      return (goal, session)

/-- `_acquire_dispatch_lease_locked`: what is stored afterwards, and the lease. -/
def acquireDispatchLease (s : State) (env : Env) (sessionId : Option String) :
    Except Err (State × Option Lease) := do
  let loaded ← s.load env
  Except.require (sessionId.all fun id => id = "" || id ∈ loaded.sessions)
    (.storeError ("unknown session: " ++ sessionId.getD ""))
  let (reconciled, livenessChanged) := loaded.reconcileDispatchLiveness env
  let (next, chosen) := reconciled.nextDispatchReadinessEntry env sessionId
  match chosen with
  | none => return (if livenessChanged then next.save else s, none)
  | some c =>
    let (goal, session) ← next.checkLease c.entry
    let (leased, lease) := next.leaseEntry env c goal session
    return (leased.save, some lease)

/-! ## The fence -/

/-- Why an entry after a run's window makes its result stale. -/
def requirementConflict (runId : Nat) (e : LogEntry) : Option String :=
  match e.body with
  | .goalBodyUpdated .. =>
    some "a SessionGoal body revision arrived after the run's observation window"
  | .message m =>
    if m.payload.runId = some runId then none
    else some "a newer Session message arrived after the run's observation window"
  | .goalStateChanged t =>
    if t.runId = some runId then none
    else some "a newer SessionGoal state change arrived after the run's observation window"
  | .childGoalCompleted .. =>
    some "a child SessionGoal completed after the run's observation window"
  | .sessionActiveChanged .. => none
  | .systemSignal _ => none

/-- `_new_requirement_conflicts_after_window`. -/
def newRequirementConflict (s : State) (sessionId : String) (runId observedToSeq : Nat) :
    Option String :=
  (s.sessionLogAfterCursor sessionId observedToSeq).findSome? (requirementConflict runId)

/-- `_stale_dispatch_fence_locked`. -/
def staleDispatchFence (s : State) (runId : Nat) (run : DispatchRun) (role : Role) :
    Option String :=
  if run.role ≠ role then some s!"dispatch run belongs to another role: {run.role.token}"
  else if run.leaseState ≠ .acquired then
    some s!"dispatch run is no longer acquired: lease_state={run.leaseState.text}"
  else match s.goals.lookup run.goalId with
    | none => some "dispatch run references a missing SessionGoal"
    | some goal =>
      if goal.body ≠ run.observedGoalBody then
        some "the observed SessionGoal was updated during the dispatch run"
      else s.newRequirementConflict run.sessionId runId run.observedToSeq

/-! ## Releasing a run -/

/-- `_set_role_cursor`: a cursor never moves back. -/
def setRoleCursor (s : State) (sessionId : String) (role : Role) (seq : Nat) : State :=
  s.modifySession sessionId fun session =>
    { session with
      roleCursors := session.roleCursors.set role (max (session.roleCursors.get role) seq) }

/-- A run gives its lease back with a result. -/
def releaseRun (s : State) (runId : Nat) : State :=
  s.modifyRun runId DispatchRun.released

/-- `_mark_session_messages_delivered`. -/
def markSessionMessagesDelivered (s : State) (messages : List Message) : State :=
  match messages.find? fun m => startsWith "session:" m.toEndpoint with
  | some m => s.advanceEndpointCursor m.toEndpoint messages
  | none => s

def touchSession (s : State) (sessionId updatedAt : String) : State :=
  s.modifySession sessionId fun session => { session with updatedAt := updatedAt }

/-- `_role_turn_retry_at`. -/
def roleTurnRetryAt (env : Env) : Stamp := .ofInstant (env.time + seconds 30)

/-- `_discard_stale_dispatch_result_locked`. -/
def discardStaleResult (s : State) (env : Env) (runId : Nat) (run : DispatchRun) (role : Role)
    (fenceReason output : String) : State :=
  let s := s.modifyRun runId fun run =>
    { run with staleResults := run.staleResults ++ [⟨role, fenceReason, output⟩] }
  let s := if run.leaseState = .acquired then
      ((s.releaseRun runId).modifyReadiness
        (fun e => e.readinessId = run.readinessId && e.status = .acquired)
        fun e => { e with status := .stale }).setRoleCursor run.sessionId role run.observedToSeq
    else s
  s.logSystemSignal run.sessionId "StaleDispatchResultDiscarded"
    (s!"Dispatch run run-{runId} returned after it lost its dispatch ownership or its observed " ++
      s!"requirement changed: {fenceReason}. The returned output was kept as run evidence " ++
      "without advancing the SessionGoal.")
    [.goalManager] "dispatcher" env.utcNow.text (some runId)

/-- `_recover_missing_lease_run_locked`. -/
def recoverMissingLeaseRun (s : State) (env : Env) (lease : Lease) : State :=
  let s := s.modifyReadiness (fun e => e.readinessId = lease.readinessId && e.status = .acquired)
    fun e => { e with status := .ready }
  if lease.sessionId ∈ s.sessions then
    s.logSystemSignal lease.sessionId "DispatchRunRecovered"
      (s!"Dispatch run run-{lease.runId} was missing when its Agent result returned. " ++
        "The request was returned to the dispatch queue.")
      [.goalManager] "dispatcher" env.utcNow.text (some lease.runId)
  else s

/-! ## The GoalManager commit -/

/-- `_resolve_goal_manager_readiness_for_goal`. -/
def resolveGoalManagerReadiness (s : State) (goalId : Nat) : State :=
  s.modifyReadiness
    (fun e => e.goalId = goalId && e.role = .goalManager &&
      (e.status = .ready || e.status = .acquired))
    fun e => { e with status := .resolved }

/-- `_has_worker_request_for_run`. -/
def hasWorkerRequestForRun (s : State) (sessionId : String) (runId : Nat) : Bool :=
  (s.sessionMessages sessionId).any fun m =>
    m.payload.runId = some runId && m.payload.workerRequest

/-- `_implicit_worker_request_body`. -/
def implicitWorkerRequestBody (goal : Goal) (reason : String) : String :=
  let reason := if strip reason = "" then "Work toward the incomplete SessionGoal."
    else strip reason
  "\n\n".intercalate
    ["GoalManager marked the SessionGoal incomplete. Treat this as WorkerAgent work.",
     "SessionGoal:\n" ++ strip goal.body,
     "GoalManager incomplete instruction:\n" ++ reason,
     "Work toward the SessionGoal, report progress/results to Session, and do not decide " ++
       "goal completion."]

/-- `_append_implicit_worker_request_for_incomplete_goal`. -/
def appendImplicitWorkerRequest (s : State) (env : Env) (runId : Nat) (run : DispatchRun)
    (goal : Goal) (sessionId reason : String) : State :=
  (s.putSessionMessage sessionId (agentSenderEndpoint .goalManager run.agentUser)
    (sessionEndpoint sessionId)
    { body := implicitWorkerRequestBody goal reason
      workerRequest := true
      agentRole := some .goalManager
      agentUser := run.agentUser
      runId := some runId
      implicitWorkerRequest := true }
    env.utcNow.text).1

/-- The schedule of the Session's Unit, if it is enabled. -/
def enabledSchedule (s : State) (session : Session) : Option Schedule :=
  if session.unitId = "" then none
  else ((s.units.lookup session.unitId).bind UnitRecord.schedule).filter Schedule.enabled

/-- `except StoreError`. -/
def exceptStoreError {α : Type} (x : Except Err α) (handler : String → α) : Except Err α :=
  match x with
  | .error (.storeError text) => .ok (handler text)
  | x => x

/-- `_scheduled_unit_completion_blocker`; the empty text lets the completion pass. -/
def scheduledUnitCompletionBlocker (s : State) (session : Session) (completedAt : Stamp) :
    Except Err String :=
  let advice := "Call set_goal_completion_state(..., schedule_parameters=\x7b...\x7d) so the Unit " ++
    "schedule resolver can calculate it."
  match s.enabledSchedule session with
  | none => .ok ""
  | some schedule =>
    let nextRunAt := schedule.nextRunAt.strip
    if nextRunAt.isAbsent then
      .ok ("Scheduled Unit completion requires a future next_run_at. " ++ advice)
    else
      exceptStoreError (do
        let next ← nextRunAt.parseUtc
        let completed ← completedAt.parseUtc
        return if next ≤ completed then
            s!"Scheduled Unit next_run_at {nextRunAt.text} is not in the future. " ++ advice
          else "")
        fun _ => "Scheduled Unit completion requires a valid future Unit next_run_at. " ++ advice

/-- Whether a completion has to resolve the next run time. -/
def mustResolveNext (schedule : Schedule) (completedAt : Stamp) : Except Err Bool :=
  let nextRunAt := schedule.nextRunAt.strip
  let resolver := if schedule.resolver = "" then "explicit" else schedule.resolver
  if resolver ≠ "explicit" ∨ nextRunAt.isAbsent then .ok true
  else
    exceptStoreError (do return (← nextRunAt.parseUtc) ≤ (← completedAt.parseUtc)) fun _ => true

/-- `_prepare_scheduled_unit_completion`: the state, and the reason that blocks the
    completion (empty if none does). -/
def prepareScheduledUnitCompletion (s : State) (env : Env) (sessionId : String)
    (session : Session) (runId : Nat) (parameters : CallParameters) (completedAt : Stamp) :
    Except Err (State × String) := do
  match s.enabledSchedule session with
  | none => .ok (s, "")
  | some schedule =>
    if ← mustResolveNext schedule completedAt then
      match s.scheduleNextUnitRun env sessionId parameters Role.goalManager.token (some runId)
          completedAt false with
      | .ok s => return (s, ← s.scheduledUnitCompletionBlocker session completedAt)
      | .error (.storeError text) =>
        .ok (s, s!"Scheduled Unit next run resolution failed: {text}")
      | .error err => .error err
    else return (s, ← s.scheduledUnitCompletionBlocker session completedAt)

/-- The preparation leaves the state as it was, or sets the next run time. -/
theorem prepareScheduledUnitCompletion_state {s : State} {env : Env} {sessionId : String}
    {session : Session} {runId : Nat} {parameters : CallParameters} {completedAt : Stamp}
    {p : State × String} (h : s.prepareScheduledUnitCompletion env sessionId session runId parameters
      completedAt = .ok p) :
    p.1 = s ∨ s.scheduleNextUnitRun env sessionId parameters Role.goalManager.token (some runId)
      completedAt false = .ok p.1 := by
  unfold prepareScheduledUnitCompletion at h
  cases hs : s.enabledSchedule session with
  | none =>
    rw [hs] at h
    exact .inl (congrArg Prod.fst (Except.ok.inj h)).symm
  | some schedule =>
    simp only [hs] at h
    obtain ⟨must, -, h⟩ := Except.bind_eq_ok.1 h
    split_ifs at h
    · split at h
      · next s₁ hs₁ =>
        obtain ⟨blocker, -, h⟩ := Except.bind_eq_ok.1 h
        exact .inr (by rw [hs₁, ← Except.pure_eq_ok.1 h])
      · exact .inl (congrArg Prod.fst (Except.ok.inj h)).symm
      · cases h
    · obtain ⟨blocker, -, h⟩ := Except.bind_eq_ok.1 h
      exact .inl (by rw [← Except.pure_eq_ok.1 h])

/-- The branch of a commit whose run declared nothing. -/
def applyMissingDecision (s : State) (env : Env) (lease : Lease) (runId : Nat)
    (sessionId : String) : State :=
  let s := s.setReadinessStatus lease.readinessId .resolved
  s.logSystemSignal sessionId "GoalManagerTurnProtocolViolation"
    ("GoalManager returned without declaring the SessionGoal complete or incomplete. " ++
      "Review the unchanged SessionGoal and produce the required completion decision.")
    [.goalManager] "dispatcher" env.utcNow.text (some runId) (roleTurnRetryAt env)

/-- The branch of a declared wait. -/
def applyWaiting (s : State) (env : Env) (lease : Lease) (runId goalId : Nat) (goal : Goal)
    (wait : Waiting) (reason : String) : State :=
  let s := s.modifyGoal goalId fun g =>
    { g with waiting := some { wait with reason := reason, declaredRunId := some runId } }
  let s := s.logGoalStateTransition goalId goal.sessionId
    { completionState := .waiting
      reason
      actor := Role.goalManager.token
      runId := some runId
      createdAt := env.utcNow.text }
  (s.resolveGoalManagerReadiness goalId).setReadinessStatus lease.readinessId .resolved

/-- The branch of a completion that the schedule of the Unit rejects. -/
def applyRejectedCompletion (s : State) (env : Env) (lease : Lease) (runId goalId : Nat)
    (goal : Goal) (sessionId blocker : String) : State :=
  let s := s.logSystemSignal sessionId "GoalCompletionRejected" blocker [.goalManager] "scheduler"
    env.utcNow.text (some runId)
  (s.setGoalCompletionState goalId goal .incomplete blocker "scheduler" (some runId)
    env.utcNow.text).setReadinessStatus lease.readinessId .resolved

/-- The branch of a completion. -/
def applyCompletion (s : State) (env : Env) (lease : Lease) (runId goalId : Nat) (goal : Goal)
    (sessionId reason : String) : State :=
  let s := s.setGoalCompletionState goalId goal .complete reason Role.goalManager.token
    (some runId) env.utcNow.text
  let s := s.modifySession sessionId fun session =>
    { session with
      scheduleTiming := some
        ({ session.scheduleTiming.getD {} with completedAt := env.utcNow } : ScheduleTiming) }
  s.setReadinessStatus lease.readinessId .resolved

/-- The branch of an incomplete Goal. Without a Worker request of this run, one is
    made for it. -/
def applyIncomplete (s : State) (env : Env) (runId goalId : Nat) (run : DispatchRun) (goal : Goal)
    (sessionId reason : String) (workerRequested : Bool) : State :=
  let s := s.setGoalCompletionState goalId goal .incomplete reason Role.goalManager.token
    (some runId) env.utcNow.text
  let s := if workerRequested then s
    else s.appendImplicitWorkerRequest env runId run goal sessionId reason
  s.resolveGoalManagerReadiness goalId

/-- The declared branches of `_commit_goal_manager_run_locked`. -/
def applyDecision (s : State) (env : Env) (lease : Lease) (runId : Nat) (run : DispatchRun)
    (goal : Goal) (session : Session) (declared : Declaration) : Except Err State := do
  let goalId := lease.goalId
  let sessionId := lease.sessionId
  let live := s.hasLiveWorkerReadinessForGoal goalId
  let workerRequested := live || s.hasWorkerRequestForRun sessionId runId
  let s := if live then s else s.readSessionLog sessionId
  match declared.decision with
  | .waiting wait => return s.applyWaiting env lease runId goalId goal wait declared.reason
  | .complete parameters =>
    let (s, blocker) ← s.prepareScheduledUnitCompletion env sessionId session runId parameters
      env.utcNow
    return if blocker ≠ "" then
        s.applyRejectedCompletion env lease runId goalId goal sessionId blocker
      else s.applyCompletion env lease runId goalId goal sessionId declared.reason
  | .incomplete =>
    return s.applyIncomplete env runId goalId run goal sessionId declared.reason workerRequested

/-- What every applied commit ends with. -/
def finishRun (s : State) (env : Env) (lease : Lease) (runId : Nat) (run : DispatchRun)
    (role : Role) : State :=
  ((s.setRoleCursor lease.sessionId role run.observedToSeq).releaseRun runId).touchSession
    lease.sessionId env.utcNow.text

/-- What a GoalManager run has declared, or that it has declared nothing. -/
def applyOutcome (s : State) (env : Env) (lease : Lease) (run : DispatchRun) (goal : Goal)
    (session : Session) : Except Err State :=
  match run.declaredOutcome with
  | none => .ok (s.applyMissingDecision env lease lease.runId lease.sessionId)
  | some declared => s.applyDecision env lease lease.runId run goal session declared

/-- `_commit_goal_manager_run_locked`, for a run that is not fenced. -/
def applyGoalManagerRun (s : State) (env : Env) (lease : Lease) (run : DispatchRun) (goal : Goal)
    (session : Session) (result : AgentResult) : Except Err State := do
  let s ← (s.recordRunTurn run lease.sessionId result).applyOutcome env lease run goal session
  return (s.finishRun env lease lease.runId run .goalManager).markSessionMessagesDelivered
    lease.sessionMessages

/-! ## The Worker and error commits -/

/-- `_role_turn_session_messages`. -/
def roleTurnSessionMessages (s : State) (sessionId : String) (runId : Nat) (run : DispatchRun) :
    List Message :=
  (s.sessionMessages sessionId).filter fun m =>
    m.payload.runId = some runId && m.fromEndpoint = agentSenderEndpoint run.role run.agentUser &&
      m.toEndpoint = sessionEndpoint sessionId

/-- `_append_remote_aize_handoff_message`. -/
def appendRemoteHandoff (s : State) (env : Env) (runId : Nat) (sessionId : String) : State :=
  (s.putSessionMessage sessionId "dispatcher" (nodeEndpoint "remote-aize")
    { body := "WorkerAgent work item for remote AIze. " ++
        "All exchange data is carried as message payload."
      provider := "remote-aize"
      runId := some runId }
    env.utcNow.text).1

/-- `_commit_worker_run_locked`, for a run that is not fenced. -/
def applyWorkerRun (s : State) (env : Env) (lease : Lease) (run : DispatchRun)
    (result : AgentResult) : State :=
  let s := s.recordRunTurn run lease.sessionId result
  let s := if result.provider = "remote-aize" then
      s.appendRemoteHandoff env lease.runId lease.sessionId
    else s
  let s := s.readSessionLog lease.sessionId
  let s := if s.roleTurnSessionMessages lease.sessionId lease.runId run = [] then
      s.logSystemSignal lease.sessionId "WorkerTurnProtocolViolation"
        ("WorkerAgent returned without reporting work results to Session. GoalManager must " ++
          "review the failed Worker turn and decide whether to request the work again.")
        [.goalManager] "dispatcher" env.utcNow.text (some lease.runId) (roleTurnRetryAt env)
    else s
  (s.setReadinessStatus lease.readinessId .resolved).finishRun env lease lease.runId run
    .workerAgent

/-- `_commit_dispatch_error_locked`, for a run that is not fenced. -/
def applyDispatchError (s : State) (env : Env) (lease : Lease) (run : DispatchRun) (goal : Goal)
    (error : String) : State :=
  let s := s.setGoalCompletionState lease.goalId goal .incomplete s!"Dispatch failed: {error}"
    "dispatcher" (some lease.runId) env.utcNow.text
  let s := s.setReadinessStatus lease.readinessId .failed
  (s.finishRun env lease lease.runId run run.role).markSessionMessagesDelivered
    lease.sessionMessages

/-- What an agent run ends with: a result, or an `AgentError`. -/
inductive AgentEnd where
  | result (r : AgentResult)
  | failed (error : String)
  deriving DecidableEq, Repr

/-- The output of a returned result, as a discarded result records it. -/
def AgentEnd.output : AgentEnd → String
  | .result r => r.output
  | .failed _ => ""

/-- The commits of `dispatch_once` on the loaded state: the GoalManager and Worker
    commits, by the role of the lease, and the error commit. -/
def commitLoaded (s : State) (env : Env) (lease : Lease) (agentEnd : AgentEnd) :
    Except Err State := do
  match s.dispatchRuns.lookup lease.runId with
  | none => .ok (s.recoverMissingLeaseRun env lease)
  | some run =>
    match s.goals.lookup lease.goalId, s.sessions.lookup lease.sessionId with
    | none, _ => .error (.keyError s!"goal-{lease.goalId}")
    | _, none => .error (.keyError lease.sessionId)
    | some goal, some session =>
      let role := match agentEnd with
        | .result _ => lease.role
        | .failed _ => run.role
      match s.staleDispatchFence lease.runId run role with
      | some reason => .ok (s.discardStaleResult env lease.runId run role reason agentEnd.output)
      | none =>
        match agentEnd, role with
        | .result r, .goalManager => s.applyGoalManagerRun env lease run goal session r
        | .result r, .workerAgent => .ok (s.applyWorkerRun env lease run r)
        | .failed error, _ => .ok (s.applyDispatchError env lease run goal error)

/-- `_commit_goal_manager_run_locked`, `_commit_worker_run_locked` and
    `_commit_dispatch_error_locked`. -/
def commitRun (s : State) (env : Env) (lease : Lease) (agentEnd : AgentEnd) : Except Err State := do
  let s ← s.load env
  return (← s.commitLoaded env lease agentEnd).save

/-! ## GoalManager declarations -/

/-- The checks that both declarations make on the run. -/
def checkDeclaration (s : State) (sessionId actor : String) (runId : Nat)
    (notAllowed needsLease : String) : Except Err (DispatchRun × Goal) := do
  match s.dispatchRuns.lookup runId with
  | none => .error (.storeError s!"unknown dispatch run: run-{runId}")
  | some run =>
    Except.require (s.runtimeActorAllowed actor (some runId) .goalManager) (.storeError notAllowed)
    Except.require (run.sessionId = sessionId ∧ run.role = .goalManager ∧ run.leaseState = .acquired)
      (.storeError needsLease)
    match s.currentGoalForSession sessionId with
    | none => .error (.storeError "dispatch run no longer owns the current SessionGoal")
    | some (goalId, goal) =>
      Except.require (goalId = run.goalId)
        (.storeError "dispatch run no longer owns the current SessionGoal")
      Except.require run.declaredOutcome.isNone
        (.storeError "GoalManager dispatch run already declared its completion outcome")
      return (run, goal)

/-- Record what a run declared. -/
def declare (s : State) (runId : Nat) (decision : Decision) (reason actor : String) : State :=
  let declaredBy := if strip actor = "" then Role.goalManager.token else strip actor
  s.modifyRun runId fun run =>
    { run with declaredOutcome := some ⟨decision, reason, declaredBy⟩ }

/-- `set_goal_completion_state_from_runtime`. -/
def setGoalCompletionStateFromRuntime (s : State) (env : Env) (sessionId : String)
    (completionState : CompletionState) (reason actor : String) (runId : Option Nat)
    (parameters : CallParameters) : Except Err State := do
  match runId with
  | none =>
    .error (.storeError "GoalManager completion state requires an active dispatch run")
  | some runId =>
    let s ← s.load env
    let (run, goal) ← s.checkDeclaration sessionId actor runId
      "only GoalManager may set a SessionGoal completion state"
      "GoalManager completion state requires its acquired dispatch lease"
    Except.require (goal.body = run.observedGoalBody)
      (.storeError ("the observed SessionGoal changed during the dispatch run; " ++
        "complete a fresh review before declaring"))
    match s.newRequirementConflict sessionId runId run.observedToSeq with
    | some conflict => .error (.storeError
        ("the observed Session requirement changed during the dispatch run: " ++
          s!"{conflict}; complete a fresh review before declaring"))
    | none =>
      let reason := if strip reason = "" then "GoalManager recorded a completion decision."
        else strip reason
      let decision := match completionState with
        | .complete => Decision.complete parameters
        | .incomplete => Decision.incomplete
      return (s.declare runId decision reason actor).save

/-- The argument `wait` of a waiting declaration. -/
structure WaitSpec where
  kind : String
  waitUntil : Stamp := .absent
  eventName : String := ""
  childSessionId : String := ""

/-- `_normalize_goal_waiting_spec_locked`. -/
def normalizeGoalWaitingSpec (s : State) (env : Env) (sessionId : String) (spec : WaitSpec) :
    Except Err Waiting := do
  let kind := lower (strip spec.kind)
  let kind ←
    if kind = "deadline" then do
      let waitUntil := spec.waitUntil.strip
      Except.require (!waitUntil.isAbsent) (.storeError "deadline waiting requires wait_until")
      match waitUntil.instant with
      | none => .error (.storeError ("deadline waiting requires a valid UTC wait_until: " ++
          s!"invalid UTC timestamp: {waitUntil.text}"))
      | some deadline =>
        Except.require (env.now < deadline)
          (.storeError "deadline waiting requires wait_until in the future")
        pure (WaitKind.deadline waitUntil.text deadline)
    else if kind = "event" then do
      let eventName := strip spec.eventName
      Except.require (eventName ≠ "") (.storeError "event waiting requires event_name")
      pure (WaitKind.event eventName)
    else if kind = "child" then do
      let child := strip spec.childSessionId
      Except.require (child ≠ "") (.storeError "child waiting requires child_session_id")
      Except.require (child ∈ s.sessions)
        (.storeError s!"child waiting references an unknown Session: {child}")
      pure (WaitKind.child child)
    else .error (.storeError "waiting spec requires kind deadline, event, or child")
  return { kind, wakeLogSeq := s.latestSessionLogSeq sessionId }

/-- `set_goal_waiting_from_runtime`. -/
def setGoalWaitingFromRuntime (s : State) (env : Env) (sessionId : String) (spec : WaitSpec)
    (actor : String) (runId : Option Nat) (reason : String) : Except Err State := do
  match runId with
  | none =>
    .error (.storeError "GoalManager waiting decision requires an active dispatch run")
  | some runId =>
    let s ← s.load env
    discard (s.checkDeclaration sessionId actor runId
      "only GoalManager may declare a SessionGoal waiting"
      "GoalManager waiting decision requires its acquired dispatch lease")
    let wait ← s.normalizeGoalWaitingSpec env sessionId spec
    let reason := if strip reason = "" then "GoalManager recorded a waiting decision."
      else strip reason
    return (s.declare runId (.waiting wait) reason actor).save

/-! ## Goal edits and runtime recovery -/

/-- `update_goal`. -/
def updateGoal (s : State) (env : Env) (sessionId body createdBy : String) : Except Err State := do
  let body := strip body
  Except.require (body ≠ "") (.storeError "goal body is required")
  let s ← s.load env
  Except.require (sessionId ∈ s.sessions) (.storeError s!"unknown session: {sessionId}")
  Except.require (createdBy ∈ s.users) (.storeError s!"unknown account: {createdBy}")
  return (s.reviseGoal env sessionId body createdBy).save

/-- The current Goals that are incomplete and whose Session is active. -/
def activeGoals (s : State) : List (Nat × Goal) :=
  s.currentGoals.filter fun g =>
    g.2.completionState = .incomplete && g.2.archivedAt = "" &&
      (s.sessions.lookup g.2.sessionId).any Session.active

def runtimeRecoveredBody : String :=
  "AIze runtime started or restarted. Continue the active incomplete SessionGoal from " ++
    "persisted SessionLog state."

/-- What `record_runtime_recovery_signals` does for one active incomplete Goal. -/
def recoverGoal (env : Env) (context : String) (s : State) (g : Nat × Goal) : State :=
  let sessionId := g.2.sessionId
  let held := s.acquiredRuns.filter fun r => r.2.sessionId = sessionId
  let roles := (held.map fun r => r.2.role).reverse.dedup.reverse
  let s := held.foldl (fun s r => s.interruptRun r.1) s
  let s := s.modifyReadiness (fun e => e.sessionId = sessionId && e.status = .acquired) fun e =>
    { e with status := if held.any fun r => r.2.readinessId = e.readinessId then .ready else .stale }
  s.logSystemSignal sessionId "RuntimeRecovered"
    (if context = "" then runtimeRecoveredBody else context)
    (.goalManager :: roles.filter (· ≠ .goalManager)) "runtime" env.utcNow.text

/-- `record_runtime_recovery_signals`. -/
def recordRuntimeRecoverySignals (s : State) (env : Env) (context : String) : Except Err State := do
  let s ← s.load env
  let goals := s.activeGoals
  let lost := s.acquiredRuns.filter fun r => r.2.goalId ∉ goals.map Prod.fst
  let s := lost.foldl (fun s r => s.interruptRun r.1) s
  let s := s.modifyReadiness (fun e => e.status = .acquired && e.goalId ∉ goals.map Prod.fst)
    fun e => { e with status := .stale }
  return (goals.foldl (recoverGoal env context) s).save

end State
end Aize
