/-
  The scheduled and startup batches (`run_scheduled_units`, `run_startup_units`)
  and the next run time that a GoalManager sets (`goal/sessions.py`).

  A batch walks the Units in the order of their ids, over one shared state that is
  saved once at the end. A `StoreError` of one Unit's activation becomes a skipped
  entry; every other error ends the batch.
-/
import Aize.Sessions

namespace Aize

/-- An entry of a batch result. -/
inductive UnitResult where
  | started (payload : State.Started)
  | skipped (unitId reason : String)
  deriving DecidableEq, Repr

namespace State

/-- `_unit_launch_identity`: the parent Session and the user of a launch. -/
def unitLaunchIdentity (s : State) (unit : UnitRecord) (fallbackParent fallbackCreatedBy : String) :
    Except Err (String × String) :=
  let owner := strip unit.ownerAccount
  match s.users.lookup owner with
  | none => .ok (fallbackParent, fallbackCreatedBy)
  | some user =>
    let home := strip user.homeSessionId
    if home ∈ s.sessions then .ok (home, owner)
    else .error (.storeError s!"owner user has no home session: {owner}")

/-- Characters other than letters and digits are replaced. -/
def alnumOr (replacement : List Char) (text : String) : String :=
  String.ofList ((lower text).toList.flatMap fun c => if isAlnum c then [c] else replacement)

/-- The base of a generated Session id. -/
def triggeredSessionBase (s : State) (unitId : String) (trigger : Trigger) (nowText : String) :
    String :=
  let safeUnitId := stripChars (· == '-') (alnumOr ['-'] unitId)
  let safeTime := alnumOr [] nowText
  let safeTime := if safeTime = "" then s!"{trigger.name}-{s.nextId}" else safeTime
  s!"{safeUnitId}-{trigger.name}-{safeTime}"

/-- `_triggered_session_id`: the base, or the first of `base-2`, `base-3`, ... that no
    Session has. -/
def triggeredSessionId (s : State) (unitId : String) (trigger : Trigger) (nowText : String) :
    String :=
  let base := s.triggeredSessionBase unitId trigger nowText
  let numbered := fun i => if i = 0 then base else s!"{base}-{i + 1}"
  (((List.range (s.sessions.keys.length + 1)).map numbered).find? (· ∉ s.sessions)).getD base

/-- The start of a Unit in a batch. -/
def launchUnit (s : State) (env : Env) (unitId : String) (unit : UnitRecord)
    (trigger : Trigger) (sessionId parent createdBy : String) (nowText : Stamp) :
    Except Raised (State × Started) :=
  let label := strip (if unit.displayName = "" then unitId else unit.displayName)
  let body := strip (if unit.goalText = "" then label else unit.goalText)
  s.startGoalSessionInState env sessionId unitId [parent] label body createdBy nowText.text trigger

/-- The initial prompt of a Unit, as user input to its Session `sessionId`. -/
def sendInitialPrompt (s : State) (env : Env) (prompt sessionId : String) (goalId : Nat)
    (createdBy kind : String) (nowText : Stamp) : Except Err State := do
  let (s, message) ← s.appendSessionMessage sessionId (userEndpoint createdBy)
    (sessionEndpoint sessionId) { body := prompt, userInput := true } nowText.text
  match s.goals.lookup goalId with
  | none => .error (.keyError s!"goal-{goalId}")
  | some goal =>
    return s.setGoalCompletionState goalId goal .incomplete
      s!"{kind} Unit initial prompt msg-{message.messageId} requires Session processing."
      createdBy none env.utcNow.text

/-- What the scheduler writes into the schedule of a Unit that it has started. -/
def markScheduledRun (s : State) (unitId sessionId : String) (nowText : Stamp) : State :=
  s.modifyUnit unitId fun unit =>
    { unit with schedule := unit.schedule.map fun schedule =>
        { schedule with
          lastRunAt := nowText
          nextRunAt := .absent
          nextRunRequiredBySessionId := some sessionId } }

/-- What `run_scheduled_units` does after a Unit has been started. The timing is
    recorded in the Session with the generated id `sessionId`, also when the Unit is a
    singleton whose Session has another id. -/
def finishScheduledUnit (s : State) (env : Env) (unitId : String) (unit : UnitRecord)
    (sessionId createdBy : String) (nowText : Stamp) (payload : Started) : Except Err State := do
  Except.require (sessionId ∈ s.sessions) (.keyError sessionId)
  let scheduledFor := unit.schedule.elim .absent Schedule.nextRunAt
  let s := s.modifySession sessionId fun session =>
    { session with scheduleTiming := some { scheduledFor := scheduledFor } }
  let prompt := strip unit.initialPrompt
  let s ← if prompt = "" then .ok s
    else s.sendInitialPrompt env prompt sessionId payload.goalId createdBy "Scheduled" nowText
  return s.markScheduledRun unitId sessionId nowText

/-- What `run_startup_units` does after a Unit has been started. -/
def finishStartupUnit (s : State) (env : Env) (unit : UnitRecord) (createdBy : String)
    (nowText : Stamp) (payload : Started) : Except Err State :=
  let prompt := strip unit.initialPrompt
  if prompt = "" then .ok s
  else s.sendInitialPrompt env prompt payload.sessionId payload.goalId createdBy "Startup" nowText

/-- Whether a batch starts this Unit. -/
def selectedForBatch (unitId : String) (unit : UnitRecord) (trigger : Trigger) (now : Int) :
    Except Err Bool :=
  if unit.status ≠ .active ∨ !unitActivationTriggerEnabled unit trigger then .ok false
  else match trigger with
    | .scheduled => do return (← unitScheduleDue unit now) && unitId ≠ ""
    | _ => .ok (unitId ≠ "")

/-- One round of a batch. -/
def runUnit (env : Env) (trigger : Trigger) (parent createdBy : String) (nowText : Stamp)
    (now : Int) (r : State × List UnitResult) (unitId : String) :
    Except Err (State × List UnitResult) := do
  let (s, results) := r
  match s.units.lookup unitId with
  | none => .ok r
  | some unit =>
    if !(← selectedForBatch unitId unit trigger now) then .ok r
    else
      let (launchParent, launchUser) ← s.unitLaunchIdentity unit parent createdBy
      let sessionId := s.triggeredSessionId unitId trigger nowText.text
      match s.launchUnit env unitId unit trigger sessionId launchParent launchUser nowText with
      | .error ⟨.storeError reason, s⟩ => .ok (s, results ++ [.skipped unitId reason])
      | .error ⟨err, _⟩ => .error err
      | .ok (s, payload) =>
        let s ← match trigger with
          | .scheduled => s.finishScheduledUnit env unitId unit sessionId launchUser nowText payload
          | _ => s.finishStartupUnit env unit launchUser nowText payload
        return (s, results ++ [.started payload])

/-- The Units in the order of a batch. -/
def batchOrder (s : State) : List String := s.units.keys.insertionSort (· ≤ ·)

/-- The checks of both batches on their arguments. -/
def checkBatch (s : State) (parent createdBy : String) : Except Err PUnit := do
  Except.require (parent ∈ s.sessions) (.storeError s!"unknown parent session: {parent}")
  Except.require (createdBy ∈ s.users) (.storeError s!"unknown account: {createdBy}")

/-- `now or utc_now()`. -/
def nowOr (env : Env) (now : Option Stamp) : Stamp :=
  match now with
  | some stamp => if stamp.isAbsent then env.utcNow else stamp
  | none => env.utcNow

/-- `run_scheduled_units`. -/
def runScheduledUnits (s : State) (env : Env) (parent createdBy : String) (now : Option Stamp) :
    Except Err (State × List UnitResult) := do
  let s ← s.load env
  s.checkBatch parent createdBy
  let nowText := nowOr env now
  let nowDt ← nowText.parseUtc
  let (s, results) ← s.batchOrder.foldlM (runUnit env .scheduled parent createdBy nowText nowDt) (s, [])
  return (s.save, results)

/-- `run_startup_units`. The time is not parsed. -/
def runStartupUnits (s : State) (env : Env) (parent createdBy : String) (now : Option Stamp) :
    Except Err (State × List UnitResult) := do
  let s ← s.load env
  s.checkBatch parent createdBy
  let nowText := nowOr env now
  let (s, results) ← s.batchOrder.foldlM (runUnit env .startup parent createdBy nowText 0) (s, [])
  return (s.save, results)

/-! ## The next run time -/

/-- `_runtime_actor_allowed`. -/
def runtimeActorAllowed (s : State) (actor : String) (runId : Option Nat) (role : Role) : Bool :=
  normalizeAgentRole actor = some role ||
    (runId.bind s.dispatchRuns.lookup).any fun run =>
      run.agentUser ≠ "" && run.agentUser = strip actor

/-- `_schedule_runtime_parameters`. A Session without a start time is taken to have
    started with its first run. -/
def scheduleRuntimeParameters (s : State) (sessionId : String) (session : Session)
    (completedAt : Stamp) (callParameters : CallParameters) (completionIsProvisional : Bool) :
    RuntimeParameters :=
  let timing := session.scheduleTiming.getD {}
  let runStarts := (s.dispatchRuns.vals.filter fun run =>
    run.sessionId = sessionId && !run.leaseAcquiredAt.isAbsent).map DispatchRun.leaseAcquiredAt
  { sessionId
    unitId := session.unitId
    scheduledFor := timing.scheduledFor
    queuedAt := timing.queuedAt
    startedAt := if timing.startedAt.isAbsent then leastStamp runStarts else timing.startedAt
    completedAt
    completionIsProvisional
    callParameters }

/-- `_schedule_next_unit_run_locked`. -/
def scheduleNextUnitRun (s : State) (env : Env) (sessionId : String)
    (callParameters : CallParameters) (actor : String) (runId : Option Nat) (completedAt : Stamp)
    (completionIsProvisional : Bool) : Except Err State := do
  match s.sessions.lookup sessionId with
  | none => .error (.storeError s!"unknown session: {sessionId}")
  | some session =>
    Except.require (s.runtimeActorAllowed actor runId .goalManager)
      (.storeError "only GoalManager may set a Scheduled Unit next run time")
    let unitId := session.unitId
    Except.require (unitId ≠ "") (.storeError "session is not owned by a Unit")
    match s.units.lookup unitId with
    | none => .error (.storeError s!"session references unknown unit: {unitId}")
    | some unit =>
      match unit.schedule.filter Schedule.enabled with
      | none => .error (.storeError s!"unit is not scheduled: {unitId}")
      | some schedule =>
        let parameters := s.scheduleRuntimeParameters sessionId session completedAt callParameters
          completionIsProvisional
        let resolver := if schedule.resolver = "" then "explicit" else schedule.resolver
        let next ← resolveNextRunAt resolver schedule.fixedParameters parameters
        let parsedNext ← next.parseUtc
        let comparison ← completedAt.parseUtc
        Except.require (comparison < parsedNext) (.storeError "next_run_at must be in the future")
        let schedule :=
          { schedule with
            nextRunAt := next
            nextRunNote := strip callParameters.note
            nextRunSetBySessionId := sessionId
            nextRunSetByRunId := runId
            nextRunSetAt := env.utcNow
            nextRunRequiredBySessionId := none }
        let s := s.modifyUnit unitId fun unit => { unit with schedule := some schedule }
        let (s, _) ← s.appendSessionMessage sessionId (agentEndpoint .goalManager)
          (sessionEndpoint sessionId)
          { body := s!"Scheduled Unit next_run_at set to {next.text}."
            scheduleUpdate := true
            runId }
          env.utcNow.text
        return s

/-- `schedule_next_unit_run_from_session`. -/
def scheduleNextUnitRunFromSession (s : State) (env : Env) (sessionId : String)
    (callParameters : CallParameters) (actor : String) (runId : Option Nat) : Except Err State := do
  let s ← s.load env
  return (← s.scheduleNextUnitRun env sessionId callParameters actor runId env.utcNow true).save

end State
end Aize
