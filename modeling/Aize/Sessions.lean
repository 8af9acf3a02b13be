/-
  Units and Sessions (`goal/sessions.py`): creating them, linking them, and
  activating Units, by hand or in the scheduled and startup batches.

  `startGoalSessionInState` can raise after it has begun to change the shared
  state; the state it leaves behind is part of its error (`Raised`), because the
  batches catch the error and go on with that state.
-/
import Aize.Store

namespace Aize

/-! ## Units -/

/-- The arguments of `create_unit`. -/
structure UnitSpec where
  instancePolicy : InstancePolicy := .multi
  displayName : String := ""
  goalText : String := ""
  initialPrompt : String := ""
  schedule : Option Schedule := none
  activationTriggers : TriggerArgs := {}
  spawnGroups : List String := []
  ownerAccount : String := rootUsername

namespace State

/-- `create_unit`. -/
def createUnit (s : State) (env : Env) (unitId : String) (spec : UnitSpec) : Except Err State := do
  let s ← s.load env
  let schedule ← normalizeUnitSchedule spec.schedule
  let triggers ← normalizeUnitActivationTriggers spec.activationTriggers schedule
  Except.require (unitId ∉ s.units) (.storeError s!"unit already exists: {unitId}")
  let owner := strip spec.ownerAccount
  Except.require (owner = "" ∨ owner ∈ s.users) (.storeError s!"unknown owner account: {owner}")
  Except.require (strip unitId ≠ "") (.storeError "unit_id is required for workspace creation")
  let unit : UnitRecord :=
    { instancePolicy := spec.instancePolicy
      displayName := strip spec.displayName
      goalText := strip spec.goalText
      initialPrompt := strip spec.initialPrompt
      schedule := schedule
      activationTriggers := some triggers
      spawnGroups := normalizeSpawnGroups spec.spawnGroups
      ownerAccount := owner }
  return { s with units := s.units.insert unitId unit }.save

/-- `set_unit_spawn_groups`. -/
def setUnitSpawnGroups (s : State) (env : Env) (unitId : String) (groups : List String) :
    Except Err State := do
  let s ← s.load env
  Except.require (unitId ∈ s.units) (.storeError s!"unknown unit: {unitId}")
  return (s.modifyUnit unitId fun unit =>
    { unit with spawnGroups := normalizeSpawnGroups groups }).save

/-- `_backfill_unit_schedule_timing`. -/
def backfillUnitScheduleTiming (s : State) (schedule : Schedule) : Except Err State :=
  let interval := schedule.fixedParameters.intervalSeconds
  let sessionId := strip schedule.nextRunSetBySessionId
  match s.sessions.lookup sessionId with
  | none => .ok s
  | some session =>
    let timing := session.scheduleTiming.getD {}
    if schedule.resolver ≠ "next_interval_boundary" ∨ interval < 1 ∨
        schedule.nextRunAt.strip.isAbsent then .ok s
    else if !timing.scheduledFor.isAbsent then
      .ok (s.modifySession sessionId fun session => { session with scheduleTiming := some timing })
    else do
      let next ← schedule.nextRunAt.strip.parseUtc
      let previousBoundary ← toDatetime (next - seconds interval)
      let timing := { timing with scheduledFor := .ofInstant previousBoundary }
      return s.modifySession sessionId fun session => { session with scheduleTiming := some timing }

/-- `configure_unit_schedule`. -/
def configureUnitSchedule (s : State) (env : Env) (unitId resolver : String)
    (fixedParameters : FixedParameters) (nextRunAt : Option Stamp) (note : Option String)
    (enabled : Bool) : Except Err State := do
  let s ← s.load env
  match s.units.lookup unitId with
  | none => .error (.storeError s!"unknown unit: {unitId}")
  | some unit =>
    let existing := unit.schedule.getD { enabled := false }
    let schedule ← normalizeUnitSchedule (some
      { existing with
        enabled := enabled
        resolver := strip resolver
        fixedParameters := fixedParameters
        nextRunAt := (nextRunAt.map Stamp.strip).getD existing.nextRunAt
        note := (note.map strip).getD existing.note })
    let s := s.modifyUnit unitId fun unit => { unit with schedule := schedule }
    let s ← s.backfillUnitScheduleTiming (schedule.getD existing)
    let args := { unit.activationTriggers.elim {} Triggers.args with scheduled := some enabled }
    let triggers ← normalizeUnitActivationTriggers args schedule
    return (s.modifyUnit unitId fun unit => { unit with activationTriggers := some triggers }).save

/-- `set_unit_active`. -/
def setUnitActive (s : State) (env : Env) (unitId : String) (active : Bool) : Except Err State := do
  let s ← s.load env
  Except.require (unitId ∈ s.units) (.storeError s!"unknown unit: {unitId}")
  Except.require (unitId ≠ rootUnitId ∨ active)
    (.storeError "the system root Unit cannot be paused")
  return (s.modifyUnit unitId fun unit =>
    { unit with status := if active then .active else .paused }).save

/-! ## Sessions -/

/-- `set_session_active`. -/
def setSessionActive (s : State) (env : Env) (sessionId : String) (active : Bool) :
    Except Err State := do
  let s ← s.load env
  match s.sessions.lookup sessionId with
  | none => .error (.storeError s!"unknown session: {sessionId}")
  | some session =>
    let now := env.utcNow.text
    let s := s.modifySession sessionId fun session =>
      { session with active := active, updatedAt := now }
    return (s.logSessionActiveChange sessionId session.active active "system" now).save

/-- `SCHEDULING_CLASS_SCORES` by name. -/
def schedulingClassOf (name : String) : Option SchedulingClass :=
  if name = "idle" then some .idle
  else if name = "background" then some .background
  else if name = "normal" then some .normal
  else if name = "high" then some .high
  else if name = "critical" then some .critical
  else none

/-- `set_session_scheduling_policy`. -/
def setSessionSchedulingPolicy (s : State) (env : Env) (sessionId schedulingClass : String)
    (basePriority : Int) : Except Err State := do
  match schedulingClassOf (lower (strip schedulingClass)) with
  | none => .error (.storeError (s!"unsupported scheduling class: {schedulingClass}; " ++
      "expected one of background, critical, high, idle, normal"))
  | some normalizedClass =>
    let s ← s.load env
    Except.require (sessionId ∈ s.sessions) (.storeError s!"unknown session: {sessionId}")
    return (s.modifySession sessionId fun session =>
      { session with
        schedulingPolicy := ⟨normalizedClass, basePriority⟩
        updatedAt := env.utcNow.text }).save

/-- `link_sessions`. -/
def linkSessions (s : State) (env : Env) (parent child : String) : Except Err State := do
  let s ← s.load env
  return (← s.linkSessionsInState parent child).save

/-- `_check_unit_spawn_membership`. -/
def checkUnitSpawnMembership (s : State) (unit : UnitRecord) (username : String) :
    Except Err PUnit :=
  let memberships := (s.users.lookup username).elim [] User.groups
  Except.require (unit.spawnGroups = [] ∨ ∃ g ∈ memberships, g ∈ unit.spawnGroups)
    (.storeError (s!"user {username} is not a member of the required spawn groups: " ++
      ", ".intercalate unit.spawnGroups))

/-- Whether the singleton Unit already has its Session. -/
def singletonSession? (s : State) (unit : UnitRecord) : Option String :=
  if unit.instancePolicy = .singleton ∧ unit.singletonSessionId ≠ "" ∧
      unit.singletonSessionId ∈ s.sessions then some unit.singletonSessionId
  else none

/-- The checks that a new Session of a Unit has to pass. -/
def checkUnitActivation (s : State) (unitId : String) (trigger : Trigger) (createdBy : String) :
    Except Err PUnit :=
  if unitId = "" then .ok ⟨⟩
  else match s.units.lookup unitId with
  | none => .error (.storeError s!"unknown unit: {unitId}")
  | some unit => do
    Except.require (unitActivationTriggerEnabled unit trigger)
      (.storeError s!"unit does not allow {trigger.name} activation: {unitId}")
    Except.require (unit.status = .active) (.storeError s!"unit is paused: {unitId}")
    s.checkUnitSpawnMembership unit createdBy

/-- The parents that a new Session gets when none are given. -/
def parentsOrRoot (parents : List String) : List String :=
  if parents = [] then [rootSessionId] else parents

/-- The parents of a new Session exist. -/
def checkParents (s : State) (parents : List String) : Except Err PUnit :=
  match parents.find? (· ∉ s.sessions) with
  | some p => .error (.storeError s!"unknown parent session: {p}")
  | none => .ok ⟨⟩

/-- Insert a new Session. -/
def insertSession (s : State) (sessionId unitId createdAt : String) : State :=
  let session : Session := { unitId, updatedAt := createdAt }
  { s with sessions := s.sessions.insert sessionId session }

/-- Record the Session of a singleton Unit in both. -/
def recordSingletonSession (s : State) (sessionId unitId : String) : State :=
  if (s.units.lookup unitId).any fun unit => unit.instancePolicy = .singleton then
    (s.modifyUnit unitId fun unit => { unit with singletonSessionId := sessionId }).modifySession
      sessionId fun session => { session with singleton := true }
  else s

/-- `create_session`. -/
def createSession (s : State) (env : Env) (sessionId unitId : String) (parents : List String)
    (createdBy : String) : Except Err State := do
  let s ← s.load env
  let unitId := strip unitId
  s.checkUnitActivation unitId .manual createdBy
  Except.require (unitId = "" ∨ createdBy ∈ s.users) (.storeError s!"unknown user: {createdBy}")
  Except.require (sessionId ∉ s.sessions) (.storeError s!"session already exists: {sessionId}")
  let parents := parentsOrRoot parents
  if sessionId ≠ rootSessionId then s.checkParents parents
  match (s.units.lookup unitId).bind s.singletonSession? with
  | some existing =>
    .error (.storeError s!"unit is singleton and already has session: {existing}")
  | none =>
    Except.require (strip sessionId ≠ "")
      (.storeError "session_id is required for workspace creation")
    let s := (s.insertSession sessionId unitId env.utcNow.text).recordSingletonSession sessionId unitId
    let s ← if sessionId = rootSessionId then .ok s
      else parents.foldlM (fun s p => s.linkSessionsInState p sessionId) s
    return s.save

/-! ## Starting a Goal -/

/-- An error, with the state in memory when it was raised. -/
structure Raised where
  err : Err
  state : State

/-- A check, at the state `s`. -/
def check {α : Type} (s : State) (x : Except Err α) : Except Raised α :=
  x.mapError fun err => ⟨err, s⟩

/-- Link a Session below some parents, one after the other. -/
def linkParents (sessionId : String) : List String → State → Except Raised State
  | [], s => .ok s
  | p :: parents, s =>
    match s.linkSessionsInState p sessionId with
    | .ok s => linkParents sessionId parents s
    | .error err => .error ⟨err, s⟩

/-- The Session and Goal that an activation returns. -/
structure Started where
  sessionId : String
  goalId : Nat
  deriving DecidableEq, Repr

/-- `_activate_singleton_unit_session_in_state`, for the existing Session of a Unit. -/
def activateSingletonUnitSession (s : State) (env : Env) (unitId sessionId : String)
    (parents : List String) (body createdBy createdAt : String) (trigger : Trigger) :
    Except Raised (State × Started) := do
  let s := s.modifySession sessionId fun session =>
    { session with active := true, updatedAt := createdAt }
  let linked := (parentsOrRoot parents).filter fun p => p ∈ s.sessions && p ≠ sessionId
  let s ← linkParents sessionId linked s
  let (s, goalId, goal) := match s.currentGoalForSession sessionId with
    | some (goalId, goal) =>
      (s.modifyGoal goalId fun g => { g with body := body }, goalId, { goal with body := body })
    | none => s.createGoal sessionId body createdBy createdAt
  let s := s.logSystemSignal sessionId "UnitActivated"
    s!"Unit {unitId} activated by {trigger.name} trigger." [.goalManager] "system" createdAt
  let s := s.setGoalCompletionState goalId goal .incomplete
    s!"Singleton Unit {unitId} activated by {trigger.name} trigger." "system" none
    env.utcNow.text
  return (s, ⟨sessionId, goalId⟩)

/-- `_start_goal_session_in_state`. -/
def startGoalSessionInState (s : State) (env : Env) (sessionId unitId : String)
    (parents : List String) (label body createdBy createdAt : String) (trigger : Trigger) :
    Except Raised (State × Started) := do
  let title := strip label
  check s (Except.require (title ≠ "") (.storeError "session label is required"))
  let body := if strip body = "" then title else strip body
  let unitId := strip unitId
  check s (s.checkUnitActivation unitId trigger createdBy)
  check s (Except.require (sessionId ∉ s.sessions)
    (.storeError s!"session already exists: {sessionId}"))
  match (s.units.lookup unitId).bind s.singletonSession? with
  | some existing =>
    s.activateSingletonUnitSession env unitId existing parents body createdBy createdAt trigger
  | none =>
    let parents := parentsOrRoot parents
    check s (s.checkParents parents)
    let s := s.insertSession sessionId unitId createdAt
    check s (Except.require (strip sessionId ≠ "")
      (.storeError "session_id is required for workspace creation"))
    let s := s.recordSingletonSession sessionId unitId
    let s ← linkParents sessionId parents s
    let (s, goalId, goal) := s.createGoal sessionId body createdBy createdAt
    let s := s.setGoalCompletionState goalId goal .incomplete "Goal session created." "system" none
      env.utcNow.text
    return (s, ⟨sessionId, goalId⟩)

/-- `start_goal_session`. -/
def startGoalSession (s : State) (env : Env) (sessionId unitId : String) (parents : List String)
    (label body createdBy : String) : Except Err State := do
  Except.require (strip label ≠ "") (.storeError "session label is required")
  let s ← s.load env
  Except.require (createdBy ∈ s.users) (.storeError s!"unknown account: {createdBy}")
  match s.startGoalSessionInState env sessionId unitId parents label body createdBy
      env.utcNow.text .manual with
  | .ok (s, _) => .ok s.save
  | .error raised => .error raised.err

end State
end Aize
