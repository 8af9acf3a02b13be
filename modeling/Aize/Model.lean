/-
  The data model: the records of `kernel/model.py` and `goal/model.py`, the
  SessionLog entries, and the state of a Store.

  A record is kept in a dictionary under its identity field, which is therefore
  not repeated inside the record. Identifiers that the program generates
  (`new_id`) are numbers drawn from `State.nextId`; a Session, Unit or user is
  named by the text its creator chose.

  The SessionLog of a Session is what its segment files hold (`persisted`)
  followed by what the running transaction has appended (`pending`).
  `fullIds` lists the Sessions whose persisted entries have been read into the
  cache of the transaction: the duplicate check of an append looks only at
  cached entries.
-/
import Aize.Lib.Dict
import Aize.Defs

namespace Aize

/-! ## Users, Units and agents -/

inductive UserStatus where
  | active
  | service
  deriving DecidableEq, Repr

structure User where
  groups : List String
  status : UserStatus := .active
  provider : String := ""
  homeSessionId : String := ""
  homeUnitId : String := ""
  deriving DecidableEq, Repr

inductive UnitStatus where
  | active
  | paused
  deriving DecidableEq, Repr

inductive InstancePolicy where
  | multi
  | singleton
  deriving DecidableEq, Repr

/-- The parameters of `next_interval_boundary`. -/
structure FixedParameters where
  intervalSeconds : Int := 0
  anchor : String := ""
  deriving DecidableEq, Repr

/-- A Unit schedule. `everyHours` is the older way to give an interval; a
    normalized schedule does not have it. -/
structure Schedule where
  enabled : Bool
  nextRunAt : Stamp := .absent
  note : String := ""
  resolver : String := ""
  fixedParameters : FixedParameters := {}
  everyHours : Int := 0
  lastRunAt : Stamp := .absent
  nextRunRequiredBySessionId : Option String := none
  nextRunNote : String := ""
  nextRunSetBySessionId : String := ""
  nextRunSetByRunId : Option Nat := none
  nextRunSetAt : Stamp := .absent
  deriving DecidableEq, Repr

/-- `UNIT_ACTIVATION_TRIGGERS`. -/
inductive Trigger where
  | manual
  | scheduled
  | startup
  deriving DecidableEq, Repr

def Trigger.name : Trigger → String
  | .manual => "manual"
  | .scheduled => "scheduled"
  | .startup => "startup"

structure Triggers where
  manual : Bool
  scheduled : Bool
  startup : Bool
  deriving DecidableEq, Repr

def Triggers.get (t : Triggers) : Trigger → Bool
  | .manual => t.manual
  | .scheduled => t.scheduled
  | .startup => t.startup

structure UnitRecord where
  status : UnitStatus := .active
  instancePolicy : InstancePolicy := .multi
  singletonSessionId : String := ""
  displayName : String := ""
  goalText : String := ""
  initialPrompt : String := ""
  schedule : Option Schedule := none
  activationTriggers : Option Triggers := none
  spawnGroups : List String := []
  ownerAccount : String := ""
  deriving DecidableEq, Repr

structure AgentProfile where
  provider : String
  accounts : List String
  deriving DecidableEq, Repr

structure AgentTurn where
  prompt : String
  result : String
  deriving DecidableEq, Repr

structure AgentThread where
  sessionId : String
  role : Role
  account : String := ""
  resumeToken : Nat
  turns : List AgentTurn := []
  providerThreads : List (String × String) := []
  deriving DecidableEq, Repr

/-! ## Sessions and Goals -/

inductive SchedulingClass where
  | idle
  | background
  | normal
  | high
  | critical
  deriving DecidableEq, Repr

structure SchedulingPolicy where
  schedulingClass : SchedulingClass := .normal
  basePriority : Int := 0
  deriving DecidableEq, Repr

/-- `role_cursors`: the last log entry each role has consumed. -/
structure RoleCursors where
  goalManager : Nat := 0
  workerAgent : Nat := 0
  deriving DecidableEq, Repr

namespace RoleCursors

def get (c : RoleCursors) : Role → Nat
  | .goalManager => c.goalManager
  | .workerAgent => c.workerAgent

def set (c : RoleCursors) (role : Role) (n : Nat) : RoleCursors :=
  match role with
  | .goalManager => { c with goalManager := n }
  | .workerAgent => { c with workerAgent := n }

theorem get_set (c : RoleCursors) (role role' : Role) (n : Nat) :
    (c.set role n).get role' = if role' = role then n else c.get role' := by
  cases role <;> cases role' <;> rfl

end RoleCursors

structure ScheduleTiming where
  scheduledFor : Stamp := .absent
  queuedAt : Stamp := .absent
  startedAt : Stamp := .absent
  completedAt : Stamp := .absent
  deriving DecidableEq, Repr

structure Session where
  unitId : String := ""
  active : Bool := true
  singleton : Bool := false
  updatedAt : String
  schedulingPolicy : SchedulingPolicy := {}
  roleCursors : RoleCursors := {}
  scheduleTiming : Option ScheduleTiming := none
  deriving DecidableEq, Repr

structure Edge where
  parent : String
  child : String
  deriving DecidableEq, Repr

inductive CompletionState where
  | complete
  | incomplete
  deriving DecidableEq, Repr

/-- What a `GoalStateChanged` entry records. -/
inductive Outcome where
  | complete
  | incomplete
  | waiting
  deriving DecidableEq, Repr

def CompletionState.outcome : CompletionState → Outcome
  | .complete => .complete
  | .incomplete => .incomplete

def CompletionState.text : CompletionState → String
  | .complete => "complete"
  | .incomplete => "incomplete"

/-- What a bounded wait is for. A deadline is stored as a text that parsed when it
    was declared; the instant it parsed to is kept with it. -/
inductive WaitKind where
  | deadline (waitUntil : String) (instant : Int)
  | event (eventName : String)
  | child (childSessionId : String)
  deriving DecidableEq, Repr

structure Waiting where
  kind : WaitKind
  wakeLogSeq : Nat
  reason : String := ""
  declaredRunId : Option Nat := none
  deriving DecidableEq, Repr

structure Goal where
  sessionId : String
  body : String
  createdBy : String
  createdAt : String
  completionState : CompletionState := .incomplete
  completionReason : String := ""
  waiting : Option Waiting := none
  archivedAt : String := ""
  deriving DecidableEq, Repr

/-! ## SessionLog -/

structure Payload where
  body : String
  userInput : Bool := false
  workerFollowup : Bool := false
  deferGoalManager : Bool := false
  workerRequest : Bool := false
  implicitWorkerRequest : Bool := false
  scheduleUpdate : Bool := false
  agentRole : Option Role := none
  agentUser : String := ""
  runId : Option Nat := none
  provider : String := ""
  wakeEvents : List String := []
  replyTo : String := ""
  forwardedFrom : Option Nat := none
  deriving DecidableEq, Repr

structure Message where
  messageId : Nat
  fromEndpoint : String
  toEndpoint : String
  payload : Payload
  createdAt : String
  deriving DecidableEq, Repr

structure Transition where
  previousState : Option CompletionState := none
  completionState : Outcome
  reason : String
  actor : String
  runId : Option Nat := none
  createdAt : String
  deferGoalManager : Bool := false
  deriving DecidableEq, Repr

structure Signal where
  signalId : Nat
  signalType : String
  body : String
  targetRoles : List Role
  actor : String
  runId : Option Nat := none
  availableAfter : Stamp := .absent
  deriving DecidableEq, Repr

/-- The event or message of a SessionLog entry, by its `kind`. -/
inductive LogBody where
  | message (m : Message)
  | goalStateChanged (t : Transition)
  | goalBodyUpdated (goalId : Nat) (previousBody body actor : String)
  | childGoalCompleted (childSessionId : String) (childGoalId : Nat) (childGoalBody reason : String)
      (actor : String) (runId : Option Nat)
  | sessionActiveChanged (previousActive active : Bool) (actor : String)
  | systemSignal (signal : Signal)
  deriving DecidableEq, Repr

/-- `event_key`: its prefix and fields. -/
inductive EventKey where
  | goalState (goalId : Nat) (createdAt : String) (state : Outcome) (runId : Option Nat)
      (actor : String)
  | goalBody (goalId : Nat) (createdAt : String) (revision : Nat)
  | childGoalCompleted (parentSessionId : String) (goalId : Nat) (completedAt : String)
  | sessionActive (sessionId : String) (createdAt : String) (previousActive active : Bool)
  | systemSignal (signalId : Nat)
  deriving DecidableEq, Repr

structure LogEntry where
  logId : Nat
  seq : Nat
  createdAt : String
  body : LogBody
  eventKey : Option EventKey := none
  deriving DecidableEq, Repr

/-! ## Dispatch -/

inductive LeaseState where
  | acquired
  | released
  | interrupted
  deriving DecidableEq, Repr

def LeaseState.text : LeaseState → String
  | .acquired => "acquired"
  | .released => "released"
  | .interrupted => "interrupted"

/-- The parameters a GoalManager passes to a schedule resolver. -/
structure CallParameters where
  nextRunAt : Stamp := .absent
  note : String := ""
  deriving DecidableEq, Repr

/-- What a GoalManager declares, with what each kind of declaration carries. -/
inductive Decision where
  | complete (scheduleParameters : CallParameters)
  | incomplete
  | waiting (wait : Waiting)
  deriving DecidableEq, Repr

/-- `declared_outcome`. -/
structure Declaration where
  decision : Decision
  reason : String
  declaredBy : String
  deriving DecidableEq, Repr

inductive WakeKind where
  | sessionActivated
  | goalIncomplete
  | systemSignal
  | childGoalCompleted
  | userInput
  | scheduleUpdate
  | workerReport
  | workerRequest
  | workerFollowup
  deriving DecidableEq, Repr

structure WakeReason where
  seq : Nat
  kind : WakeKind
  reason : String
  messageId : Option Nat := none
  logId : Nat
  availableAfter : Stamp := .absent
  deriving DecidableEq, Repr

/-- A result that came back after its run had lost its lease, or its window. -/
structure StaleResult where
  role : Role
  fenceReason : String
  output : String
  deriving DecidableEq, Repr

structure DispatchRun where
  goalId : Nat
  sessionId : String
  role : Role
  unitId : String := ""
  leaseState : LeaseState := .acquired
  currentPhase : Option Role := none
  readinessId : Nat
  leaseAcquiredAt : Stamp
  schedulingScore : Int := 0
  agentUser : String := ""
  agentProvider : String := ""
  observedGoalBody : String
  fromLogSeq : Nat
  observedToSeq : Nat
  wakeReasons : List WakeReason := []
  declaredOutcome : Option Declaration := none
  staleResults : List StaleResult := []
  deriving DecidableEq, Repr

namespace DispatchRun

/-- The run after it has lost its lease. -/
def interrupted (r : DispatchRun) : DispatchRun :=
  { r with leaseState := .interrupted, currentPhase := none }

/-- The run after it has given its lease back. -/
def released (r : DispatchRun) : DispatchRun :=
  { r with leaseState := .released, currentPhase := none }

end DispatchRun

inductive ReadinessStatus where
  | ready
  | acquired
  | resolved
  | stale
  | failed
  deriving DecidableEq, Repr

structure Readiness where
  readinessId : Nat
  sessionId : String
  goalId : Nat
  role : Role
  status : ReadinessStatus
  firstReadyAt : Stamp
  refreshedAt : Stamp
  fromLogSeq : Nat
  observedToSeq : Nat
  wakeReasons : List WakeReason
  availableAfter : Stamp := .absent
  deriving DecidableEq, Repr

/-! ## The state of a Store -/

structure State where
  users : Dict String User := ∅
  units : Dict String UnitRecord := ∅
  sessions : Dict String Session := ∅
  sessionEdges : List Edge := []
  goals : Dict Nat Goal := ∅
  agentProfiles : Dict Role AgentProfile := ∅
  agentThreads : Dict String AgentThread := ∅
  dispatchRuns : Dict Nat DispatchRun := ∅
  dispatchReadiness : List Readiness := []
  dispatchLotSize : Nat := 0
  endpointCursors : Dict String Nat := ∅
  persisted : Dict String (List LogEntry) := ∅
  pending : Dict String (List LogEntry) := ∅
  fullIds : List String := []
  nextId : Nat := 0
  deriving DecidableEq

namespace State

/-- The entries of a Session that its segment files hold. -/
def persistedLog (s : State) (sessionId : String) : List LogEntry :=
  (s.persisted.lookup sessionId).getD []

/-- The entries of a Session that the running transaction has appended. -/
def pendingLog (s : State) (sessionId : String) : List LogEntry :=
  (s.pending.lookup sessionId).getD []

/-- The SessionLog: what has been persisted, then what is about to be. -/
def log (s : State) (sessionId : String) : List LogEntry :=
  s.persistedLog sessionId ++ s.pendingLog sessionId

/-- The entries an append compares its keys with. -/
def cachedLog (s : State) (sessionId : String) : List LogEntry :=
  if sessionId ∈ s.fullIds then s.log sessionId else s.pendingLog sessionId

/-- `new_id`. -/
def newId (s : State) : Nat × State := (s.nextId, { s with nextId := s.nextId + 1 })

def modifySession (s : State) (sessionId : String) (f : Session → Session) : State :=
  { s with sessions := s.sessions.modify sessionId f }

def modifyGoal (s : State) (goalId : Nat) (f : Goal → Goal) : State :=
  { s with goals := s.goals.modify goalId f }

def modifyRun (s : State) (runId : Nat) (f : DispatchRun → DispatchRun) : State :=
  { s with dispatchRuns := s.dispatchRuns.modify runId f }

def modifyUnit (s : State) (unitId : String) (f : UnitRecord → UnitRecord) : State :=
  { s with units := s.units.modify unitId f }

/-- Update the readiness entries that satisfy `p`. -/
def modifyReadiness (s : State) (p : Readiness → Bool) (f : Readiness → Readiness) : State :=
  { s with dispatchReadiness := s.dispatchReadiness.map fun e => if p e then f e else e }

end State

end Aize
