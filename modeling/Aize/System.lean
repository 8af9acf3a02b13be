/-
  The store as a transition system.

  A step is one operation of the store, run to its end at some time; an operation
  that raises leaves the store as it was, because nothing is saved before its last
  action. That save is assumed to succeed: no record is over `MAX_FRAME_BYTES`, and
  the disk takes every write. What a save leaves behind that fails or is killed is
  the subject of `Saves` and `Reloading`. Between the acquisition of a lease and the
  commit of its result any number of other operations may run, so the leases that
  are out are part of the state.
-/
import Aize.Lib.Transition
import Aize.Dispatch

namespace Aize

/-- The stored state, and the leases whose results have not come back. -/
structure Sys where
  store : State
  leases : List Lease := []

/-- The operations of the store. -/
inductive Op where
  | createUser (username password : String) (groups : List String)
  | createServiceUser (username : String) (groups : List String) (provider : String)
  | createUnit (unitId : String) (spec : UnitSpec)
  | setUnitSpawnGroups (unitId : String) (groups : List String)
  | configureUnitSchedule (unitId resolver : String) (fixedParameters : FixedParameters)
      (nextRunAt : Option Stamp) (note : Option String) (enabled : Bool)
  | setUnitActive (unitId : String) (active : Bool)
  | setSessionActive (sessionId : String) (active : Bool)
  | setSessionSchedulingPolicy (sessionId schedulingClass : String) (basePriority : Int)
  | setAgentProvider (role provider : String)
  | setAgentAccounts (role : String) (accounts : List String)
  | setDispatchLotSize (lotSize : Int)
  | createSession (sessionId unitId : String) (parents : List String) (createdBy : String)
  | startGoalSession (sessionId unitId : String) (parents : List String)
      (label body createdBy : String)
  | linkSessions (parent child : String)
  | runScheduledUnits (parent createdBy : String) (now : Option Stamp)
  | runStartupUnits (parent createdBy : String) (now : Option Stamp)
  | scheduleNextUnitRun (sessionId : String) (callParameters : CallParameters) (actor : String)
      (runId : Option Nat)
  | updateGoal (sessionId body createdBy : String)
  | declareCompletion (sessionId : String) (completionState : CompletionState)
      (reason actor : String) (runId : Option Nat) (parameters : CallParameters)
  | declareWaiting (sessionId : String) (spec : State.WaitSpec) (actor : String)
      (runId : Option Nat) (reason : String)
  | appendMessage (sessionId sender recipient body : String)
  | appendRuntimeMessage (sessionId : String) (msg : State.RuntimeMessage)
  | appendUserInput (sessionId sender body replyTo : String)
  | receiveMessage (recipient : String) (sessionId : Option String)
  | recordRuntimeRecovery (context : String)
  | acquire (sessionId : Option String)
  | commit (lease : Lease) (agentEnd : State.AgentEnd)
  | restart

namespace Op

/-- The operations that neither issue nor consume a lease, on the stored state. -/
def apply (env : Env) (s : State) : Op → Except Err State
  | .createUser username password groups => s.createUser env username password groups
  | .createServiceUser username groups provider => s.createServiceUser env username groups provider
  | .createUnit unitId spec => s.createUnit env unitId spec
  | .setUnitSpawnGroups unitId groups => s.setUnitSpawnGroups env unitId groups
  | .configureUnitSchedule unitId resolver fixedParameters nextRunAt note enabled =>
    s.configureUnitSchedule env unitId resolver fixedParameters nextRunAt note enabled
  | .setUnitActive unitId active => s.setUnitActive env unitId active
  | .setSessionActive sessionId active => s.setSessionActive env sessionId active
  | .setSessionSchedulingPolicy sessionId schedulingClass basePriority =>
    s.setSessionSchedulingPolicy env sessionId schedulingClass basePriority
  | .setAgentProvider role provider => s.setAgentProvider env role provider
  | .setAgentAccounts role accounts => s.setAgentAccounts env role accounts
  | .setDispatchLotSize lotSize => s.setDispatchLotSize env lotSize
  | .createSession sessionId unitId parents createdBy =>
    s.createSession env sessionId unitId parents createdBy
  | .startGoalSession sessionId unitId parents label body createdBy =>
    s.startGoalSession env sessionId unitId parents label body createdBy
  | .linkSessions parent child => s.linkSessions env parent child
  | .runScheduledUnits parent createdBy now => Prod.fst <$> s.runScheduledUnits env parent createdBy now
  | .runStartupUnits parent createdBy now => Prod.fst <$> s.runStartupUnits env parent createdBy now
  | .scheduleNextUnitRun sessionId callParameters actor runId =>
    s.scheduleNextUnitRunFromSession env sessionId callParameters actor runId
  | .updateGoal sessionId body createdBy => s.updateGoal env sessionId body createdBy
  | .declareCompletion sessionId completionState reason actor runId parameters =>
    s.setGoalCompletionStateFromRuntime env sessionId completionState reason actor runId parameters
  | .declareWaiting sessionId spec actor runId reason =>
    s.setGoalWaitingFromRuntime env sessionId spec actor runId reason
  | .appendMessage sessionId sender recipient body =>
    s.appendMessage env sessionId sender recipient body
  | .appendRuntimeMessage sessionId msg => s.appendRuntimeMessage env sessionId msg
  | .appendUserInput sessionId sender body replyTo =>
    s.appendUserInput env sessionId sender body replyTo
  | .receiveMessage recipient sessionId => Prod.fst <$> s.receiveMessage env recipient sessionId
  | .recordRuntimeRecovery context => s.recordRuntimeRecoverySignals env context
  | .restart => Prod.snd <$> s.initExisting env
  | .acquire _ => .ok s
  | .commit _ _ => .ok s

/-- One operation. -/
def exec (env : Env) (sys : Sys) : Op → Except Err Sys
  | .acquire sessionId => do
    let (store, lease) ← sys.store.acquireDispatchLease env sessionId
    return ⟨store, sys.leases ++ lease.toList⟩
  | .commit lease agentEnd => do
    Except.require (lease ∈ sys.leases) (.storeError "no such lease")
    return ⟨← sys.store.commitRun env lease agentEnd, sys.leases.erase lease⟩
  | op => do return ⟨← op.apply env sys.store, sys.leases⟩

end Op

/-- An operation at a time. -/
structure Action where
  env : Env
  op : Op

namespace Sys

/-- The state after an operation; one that raises changes nothing. -/
def next (sys : Sys) (a : Action) : Sys :=
  match a.op.exec a.env sys with
  | .ok sys' => sys'
  | .error _ => sys

/-- The states after some operations, one after the other. -/
def nexts (sys : Sys) (as : List Action) : Sys := as.foldl next sys

end Sys

/-- The store: its first state is that of a new `init`. -/
def storeSystem : TransitionSystem Sys Action where
  init sys := ∃ env, State.initNew env = .ok sys.store ∧ sys.leases = []
  step sys a sys' := sys' = sys.next a

theorem run_nexts (sys : Sys) (as : List Action) : ∃ tr, storeSystem.Run sys tr (sys.nexts as) := by
  induction as using List.reverseRecOn with
  | nil => exact ⟨[], .nil sys⟩
  | append_singleton as a ih =>
    obtain ⟨tr, h⟩ := ih
    have hstep : storeSystem.step (sys.nexts as) a (sys.nexts (as ++ [a])) := by
      simp [storeSystem, Sys.nexts]
    exact ⟨_, h.snoc hstep⟩

end Aize
