/-
  The daemon (`cli/workers.py`): a main loop over a pool of dispatch Lots.

  A Lot is the future of one `dispatch_once`: it acquires a lease, lets the agent work, and
  commits what comes back. The main loop collects the Lots that are over, runs the scheduled
  Units and submits new Lots. A step of `daemonSystem` is one transaction of the main loop, of
  a Lot, or of another process on the same store; between two of them anything may happen.
-/
import Aize.System

namespace Aize

/-! ## Options -/

/-- The arguments of `run_daemon`, with times in microseconds. -/
structure DaemonOptions where
  parentSessionId : String
  createdBy : String
  scheduleInterval : Int
  dispatchInterval : Int
  dispatchLots : Int := 1
  maxDispatchLots : Option Int := none
  maxCycles : Option Int := none
  idleTimeout : Option Int := none
  recoveryContext : String := ""

namespace DaemonOptions

/-- What `run_daemon` refuses before it touches the store. -/
def check (o : DaemonOptions) : Except Err Unit := do
  Except.require (0 < o.scheduleInterval) (.storeError "schedule interval must be positive")
  Except.require (0 ≤ o.dispatchInterval) (.storeError "dispatch interval must not be negative")
  Except.require (1 ≤ o.dispatchLots) (.storeError "dispatch lots must be positive")
  Except.require (o.maxDispatchLots.all (1 ≤ ·)) (.storeError "max dispatch lots must be positive")
  Except.require (o.maxCycles.all (1 ≤ ·)) (.storeError "max cycles must be positive")
  Except.require (o.idleTimeout.all (0 ≤ ·)) (.storeError "idle timeout must not be negative")

/-- `lot_cap`: the number of threads of the executor. -/
def lotCap (o : DaemonOptions) : Int := o.maxDispatchLots.getD (max o.dispatchLots 10)

def recoveryText (o : DaemonOptions) : String :=
  if o.recoveryContext = "" then
    "AIze daemon started or restarted. Continue active incomplete SessionGoals from persisted SessionLog state."
  else o.recoveryContext

end DaemonOptions

/-! ## Lots -/

/-- The future of a `dispatch_once`. -/
inductive Lot where
  | submitted
  | leased (lease : Lease)
  | finished (result : Option Lease)
  | raised
  deriving DecidableEq, Repr

namespace Lot

/-- `future.done()`. -/
def done : Lot → Bool
  | .finished _ | .raised => true
  | _ => false

/-- The lease that a Lot works under. -/
def lease? : Lot → Option Lease
  | .leased lease => some lease
  | _ => none

/-- What `future.result()` returns, where it is not `None`. -/
def result? : Lot → Option Lease
  | .finished result => result
  | _ => none

end Lot

/-- `_collect_completed_lots`: a result is kept, an exception only printed. -/
def collectCompletedLots (activeLots : Dict Nat Lot) (dispatched : List Lease) :
    Dict Nat Lot × List Lease :=
  activeLots.entries.foldl (fun r e =>
    if e.2.done then (r.1.erase e.1, r.2 ++ e.2.result?.toList) else r) (activeLots, dispatched)

/-- `_submit_available_lots`: no Lot is added once there are enough. -/
def submitAvailableLots (targetLots : Nat) (activeLots : Dict Nat Lot) : Dict Nat Lot :=
  (List.range targetLots).foldl (fun lots i =>
    if targetLots ≤ lots.keys.length then lots
    else if i + 1 ∈ lots then lots
    else lots.insert (i + 1) .submitted) activeLots

/-- `dispatch_lot_size`. -/
def State.dispatchLots (s : State) (env : Env) : Except Err Nat := do
  let s ← s.load env
  return max 1 s.dispatchLotSize

/-! ## The main loop -/

/-- What the main thread does next. A cycle of the loop is `collect`, `schedule`, `submit`;
    it remembers whether it has collected a result. -/
inductive Stage where
  | init
  | recovery
  | startup
  | sizing
  | collect
  | schedule (completed : Bool)
  | submit (completed : Bool)
  | drain
  | returned
  | failed
  deriving DecidableEq, Repr

/-- The store, and the variables of `run_daemon`. -/
structure Daemon where
  sys : Sys
  stage : Stage := .init
  lotCap : Nat := 0
  lastActivity : Int := 0
  nextSchedulePoll : Int := 0
  cycleCount : Nat := 0
  idlePolls : Nat := 0
  startup : List UnitResult := []
  scheduled : List UnitResult := []
  dispatched : List Lease := []
  activeLots : Dict Nat Lot := ∅
  peakActiveLots : Nat := 0

namespace Daemon

variable (o : DaemonOptions) (env : Env) (now : Int)

/-- An operation of the main thread; what it raises ends the daemon. -/
def exec (d : Daemon) (op : Op) (stage : Stage) : Daemon :=
  match op.exec env d.sys with
  | .ok sys => { d with sys := sys, stage := stage }
  | .error _ => { d with stage := .failed }

/-- The next transaction of the main thread, with its reading of the clock. The lot size is read
    without the lock: `seen` is what the files hold at that time. -/
def main (seen : State) (d : Daemon) : Daemon :=
  match d.stage with
  | .init =>
    match o.check with
    | .ok _ => d.exec env .restart .recovery
    | .error _ => { d with stage := .failed }
  | .recovery => d.exec env (.recordRuntimeRecovery o.recoveryText) .startup
  | .startup =>
    match d.sys.store.runStartupUnits env o.parentSessionId o.createdBy none with
    | .ok (store, startup) =>
      { d with sys := ⟨store, d.sys.leases⟩, startup := startup, stage := .sizing }
    | .error _ => { d with stage := .failed }
  | .sizing =>
    if o.lotCap < o.dispatchLots then { d with stage := .failed }
    else { d.exec env (.setDispatchLotSize o.dispatchLots) .collect with
      lotCap := o.lotCap.toNat, lastActivity := now }
  | .collect =>
    if o.maxCycles.all fun cycles => (d.cycleCount : Int) < cycles then
      let (lots, dispatched) := collectCompletedLots d.activeLots d.dispatched
      let completed := d.dispatched.length < dispatched.length
      { d with
        cycleCount := d.cycleCount + 1
        activeLots := lots
        dispatched := dispatched
        lastActivity := if completed then now else d.lastActivity
        idlePolls := if completed then 0 else d.idlePolls
        stage := .schedule completed }
    else { d with stage := .drain }
  | .schedule completed =>
    if d.nextSchedulePoll ≤ now then
      match d.sys.store.runScheduledUnits env o.parentSessionId o.createdBy none with
      | .ok (store, started) =>
        { d with
          sys := ⟨store, d.sys.leases⟩
          scheduled := d.scheduled ++ started
          lastActivity := if started = [] then d.lastActivity else now
          nextSchedulePoll := now + o.scheduleInterval
          stage := .submit completed }
      | .error _ => { d with stage := .failed }
    else { d with stage := .submit completed }
  | .submit completed =>
    match seen.dispatchLots env with
    | .ok size =>
      let target := if d.activeLots.keys = [] ∧ d.idlePolls ≠ 0 then 1 else min size d.lotCap
      let lots := submitAvailableLots target d.activeLots
      let timedOut := o.idleTimeout.any fun timeout => timeout ≤ now - d.lastActivity
      { d with
        activeLots := lots
        peakActiveLots := max d.peakActiveLots lots.keys.length
        idlePolls := if completed then d.idlePolls else d.idlePolls + 1
        stage := if !completed && timedOut then .drain else .collect }
    | .error _ => { d with stage := .failed }
  | .drain =>
    -- the futures are waited for in order: the first that has raised ends the daemon
    match d.activeLots.vals.find? fun lot => !(lot matches .finished _) with
    | none =>
      let (lots, dispatched) := collectCompletedLots d.activeLots d.dispatched
      { d with activeLots := lots, dispatched := dispatched, stage := .returned }
    | some .raised => { d with stage := .failed }
    | some _ => d
  | .returned => d
  | .failed => d

/-! ## Steps -/

/-- A step of a Lot's thread. -/
inductive LotTurn where
  | acquire
  | commit (agentEnd : State.AgentEnd)
  /-- something other than an `AgentError` is raised under the lease -/
  | crash

def setLot (d : Daemon) (id : Nat) (lot : Lot) : Daemon :=
  { d with activeLots := d.activeLots.modify id fun _ => lot }

/-- The thread of a Lot takes its next step. -/
def runLot (d : Daemon) (id : Nat) (turn : LotTurn) : Daemon :=
  match d.activeLots.lookup id, turn with
  | some .submitted, .acquire =>
    match d.sys.store.acquireDispatchLease env none with
    | .ok (store, some lease) =>
      { d with sys := ⟨store, d.sys.leases ++ [lease]⟩ }.setLot id (.leased lease)
    | .ok (store, none) => { d with sys := ⟨store, d.sys.leases⟩ }.setLot id (.finished none)
    | .error _ => d.setLot id .raised
  | some (.leased lease), .commit agentEnd =>
    match (Op.commit lease agentEnd).exec env d.sys with
    | .ok sys => { d with sys := sys }.setLot id (.finished (some lease))
    | .error _ => d.setLot id .raised
  | some (.leased _), .crash => d.setLot id .raised
  | _, _ => d

/-- A transaction on the store. -/
inductive Turn where
  | main (env : Env) (now : Int) (seen : State)
  | lot (env : Env) (id : Nat) (turn : LotTurn)
  | other (action : Action)

def next (d : Daemon) : Turn → Daemon
  | .main env now seen => d.main o env now seen
  | .lot env id turn => d.runLot env id turn
  | .other action => { d with sys := d.sys.next action }

/-- Leases of Lots that are at work. -/
def held (d : Daemon) : List Lease := d.activeLots.vals.filterMap Lot.lease?

/-- Only a Lot itself commits under its lease. -/
def Allowed (d : Daemon) : Turn → Prop
  | .other action => ∀ lease agentEnd, action.op = .commit lease agentEnd → lease ∉ d.held
  | _ => True

end Daemon

/-- The daemon on a store that is in use, among other processes. -/
def daemonSystem (o : DaemonOptions) : TransitionSystem Daemon Daemon.Turn where
  init d := ∃ sys, storeSystem.Reachable sys ∧ d = { sys := sys }
  step d turn d' := d.Allowed turn ∧ d' = d.next o turn

end Aize
