/-
  What the store is for: a ledger of Sessions, their logs, and the leases on them.

  This is the abstract model. A Session has an active flag, a cursor for each role
  and at most one Goal; a log only grows; a run holds a lease on a window of the log
  for one role. `Step` says what can happen to a ledger, one atomic effect at a
  time; an operation of the store is a sequence of them (`Aize.Effects`).

  Sessions and logs are the `Book` of a ledger. The steps on the book (`BookStep`)
  only read the runs, and commute with the release of a lease (`BookStep.advance`):
  a commit writes into the book before it gives its lease back, and the ledger
  sees the two in the other order.
-/
import Mathlib.Logic.Relation
import Aize.Store

namespace Aize

/-- The Goal of a Session, as far as the ledger is concerned. -/
structure GoalView where
  goalId : Nat
  completionState : CompletionState
  reason : String
  body : String
  deriving DecidableEq

structure SessionView where
  active : Bool
  cursors : RoleCursors
  goal : Option GoalView
  deriving DecidableEq

/-- The Sessions and their logs. -/
structure Book where
  session : String → Option SessionView
  log : String → List LogEntry

structure Ledger extends Book where
  run : Nat → Option DispatchRun
  readiness : List Readiness

/-! ## Entries -/

namespace LogEntry

/-- A new requirement on the Goal: user input, a revised body, or a completed child. -/
def isRequirement (e : LogEntry) : Bool :=
  match e.body with
  | .message m => m.payload.userInput
  | .goalBodyUpdated .. => true
  | .childGoalCompleted .. => true
  | _ => false

/-- An entry that a replay ignores and that asks nothing of the Goal. -/
def isQuiet (e : LogEntry) : Bool :=
  match e.body with
  | .message m => !m.payload.userInput
  | .systemSignal _ => true
  | .goalStateChanged t => t.completionState = .waiting
  | _ => false

/-- The run named by a `GoalStateChanged` entry. -/
def stateRun (e : LogEntry) : Option Nat :=
  match e.body with
  | .goalStateChanged t => t.runId
  | _ => none

/-- The run named by a user input: the Worker run that it is forwarded to. -/
def inputRun (e : LogEntry) : Option Nat :=
  match e.body with
  | .message m => if m.payload.userInput then m.payload.runId else none
  | _ => none

end LogEntry

/-- Entries that continue a log of length `n`. -/
def Numbered (n : Nat) (es : List LogEntry) : Prop :=
  es.map LogEntry.seq = List.range' (n + 1) es.length

/-- What a replay makes of the completion state and its reason. -/
def replayGoal (g : CompletionState × String) (e : LogEntry) : CompletionState × String :=
  match e.body with
  | .goalStateChanged t =>
    match t.completionState with
    | .complete => (.complete, t.reason)
    | .incomplete => (.incomplete, t.reason)
    | .waiting => g
  | .message m =>
    if m.payload.userInput && g.1 = .complete then
      (.incomplete, State.userInputReason m.messageId)
    else g
  | _ => g

/-- What a replay makes of the active flag. -/
def replayActive (active : Bool) (e : LogEntry) : Bool :=
  match e.body with
  | .sessionActiveChanged _ b _ => b
  | _ => active

/-- Whatever the Goal was, after `es` it is incomplete for `reason`, and `es` says
    nothing about the active flag. -/
structure Settles (es : List LogEntry) (reason : String) : Prop where
  goal : ∀ g, es.foldl replayGoal g = (.incomplete, reason)
  active : ∀ b, es.foldl replayActive b = b

/-- The Session after its log has been replayed over it. -/
def SessionView.replay (log : List LogEntry) (v : SessionView) : SessionView :=
  { v with
    active := log.foldl replayActive v.active
    goal := v.goal.map fun g =>
      let r := log.foldl replayGoal (g.completionState, g.reason)
      { g with completionState := r.1, reason := r.2 } }

/-! ## Keys and leases -/

/-- The Session and role of a run. -/
def DispatchRun.key (r : DispatchRun) : String × Role := (r.sessionId, r.role)

/-- Ready or acquired. -/
def Readiness.live (e : Readiness) : Bool := e.status = .ready || e.status = .acquired

/-- Resolved, stale or failed: the entry will be dropped. -/
def ReadinessStatus.dead (st : ReadinessStatus) : Bool :=
  st = .resolved || st = .stale || st = .failed

/-- Run `rid` is acquired, with record `r`. -/
def Holding (run : Nat → Option DispatchRun) (rid : Nat) (r : DispatchRun) : Prop :=
  run rid = some r ∧ r.leaseState = .acquired

/-- No acquired run is named by a state change among `es`. -/
def Silent (run : Nat → Option DispatchRun) (es : List LogEntry) : Prop :=
  ∀ e ∈ es, ∀ rid, e.stateRun = some rid → ∀ r, ¬Holding run rid r

/-- A user input among `es` that names a run names a Worker run. -/
def Forwarded (run : Nat → Option DispatchRun) (es : List LogEntry) : Prop :=
  ∀ e ∈ es, ∀ rid, e.inputRun = some rid → ∃ r, run rid = some r ∧ r.role = .workerAgent

/-- `es` may be appended to a log of length `n`. -/
structure Fits (run : Nat → Option DispatchRun) (n : Nat) (es : List LogEntry) : Prop where
  numbered : Numbered n es
  silent : Silent run es
  forwarded : Forwarded run es

/-! ## Steps on the book -/

/-- The kinds of steps that some invariants exclude or count. -/
inductive Label where
  | plain
  /-- a Session is made active without a log entry -/
  | reactivate (wasActive : Bool)
  /-- the reason of an incomplete Goal changes without a log entry -/
  | unlogged
  | replay
  | complete (sessionId : String) (runId : Nat)
  | acquire (runId : Nat)
  | release (runId : Nat)
  /-- an acquired entry becomes ready because its run is missing -/
  | requeue (readinessId : Nat)
  /-- a run record vanishes -/
  | lose
  deriving DecidableEq

/-- What new requirements may do to the Goal of a Session: an incomplete one may be left
    alone; otherwise the Goal is incomplete afterwards, and the new entries say so. -/
inductive Welcome : Option GoalView → List LogEntry → Option GoalView → Prop where
  | keep {g : Option GoalView} {es : List LogEntry} :
      (∀ g₀, g = some g₀ → g₀.completionState = .incomplete) →
      (∀ e ∈ es, e.isRequirement ∨ e.isQuiet) → Welcome g es g
  | reopen {g₀ : Option GoalView} {g : GoalView} {es : List LogEntry} :
      (∀ g', g₀ = some g' → g'.goalId = g.goalId) → g.completionState = .incomplete →
      Settles es g.reason → Welcome g₀ es (some g)

namespace Book

variable (b : Book)

def setSession (sid : String) (v : SessionView) : Book :=
  { b with session := Function.update b.session sid (some v) }

def addEntries (sid : String) (es : List LogEntry) : Book :=
  { b with log := Function.update b.log sid (b.log sid ++ es) }

/-- Requirements arrive at a Session. -/
def Arrives (run : Nat → Option DispatchRun) (b' : Book) (sid : String) : Prop :=
  ∃ v es goal, b.session sid = some v ∧ b'.session sid = some { v with goal := goal } ∧
    b'.log sid = b.log sid ++ es ∧ Fits run (b.log sid).length es ∧ Welcome v.goal es goal

end Book

/-- One atomic effect on the book. -/
inductive BookStep (run : Nat → Option DispatchRun) : Book → Label → Book → Prop where
  | note {b : Book} {sid : String} {v : SessionView} {e : LogEntry} :
      b.session sid = some v → Fits run (b.log sid).length [e] → e.isQuiet →
      BookStep run b .plain (b.addEntries sid [e])
  | arrive {b b' : Book} :
      (∀ sid, (b'.session sid = b.session sid ∧ b'.log sid = b.log sid) ∨ b.Arrives run b' sid) →
      BookStep run b .plain b'
  | openSession {b : Book} {sid : String} :
      b.session sid = none → b.log sid = [] →
      BookStep run b .plain (b.setSession sid ⟨true, {}, none⟩)
  | setActive {b : Book} {sid : String} {v : SessionView} {e : LogEntry} {a a' : Bool}
      {actor : String} :
      b.session sid = some v → Fits run (b.log sid).length [e] →
      e.body = .sessionActiveChanged a' a actor →
      BookStep run b .plain ((b.addEntries sid [e]).setSession sid { v with active := a })
  | reactivate {b : Book} {sid : String} {v : SessionView} :
      b.session sid = some v →
      BookStep run b (.reactivate v.active) (b.setSession sid { v with active := true })
  | unlogged {b : Book} {sid : String} {v : SessionView} {g₀ g : GoalView} :
      b.session sid = some v → v.goal = some g₀ → g₀.goalId = g.goalId →
      g₀.completionState = .incomplete → g.completionState = .incomplete →
      BookStep run b .unlogged (b.setSession sid { v with goal := some g })
  | complete {b : Book} {sid : String} {v : SessionView} {g : GoalView} {rid : Nat}
      {r : DispatchRun} {e : LogEntry} {t : Transition} :
      b.session sid = some v → v.goal = some g → run rid = some r → r.role = .goalManager →
      r.sessionId = sid → (∀ e ∈ b.log sid, e.isRequirement → e.seq ≤ r.observedToSeq) →
      Fits run (b.log sid).length [e] → e.body = .goalStateChanged t →
      t.completionState = .complete →
      BookStep run b (.complete sid rid) ((b.addEntries sid [e]).setSession sid
        { v with goal := some { g with completionState := .complete, reason := t.reason } })
  | replay {b : Book} {sid : String} {v : SessionView} :
      b.session sid = some v → BookStep run b .replay (b.setSession sid (v.replay (b.log sid)))

/-! ## Steps -/

namespace Ledger

variable (c : Ledger)

def setBook (b : Book) : Ledger := { c with toBook := b }

def setRun (rid : Nat) (r : DispatchRun) : Ledger :=
  { c with run := Function.update c.run rid (some r) }

def setReadiness (l : List Readiness) : Ledger := { c with readiness := l }

/-- A window of an entry or run: it starts after the role's cursor and lies in the
    log, and the Goal is that of the Session. -/
def Window (key : String × Role) (goalId fromSeq toSeq : Nat) : Prop :=
  ∃ v g, c.session key.1 = some v ∧ v.goal = some g ∧ g.goalId = goalId ∧
    fromSeq = v.cursors.get key.2 + 1 ∧ fromSeq ≤ toSeq ∧ toSeq ≤ (c.log key.1).length

/-- What a refresh may put into the queue as ready. -/
structure Rebuilt (e : Readiness) : Prop where
  window : c.Window e.key e.goalId e.fromLogSeq e.observedToSeq
  no_run : ∀ rid r, Holding c.run rid r → r.key ≠ e.key
  no_acquired : ∀ e' ∈ c.readiness, e'.status = .acquired → e'.key ≠ e.key
  id : (∃ e' ∈ c.readiness, e'.status = .ready ∧ e'.readinessId = e.readinessId ∧ e'.key = e.key) ∨
    ∀ rid r, c.run rid = some r → r.readinessId ≠ e.readinessId

/-- A refreshed queue: the acquired entries as they were, and ready entries that were
    there or have been rebuilt, at most one for a key. -/
structure Refreshed (l : List Readiness) : Prop where
  ids : (l.map Readiness.readinessId).Nodup
  mem : ∀ e ∈ l, e.live ∧ (e ∈ c.readiness ∨ e.status = .ready ∧ c.Rebuilt e)
  acquired : ∀ e ∈ c.readiness, e.status = .acquired → e ∈ l
  ready : ∀ x ∈ l, ∀ y ∈ l, x.status = .ready → y.status = .ready → x.key = y.key →
    x.readinessId = y.readinessId

end Ledger

/-- Some entries get a status that takes them out of the queue. -/
def Retired (l l' : List Readiness) : Prop :=
  ∃ F : Readiness → Readiness, l' = l.map F ∧
    ∀ e, F e = e ∨ ∃ st, st.dead ∧ F e = { e with status := st }

namespace Book

/-- The role of a Session has consumed its log up to `n`. -/
def advance (b : Book) (sid : String) (role : Role) (n : Nat) : Book :=
  { b with session := fun x => if x = sid then (b.session x).map fun v =>
      { v with cursors := v.cursors.set role (max (v.cursors.get role) n) } else b.session x }

end Book

namespace Ledger

/-- One atomic effect on a ledger. -/
inductive Step : Ledger → Label → Ledger → Prop where
  | book {c : Ledger} {l : Label} {b : Book} :
      BookStep c.run c.toBook l b → Step c l (c.setBook b)
  | clamp {c : Ledger} {sid : String} {v : SessionView} :
      c.session sid = some v →
      Step c .plain (c.setBook (c.toBook.setSession sid
        { v with cursors := State.clampCursors v.cursors (c.log sid).length }))
  | interrupt {c : Ledger} {rid : Nat} {r : DispatchRun} :
      Holding c.run rid r → Step c .plain (c.setRun rid r.interrupted)
  | amend {c : Ledger} {rid : Nat} {r : DispatchRun} (d : Option Declaration)
      (st : List StaleResult) :
      c.run rid = some r →
      Step c .plain (c.setRun rid { r with declaredOutcome := d, staleResults := st })
  | retire {c : Ledger} {l : List Readiness} :
      Retired c.readiness l → Step c .plain (c.setReadiness l)
  | refresh {c : Ledger} {l : List Readiness} : c.Refreshed l → Step c .plain (c.setReadiness l)
  | acquire {c : Ledger} {rid : Nat} {r : DispatchRun} {e : Readiness} :
      c.run rid = none → (∀ sid, ∀ e ∈ c.log sid, e.stateRun ≠ some rid ∧ e.inputRun ≠ some rid) →
      e ∈ c.readiness → e.status = .ready → (∀ rid r, Holding c.run rid r → r.key ≠ e.key) →
      r.leaseState = .acquired → r.key = e.key → r.goalId = e.goalId →
      r.readinessId = e.readinessId → r.fromLogSeq = e.fromLogSeq →
      r.observedToSeq = e.observedToSeq →
      Step c (.acquire rid) ((c.setRun rid r).setReadiness (c.readiness.map fun x =>
        if x.readinessId = e.readinessId then { x with status := .acquired } else x))
  | release {c : Ledger} {rid : Nat} {r : DispatchRun} :
      Holding c.run rid r →
      Step c (.release rid) ((c.setRun rid r.released).setBook
        (c.toBook.advance r.sessionId r.role r.observedToSeq))
  | recoverSession {c : Ledger} {sid : String} (held : Nat → Bool) :
      (∀ id, held id ↔ ∃ rid r, Holding c.run rid r ∧ r.sessionId = sid ∧ r.readinessId = id) →
      Step c .plain
        { c with
          run := fun rid => (c.run rid).map fun r =>
            if r.sessionId = sid ∧ r.leaseState = .acquired then r.interrupted else r
          readiness := c.readiness.map fun e =>
            if e.sessionId = sid ∧ e.status = .acquired then
              { e with status := if held e.readinessId then .ready else .stale }
            else e }
  | requeue {c : Ledger} (id : Nat) :
      Step c (.requeue id) (c.setReadiness (c.readiness.map fun e =>
        if e.readinessId = id ∧ e.status = .acquired then { e with status := .ready } else e))
  | lose {c : Ledger} (rid : Nat) :
      Step c .lose { c with run := Function.update c.run rid none }

/-- Some steps, all with labels in `P`. -/
def Steps (P : Label → Prop) : Ledger → Ledger → Prop :=
  Relation.ReflTransGen fun c c' => ∃ l, P l ∧ Step c l c'

namespace Steps

variable {P Q : Label → Prop} {c c₁ c₂ : Ledger}

theorem refl (c : Ledger) : Steps P c c := Relation.ReflTransGen.refl

theorem trans (h₁ : Steps P c c₁) (h₂ : Steps P c₁ c₂) : Steps P c c₂ :=
  Relation.ReflTransGen.trans h₁ h₂

theorem of_step {l : Label} (hl : P l) (h : Step c l c₁) : Steps P c c₁ :=
  Relation.ReflTransGen.single ⟨l, hl, h⟩

theorem of_eq (h : c₁ = c) : Steps P c c₁ := by subst h; exact refl _

theorem mono (hPQ : ∀ l, P l → Q l) (h : Steps P c c₁) : Steps Q c c₁ := by
  induction h with
  | refl => exact refl _
  | tail _ hs ih => obtain ⟨l, hl, hs⟩ := hs; exact ih.trans (of_step (hPQ l hl) hs)

/-- What each step keeps, some steps keep. -/
theorem invariant {I : Ledger → Prop} (h : Steps P c c₁) (hc : I c)
    (hstep : ∀ c l c', I c → P l → Step c l c' → I c') : I c₁ := by
  induction h with
  | refl => exact hc
  | tail _ hs ih => obtain ⟨l, hl, hs⟩ := hs; exact hstep _ _ _ ih hl hs

end Steps

end Ledger

/-- Some steps on the book, all with labels in `P`. -/
def BookSteps (run : Nat → Option DispatchRun) (P : Label → Prop) : Book → Book → Prop :=
  Relation.ReflTransGen fun b b' => ∃ l, P l ∧ BookStep run b l b'

namespace BookSteps

variable {run : Nat → Option DispatchRun} {P Q : Label → Prop} {b b₁ b₂ : Book}

theorem refl (b : Book) : BookSteps run P b b := Relation.ReflTransGen.refl

theorem trans (h₁ : BookSteps run P b b₁) (h₂ : BookSteps run P b₁ b₂) : BookSteps run P b b₂ :=
  Relation.ReflTransGen.trans h₁ h₂

theorem of_step {l : Label} (hl : P l) (h : BookStep run b l b₁) : BookSteps run P b b₁ :=
  Relation.ReflTransGen.single ⟨l, hl, h⟩

theorem of_eq (h : b₁ = b) : BookSteps run P b b₁ := by subst h; exact refl _

theorem mono (hPQ : ∀ l, P l → Q l) (h : BookSteps run P b b₁) : BookSteps run Q b b₁ := by
  induction h with
  | refl => exact refl _
  | tail _ hs ih => obtain ⟨l, hl, hs⟩ := hs; exact ih.trans (of_step (hPQ l hl) hs)

/-- What each step keeps, some steps keep. -/
theorem invariant {I : Book → Prop} (h : BookSteps run P b b₁) (hb : I b)
    (hstep : ∀ b l b', I b → P l → BookStep run b l b' → I b') : I b₁ := by
  induction h with
  | refl => exact hb
  | tail _ hs ih => obtain ⟨l, hl, hs⟩ := hs; exact hstep _ _ _ ih hl hs

/-- Steps on the book of a ledger are steps of the ledger. -/
theorem steps {c : Ledger} (h : BookSteps c.run P c.toBook b) :
    Ledger.Steps P c (c.setBook b) := by
  induction h with
  | refl => exact .refl c
  | @tail b₁ b₂ _ hs ih =>
    obtain ⟨l, hl, hs⟩ := hs
    exact ih.trans (.of_step hl (Ledger.Step.book (c := c.setBook b₁) hs))

end BookSteps

end Aize
