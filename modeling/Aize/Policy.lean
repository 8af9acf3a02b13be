/-
  Choosing the next readiness entry (`goal/policy.py`).

  A candidate that has waited `STARVATION_WAIT_SECONDS` precedes all others, and
  the longest waiting first; otherwise the highest score wins. Ties go to the
  earlier text, Session, role and position, so the choice is by a linear order
  on keys and unique.
-/
import Mathlib
import Aize.Model

namespace Aize

/-- `SCHEDULING_CLASS_SCORES`. -/
def SchedulingClass.score : SchedulingClass → Int
  | .idle => -100
  | .background => -20
  | .normal => 0
  | .high => 20
  | .critical => 100

/-- `ROLE_BASE_PRIORITIES`. -/
def Role.basePriority : Role → Int
  | .goalManager => 0
  | .workerAgent => 0

def agingIntervalSeconds : Int := 60
def agingScoreLimit : Int := 100
def starvationWaitSeconds : Int := 600

/-- `_waiting_seconds`, in microseconds; 0 for a text that does not parse. -/
def waitingTime (readyAt : Stamp) (now : Int) : Int :=
  match readyAt.instant with
  | none => 0
  | some t => max 0 (now - t)

/-- `scheduling_score`. -/
def schedulingScore (policy : SchedulingPolicy) (role : Role) (firstReadyAt : Stamp) (now : Int) :
    Int :=
  policy.schedulingClass.score + policy.basePriority + role.basePriority +
    min agingScoreLimit (waitingTime firstReadyAt now / seconds agingIntervalSeconds)

/-- `readiness_is_available`. -/
def readinessIsAvailable (e : Readiness) (now : Int) : Bool :=
  e.availableAfter.strip.isAbsent ||
    match e.availableAfter.instant with
    | none => true
    | some t => t ≤ now

/-- A queue entry that may be chosen, with its position and score. -/
structure Candidate where
  index : Nat
  entry : Readiness
  score : Int
  deriving DecidableEq, Repr

/-- `SchedulingDecision`. -/
structure SchedulingDecision where
  chosen : Option Candidate
  staleIndexes : List Nat

/-- What `select_role_dispatch_readiness` is given besides the queue. -/
structure Selection where
  goals : Dict Nat Goal
  sessions : Dict String Session
  acquiredRoles : List (String × Role)
  sessionId : Option String
  now : Int

namespace Selection

variable (sel : Selection)

/-- A ready and available entry within the Session filter. -/
def considered (e : Readiness) : Bool :=
  e.status = .ready && (sel.sessionId.all fun id => id = "" || e.sessionId = id) &&
    readinessIsAvailable e sel.now

/-- Its Goal can be worked on. -/
def goalOpen (e : Readiness) : Bool :=
  match sel.goals.lookup e.goalId with
  | none => false
  | some goal => goal.archivedAt = "" && goal.completionState = .incomplete

/-- The candidate an entry gives, if it is eligible. -/
def candidate? (e : Readiness) (index : Nat) : Option Candidate :=
  if sel.considered e && sel.goalOpen e then
    match sel.sessions.lookup e.sessionId with
    | some session =>
      if session.active && (e.sessionId, e.role) ∉ sel.acquiredRoles then
        some ⟨index, e, schedulingScore session.schedulingPolicy e.role e.firstReadyAt sel.now⟩
      else none
    | none => none
  else none

def candidates (entries : List Readiness) : List Candidate :=
  entries.zipIdx.filterMap fun e => sel.candidate? e.1 e.2

/-- It has waited long enough to precede by age. -/
def starved (c : Candidate) : Bool :=
  seconds starvationWaitSeconds ≤ waitingTime c.entry.firstReadyAt sel.now

end Selection

namespace Candidate

/-- The order among starved candidates: by waiting time. -/
def ageKey (c : Candidate) : String ×ₗ String ×ₗ String ×ₗ Nat :=
  toLex (c.entry.firstReadyAt.text, toLex (c.entry.sessionId, toLex (c.entry.role.token, c.index)))

/-- The order among the others: by score, then as above. -/
def scoreKey (c : Candidate) : Int ×ₗ String ×ₗ String ×ₗ String ×ₗ Nat :=
  toLex (-c.score, c.ageKey)

end Candidate

/-- The order of the scores, by an instance that computes. -/
local instance scoreOrder : Preorder Int := Int.instLinearOrder.toPartialOrder.toPreorder

/-- `select_role_dispatch_readiness`. -/
def selectRoleDispatchReadiness (sel : Selection) (entries : List Readiness) :
    SchedulingDecision :=
  let candidates := sel.candidates entries
  let starved := candidates.filter sel.starved
  { chosen := if starved ≠ [] then starved.argmin Candidate.ageKey
      else candidates.argmin Candidate.scoreKey
    staleIndexes := (entries.zipIdx.filter fun e =>
      sel.considered e.1 && !sel.goalOpen e.1).map Prod.snd }

end Aize
