/-
  Unit schedules (`goal/schedules.py` and the schedule part of
  `goal/sessions.py`): normalizing a schedule and its activation triggers, and
  resolving the next run time.
-/
import Mathlib.Tactic.Linarith
import Mathlib.Tactic.Ring
import Aize.Lib.Result
import Aize.SessionLog

namespace Aize

/-! ## Resolvers -/

/-- `runtime_parameters` of a resolver. -/
structure RuntimeParameters where
  sessionId : String
  unitId : String
  scheduledFor : Stamp
  queuedAt : Stamp
  startedAt : Stamp
  completedAt : Stamp
  completionIsProvisional : Bool
  callParameters : CallParameters
  deriving DecidableEq, Repr

/-- `runtime_parameters.get(name)` as a text, for the names a resolver may use as an
    anchor. Ids are texts that are no timestamps. -/
def RuntimeParameters.get (p : RuntimeParameters) (name : String) : Stamp :=
  if name = "scheduled_for" then p.scheduledFor
  else if name = "queued_at" then p.queuedAt
  else if name = "started_at" then p.startedAt
  else if name = "completed_at" then p.completedAt
  else if name = "session_id" then ⟨p.sessionId, none⟩
  else if name = "unit_id" then ⟨p.unitId, none⟩
  else if name = "completion_is_provisional" ∧ p.completionIsProvisional then ⟨"True", none⟩
  else .absent

/-- `explicit_next_run_at`. -/
def explicitNextRunAt (p : RuntimeParameters) : Except Err Stamp :=
  let nextRunAt := p.callParameters.nextRunAt.strip
  if nextRunAt.isAbsent then
    .error (.storeError "explicit resolver requires call parameter next_run_at")
  else .ok nextRunAt

/-- The seconds of the longest `timedelta`. -/
def maxTimedelta : Int := 86399999999999

/-- `timedelta(seconds=n)`, for a positive `n`. -/
def timedelta (n : Int) : Except Err Int :=
  if n ≤ maxTimedelta then .ok (seconds n) else .error .overflowError

/-- The loop of `next_interval_boundary`: `candidate` is moved on by `interval`
    until it is past `completed`, or no date any more. -/
def advancePast (completed interval : Int) : Nat → Int → Except Err Int
  | 0, candidate => .ok candidate
  | rounds + 1, candidate =>
    if candidate ≤ completed then do
      let candidate ← toDatetime (candidate + interval)
      advancePast completed interval rounds candidate
    else .ok candidate

/-- Enough rounds for `advancePast`. -/
def boundaryRounds (candidate completed interval : Int) : Nat :=
  ((completed - candidate) / interval + 1).toNat

/-- With a positive interval, these rounds lead past `completed`. -/
theorem lt_add_boundaryRounds {candidate completed interval : Int} (hi : 0 < interval) :
    completed < candidate + boundaryRounds candidate completed interval * interval := by
  unfold boundaryRounds
  have hlt := Int.lt_ediv_add_one_mul_self (completed - candidate) hi
  rcases le_or_gt 0 ((completed - candidate) / interval + 1) with h | h
  · rw [Int.toNat_of_nonneg h]; omega
  · rw [Int.toNat_of_nonpos h.le]
    have : ((completed - candidate) / interval + 1) * interval ≤ 0 :=
      mul_nonpos_of_nonpos_of_nonneg h.le hi.le
    simp only [Nat.cast_zero, zero_mul, add_zero]
    linarith

/-- `next_interval_boundary`. -/
def nextIntervalBoundary (u : FixedParameters) (p : RuntimeParameters) : Except Err Stamp := do
  Except.require (1 ≤ u.intervalSeconds)
    (.storeError "next_interval_boundary requires positive interval_seconds")
  let anchorName := strip (if u.anchor = "" then "scheduled_for" else u.anchor)
  let anchorValue := (p.get anchorName).strip
  Except.require (!anchorValue.isAbsent)
    (.storeError s!"runtime parameter is required: {anchorName}")
  let completedAt := p.completedAt.strip
  Except.require (!completedAt.isAbsent)
    (.storeError "runtime parameter is required: completed_at")
  let candidate ← anchorValue.parseUtc
  let completed ← completedAt.parseUtc
  let interval ← timedelta u.intervalSeconds
  let candidate ← advancePast completed interval (boundaryRounds candidate completed interval)
    candidate
  return .ofInstant candidate

/-- `resolve_next_run_at`; a `ScheduleResolverError` reaches the caller as a
    `StoreError` with the same text. -/
def resolveNextRunAt (resolver : String) (u : FixedParameters) (p : RuntimeParameters) :
    Except Err Stamp := do
  let resolverName := strip resolver
  let resolved ←
    if resolverName = "explicit" then explicitNextRunAt p
    else if resolverName = "next_interval_boundary" then nextIntervalBoundary u p
    else .error (.storeError s!"unknown schedule resolver: {resolver}")
  return .ofInstant (← resolved.parseUtc)

/-- What a resolver makes is the text of a date. -/
theorem resolveNextRunAt_ok {resolver : String} {u : FixedParameters} {p : RuntimeParameters}
    {next : Stamp} (h : resolveNextRunAt resolver u p = .ok next) :
    ∃ t, next = .ofInstant t ∧ Representable t := by
  have hformat : ∀ x : Except Err Stamp,
      (do let resolved ← x; return Stamp.ofInstant (← resolved.parseUtc)) = .ok next →
        ∃ t, next = .ofInstant t ∧ Representable t := by
    intro x hx
    obtain ⟨resolved, -, hx⟩ := Except.bind_eq_ok.1 hx
    obtain ⟨t, ht, hx⟩ := Except.bind_eq_ok.1 hx
    exact ⟨t, (Except.pure_eq_ok.1 hx).symm, (Stamp.parseUtc_eq_ok.1 ht).2⟩
  unfold resolveNextRunAt at h
  dsimp only at h
  split_ifs at h <;> exact hformat _ h

/-! ## Normal forms -/

/-- `_normalize_unit_schedule`, with `none` for an empty schedule. -/
def normalizeUnitSchedule : Option Schedule → Except Err (Option Schedule)
  | none => .ok none
  | some schedule => do
    let nextRunAt := schedule.nextRunAt.strip
    let resolver := strip (if schedule.resolver = "" then "explicit" else schedule.resolver)
    let byHours := schedule.everyHours ≠ 0 ∧ resolver = "explicit"
    let resolver := if byHours then "next_interval_boundary" else resolver
    let fixedParameters := if byHours then ⟨schedule.everyHours * 3600, "scheduled_for"⟩
      else schedule.fixedParameters
    if schedule.enabled ∧ !nextRunAt.isAbsent then discard nextRunAt.parseUtc
    Except.require (resolver = "explicit" ∨ resolver = "next_interval_boundary")
      (.storeError s!"unknown schedule resolver: {resolver}")
    return some
      { schedule with
        nextRunAt := nextRunAt
        note := strip schedule.note
        resolver := resolver
        fixedParameters := fixedParameters
        everyHours := 0 }

/-- An argument `activation_triggers`: the triggers it names. -/
structure TriggerArgs where
  manual : Option Bool := none
  scheduled : Option Bool := none
  startup : Option Bool := none
  deriving DecidableEq, Repr

def Triggers.args (t : Triggers) : TriggerArgs := ⟨some t.manual, some t.scheduled, some t.startup⟩

def scheduleEnabled (schedule : Option Schedule) : Bool := schedule.any Schedule.enabled

/-- `_normalize_unit_activation_triggers`. -/
def normalizeUnitActivationTriggers (triggers : TriggerArgs) (schedule : Option Schedule) :
    Except Err Triggers := do
  let normalized : Triggers :=
    if triggers = {} then ⟨true, scheduleEnabled schedule, false⟩
    else
      { manual := triggers.manual.getD false
        scheduled := if scheduleEnabled schedule && triggers.scheduled.isNone then true
          else triggers.scheduled.getD false
        startup := triggers.startup.getD false }
  Except.require (normalized.manual || normalized.scheduled || normalized.startup)
    (.storeError "unit must allow at least one activation trigger")
  return normalized

/-- `_unit_activation_trigger_enabled`. -/
def unitActivationTriggerEnabled (unit : UnitRecord) (trigger : Trigger) : Bool :=
  unit.activationTriggers.any fun t => t.get trigger

/-- `_unit_schedule_due`. -/
def unitScheduleDue (unit : UnitRecord) (now : Int) : Except Err Bool :=
  match unit.schedule with
  | none => .ok false
  | some schedule =>
    let nextRunAt := schedule.nextRunAt.strip
    if !schedule.enabled || nextRunAt.isAbsent then .ok false
    else do return (← nextRunAt.parseUtc) ≤ now

/-- `_normalize_spawn_groups`. -/
def normalizeSpawnGroups (groups : List String) : List String :=
  (((groups.map strip).filter (· ≠ "")).reverse.dedup).reverse

end Aize
