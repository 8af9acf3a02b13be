/-
  When the Session of an interval-scheduled Unit can complete.

  A completion resolves the next run time from the anchor `scheduled_for` of the
  Session. Only a scheduled activation, and a later configuration of the
  schedule, record it; a Session that was started by hand or at startup does not
  have it, and its completion is rejected. `commit_interval_iff` says exactly when
  the completion passes and the Unit gets a time in the future that can be read.
-/
import Aize.Boundaries
import Aize.Notices
import Aize.Batches

namespace Aize

/-! ## Texts that are not blank -/

/-- The text of a second is not blank. -/
theorem strip_isoformat (t : Int) : strip (isoformat t) ≠ "" := by
  intro h
  have hT : 'T' ∈ (isoformat t).toList := by
    unfold isoformat
    simp [String.toList_append]
  exact absurd (isSpace_of_strip h 'T' hT) (by decide)

theorem ofInstant_at (t : Int) : (Stamp.ofInstant t).At (floorSecond t) := by
  refine ⟨?_, rfl⟩
  simp [Stamp.ofInstant, Stamp.strip, Stamp.isAbsent, strip_isoformat]

theorem ofInstant_text (t : Int) : (Stamp.ofInstant t).text = isoformat (floorSecond t) := rfl

theorem parseUtc_ofInstant {t : Int} (h : Representable t) :
    (Stamp.ofInstant t).parseUtc = .ok (floorSecond t) :=
  Stamp.parseUtc_eq_ok.2 ⟨rfl, representable_floorSecond.2 h⟩

theorem parseUtc_ofInstant_strip {t : Int} (h : Representable t) :
    (Stamp.ofInstant t).strip.parseUtc = .ok (floorSecond t) :=
  Stamp.parseUtc_eq_ok.2 ⟨rfl, representable_floorSecond.2 h⟩

theorem utcNow_at (env : Env) : env.utcNow.At env.now := ofInstant_at env.time

namespace State

variable {s s' : State} {env : Env} {sid : String} {session : Session} {unit : UnitRecord}
  {schedule : Schedule}

/-! ## The next run time of an interval -/

/-- The schedule is enabled, with the resolver `next_interval_boundary` at its default
    anchor. -/
structure Interval (schedule : Schedule) : Prop where
  enabled : schedule.enabled = true
  resolver : schedule.resolver = "next_interval_boundary"
  seconds : 1 ≤ schedule.fixedParameters.intervalSeconds
  anchor : schedule.fixedParameters.anchorName = "scheduled_for"

instance (schedule : Schedule) : Decidable (Interval schedule) :=
  decidable_of_iff (schedule.enabled = true ∧ schedule.resolver = "next_interval_boundary" ∧
      1 ≤ schedule.fixedParameters.intervalSeconds ∧
      schedule.fixedParameters.anchorName = "scheduled_for")
    ⟨fun h => ⟨h.1, h.2.1, h.2.2.1, h.2.2.2⟩, fun h => ⟨h.enabled, h.resolver, h.seconds, h.anchor⟩⟩

/-- The Session has an anchor, from which the next run time comes out past `now`, and no date
    overflows. -/
def TimedAt (session : Session) (schedule : Schedule) (now anchor : Int) : Prop :=
  (session.scheduleTiming.getD {}).scheduledFor.At anchor ∧
    InRange schedule.fixedParameters anchor now ∧
    (now < floorSecond anchor ∨ anchor - floorSecond anchor ≤
      (now - floorSecond anchor) % seconds schedule.fixedParameters.intervalSeconds)

/-- The Session has an anchor, and a date overflows on the way to the next run time. -/
def Overflowing (session : Session) (schedule : Schedule) (now : Int) : Prop :=
  ∃ anchor, (session.scheduleTiming.getD {}).scheduledFor.At anchor ∧
    ¬InRange schedule.fixedParameters anchor now

theorem resolver_name (hi : Interval schedule) :
    (if schedule.resolver = "" then "explicit" else schedule.resolver) =
      "next_interval_boundary" := by
  rw [hi.resolver]
  exact if_neg (by decide)

/-- Without an anchor the resolver fails. -/
theorem resolve_fails (hi : Interval schedule) {p : RuntimeParameters}
    (h : ∀ anchor, ¬(p.get "scheduled_for").At anchor) :
    ∃ text, resolveNextRunAt "next_interval_boundary" schedule.fixedParameters p =
      .error (.storeError text) := by
  have hname : strip "next_interval_boundary" = "next_interval_boundary" := by decide
  have hanchor := hi.anchor
  unfold FixedParameters.anchorName at hanchor
  have hnext : ∃ text, nextIntervalBoundary schedule.fixedParameters p =
      .error (.storeError text) := by
    unfold nextIntervalBoundary
    simp only [Except.require, if_pos hi.seconds, Except.ok_bind, hanchor]
    by_cases habsent : (p.get "scheduled_for").strip.isAbsent = true
    · rw [if_neg (by simp [habsent])]
      exact ⟨_, rfl⟩
    · rw [if_pos (by simpa using habsent), Except.ok_bind]
      split_ifs
      · -- the anchor's text does not parse
        have hnone : (p.get "scheduled_for").instant = none := by
          cases hinst : (p.get "scheduled_for").instant with
          | none => rfl
          | some t => exact absurd ⟨by simpa using habsent, hinst⟩ (h t)
        rw [Except.ok_bind]
        unfold Stamp.parseUtc
        rw [Stamp.strip_instant, hnone]
        exact ⟨_, rfl⟩
      · exact ⟨_, rfl⟩
  obtain ⟨text, htext⟩ := hnext
  refine ⟨text, ?_⟩
  unfold resolveNextRunAt
  simp only [hname, htext]
  rw [if_neg (by decide), if_pos trivial]
  rfl

/-- The GoalManager may set the next run time. -/
theorem goalManager_allowed (s : State) (rid : Nat) :
    s.runtimeActorAllowed Role.goalManager.token (some rid) .goalManager = true := by
  have : normalizeAgentRole Role.goalManager.token = some .goalManager := by decide
  simp [runtimeActorAllowed, this]

section
variable {rid : Nat} {parameters : CallParameters}

/-- The Session belongs to a Unit with an interval schedule. -/
structure OnSchedule (s : State) (sid : String) (session : Session) (unit : UnitRecord)
    (schedule : Schedule) : Prop where
  found : s.sessions.lookup sid = some session
  owned : session.unitId ≠ ""
  unitFound : s.units.lookup session.unitId = some unit
  known : unit.schedule = some schedule
  interval : Interval schedule

/-- The schedule of the Unit is enabled, with this next run time. -/
def NextSet (s : State) (unitId : String) (next : Stamp) : Prop :=
  ∃ unit schedule, s.units.lookup unitId = some unit ∧ unit.schedule = some schedule ∧
    schedule.enabled = true ∧ schedule.nextRunAt = next

/-- The schedule with a new next run time. -/
def withNext (schedule : Schedule) (env : Env) (sid : String) (rid : Nat)
    (parameters : CallParameters) (next : Stamp) : Schedule :=
  { schedule with
    nextRunAt := next
    nextRunNote := strip parameters.note
    nextRunSetBySessionId := sid
    nextRunSetByRunId := some rid
    nextRunSetAt := env.utcNow
    nextRunRequiredBySessionId := none }

theorem OnSchedule.filter (h : OnSchedule s sid session unit schedule) :
    unit.schedule.filter Schedule.enabled = some schedule := by
  rw [h.known]
  simp [h.interval.enabled]

theorem OnSchedule.enabledSchedule (h : OnSchedule s sid session unit schedule) :
    s.enabledSchedule session = some schedule := by
  unfold State.enabledSchedule
  rw [if_neg h.owned, h.unitFound, Option.bind_some, h.filter]

/-- Goals and edges are as they were. -/
structure Prepared (s s' : State) : Prop where
  goals : s'.goals = s.goals
  edges : s'.sessionEdges = s.sessionEdges

theorem units_putSessionMessage {x fromEndpoint toEndpoint createdAt : String} {payload : Payload} :
    (s.putSessionMessage x fromEndpoint toEndpoint payload createdAt).1.units = s.units :=
  units_append

/-- The Unit gets a next run time, and the Session a message. -/
theorem nextSet_put (h : OnSchedule s sid session unit schedule) (next : Stamp)
    (fromEndpoint toEndpoint createdAt : String) (payload : Payload) :
    let s' := ((s.modifyUnit session.unitId fun unit => { unit with
      schedule := some (withNext schedule env sid rid parameters next) }).putSessionMessage
        sid fromEndpoint toEndpoint payload createdAt).1
    Prepared s s' ∧ NextSet s' session.unitId next := by
  refine ⟨⟨goals_putSessionMessage, sessionEdges_append⟩, { unit with
    schedule := some (withNext schedule env sid rid parameters next) },
    withNext schedule env sid rid parameters next, ?_, rfl, h.interval.enabled, rfl⟩
  rw [units_putSessionMessage]
  unfold modifyUnit
  rw [Dict.lookup_modify_self, h.unitFound]
  rfl

/-- The resolver's time is in the future: the Unit gets it. -/
theorem scheduleNextUnitRun_ok (h : OnSchedule s sid session unit schedule) {t : Int}
    (hdate : Representable t)
    (hres : resolveNextRunAt "next_interval_boundary" schedule.fixedParameters
      (s.scheduleRuntimeParameters sid session env.utcNow parameters false) = .ok (.ofInstant t))
    (ht : env.now < floorSecond t) : ∃ s',
    s.scheduleNextUnitRun env sid parameters Role.goalManager.token (some rid) env.utcNow false =
      .ok s' ∧ Prepared s s' ∧ NextSet s' session.unitId (.ofInstant t) := by
  have hmem : sid ∈ s.sessions := Dict.mem_iff_lookup.2 ⟨session, h.found⟩
  have hput := @nextSet_put _ env _ _ _ _ rid parameters h (.ofInstant t)
    (agentEndpoint .goalManager) (sessionEndpoint sid) env.utcNow.text
    { body := s!"Scheduled Unit next_run_at set to {(Stamp.ofInstant t).text}."
      scheduleUpdate := true
      runId := some rid }
  refine ⟨_, ?_, hput⟩
  unfold scheduleNextUnitRun
  simp only [h.found, h.unitFound, h.filter, goalManager_allowed, Except.require, if_true,
    if_pos h.owned, Except.ok_bind, resolver_name h.interval, hres, parseUtc_ofInstant hdate,
    Env.utcNow_parseUtc, if_pos ht]
  unfold appendSessionMessage
  rw [if_pos (show sid ∈ (s.modifyUnit session.unitId _).sessions from hmem)]
  rfl

/-- It is not: setting it fails. -/
theorem scheduleNextUnitRun_late (h : OnSchedule s sid session unit schedule) {t : Int}
    (hdate : Representable t)
    (hres : resolveNextRunAt "next_interval_boundary" schedule.fixedParameters
      (s.scheduleRuntimeParameters sid session env.utcNow parameters false) = .ok (.ofInstant t))
    (ht : ¬env.now < floorSecond t) :
    s.scheduleNextUnitRun env sid parameters Role.goalManager.token (some rid) env.utcNow false =
      .error (.storeError "next_run_at must be in the future") := by
  unfold scheduleNextUnitRun
  simp only [h.found, h.unitFound, h.filter, goalManager_allowed, Except.require, if_true,
    if_pos h.owned, Except.ok_bind, resolver_name h.interval, hres, parseUtc_ofInstant hdate,
    Env.utcNow_parseUtc, if_neg ht]
  rfl

/-- The resolver fails: so does setting it. -/
theorem scheduleNextUnitRun_fails (h : OnSchedule s sid session unit schedule) {err : Err}
    (hres : resolveNextRunAt "next_interval_boundary" schedule.fixedParameters
      (s.scheduleRuntimeParameters sid session env.utcNow parameters false) = .error err) :
    s.scheduleNextUnitRun env sid parameters Role.goalManager.token (some rid) env.utcNow false =
      .error err := by
  unfold scheduleNextUnitRun
  simp only [h.found, h.unitFound, h.filter, goalManager_allowed, Except.require, if_true,
    if_pos h.owned, Except.ok_bind, resolver_name h.interval, hres]
  rfl

/-- A next run time in the future does not block. -/
theorem blocker_of_nextSet (hne : session.unitId ≠ "") {t : Int} (hdate : Representable t)
    (hset : NextSet s session.unitId (.ofInstant t)) (ht : env.now < floorSecond t) :
    s.scheduledUnitCompletionBlocker session env.utcNow = .ok "" := by
  obtain ⟨unit, schedule, hunit, hsched, henabled, hnext⟩ := hset
  have hfilter : s.enabledSchedule session = some schedule := by
    unfold State.enabledSchedule
    rw [if_neg hne, hunit, Option.bind_some, hsched]
    simp [henabled]
  have habsent := (ofInstant_at t).1
  unfold scheduledUnitCompletionBlocker
  simp only [hfilter, hnext, habsent, parseUtc_ofInstant_strip hdate, Env.utcNow_parseUtc,
    Except.ok_bind, if_neg (not_le.2 ht)]
  rfl

/-- A failed resolution blocks the completion. -/
theorem failed_ne (text : String) : s!"Scheduled Unit next run resolution failed: {text}" ≠ "" := by
  intro h
  exact absurd (String.append_eq_empty_iff.1 h).1 (by decide)

/-- **The completion is let through exactly when the Session is timed**; the Unit then has
    the boundary for its next run time. -/
theorem prepare_interval (h : OnSchedule s sid session unit schedule) :
    (∃ anchor p, TimedAt session schedule env.now anchor ∧
      s.prepareScheduledUnitCompletion env sid session rid parameters env.utcNow = .ok p ∧
      Prepared s p.1 ∧ p.2 = "" ∧ NextSet p.1 session.unitId (.ofInstant
        (boundary env.now (seconds schedule.fixedParameters.intervalSeconds) anchor))) ∨
    (∀ anchor, ¬TimedAt session schedule env.now anchor) ∧
      (Overflowing session schedule env.now ∧
          s.prepareScheduledUnitCompletion env sid session rid parameters env.utcNow =
            .error .overflowError ∨
        ¬Overflowing session schedule env.now ∧ ∃ p,
          s.prepareScheduledUnitCompletion env sid session rid parameters env.utcNow = .ok p ∧
          Prepared s p.1 ∧ p.2 ≠ "") := by
  have henabled := h.enabledSchedule
  have hmust : mustResolveNext schedule env.utcNow = .ok true := by
    unfold mustResolveNext
    simp only [resolver_name h.interval]
    rw [if_pos (.inl (by decide))]
  unfold prepareScheduledUnitCompletion
  simp only [henabled, hmust, Except.ok_bind, if_true]
  by_cases hanchor : ∃ anchor, (session.scheduleTiming.getD {}).scheduledFor.At anchor
  swap
  · obtain ⟨text, hres⟩ := resolve_fails h.interval
      (p := s.scheduleRuntimeParameters sid session env.utcNow parameters false)
      fun anchor hat => hanchor ⟨anchor, hat⟩
    rw [scheduleNextUnitRun_fails h hres]
    exact .inr ⟨fun anchor hat => hanchor ⟨anchor, hat.1⟩, .inr ⟨fun ⟨anchor, hat, _⟩ =>
      hanchor ⟨anchor, hat⟩, _, rfl, ⟨rfl, rfl⟩, failed_ne text⟩⟩
  obtain ⟨anchor, hat⟩ := hanchor
  have huniq : ∀ a, (session.scheduleTiming.getD {}).scheduledFor.At a → a = anchor := fun a ha =>
    Option.some.inj (ha.2.symm.trans hat.2)
  have hres := @resolveNextRunAt_interval schedule.fixedParameters
    (s.scheduleRuntimeParameters sid session env.utcNow parameters false) _ _
    h.interval.seconds (by rw [h.interval.anchor]; exact hat) (utcNow_at env)
  by_cases hrange : InRange schedule.fixedParameters anchor env.now
  swap
  · rw [if_neg hrange] at hres
    rw [scheduleNextUnitRun_fails h hres]
    exact .inr ⟨fun a ha => hrange (huniq a ha.1 ▸ ha.2.1), .inl ⟨⟨anchor, hat, hrange⟩, rfl⟩⟩
  rw [if_pos hrange] at hres
  have hiff := @lt_floorSecond_boundary_iff anchor env.now _ h.interval.seconds
  by_cases hlt : env.now < floorSecond (boundary env.now
      (seconds schedule.fixedParameters.intervalSeconds) anchor)
  · obtain ⟨s₁, hok, hprepared, hset⟩ := scheduleNextUnitRun_ok h hrange.next hres hlt
    rw [hok]
    refine .inl ⟨anchor, (s₁, ""), ⟨hat, hrange, hiff.1 hlt⟩, ?_, hprepared, rfl, hset⟩
    simp only [blocker_of_nextSet h.owned hrange.next hset hlt]
    rfl
  · rw [scheduleNextUnitRun_late h hrange.next hres hlt]
    refine .inr ⟨fun a ha => hlt (hiff.2 ?_), .inr ⟨fun ⟨a, ha, hno⟩ => hno ?_, _, rfl, ⟨rfl, rfl⟩,
      failed_ne _⟩⟩
    · exact huniq a ha.1 ▸ ha.2.2
    · exact huniq a ha ▸ hrange

end

/-! ## The commit of a completion -/

section
variable {goalId : Nat} {goal : Goal} {completionState : CompletionState} {reason actor now : String}
  {runId : Option Nat} {deferGoalManager : Bool}

theorem units_applyGoalCompletionState : (s.applyGoalCompletionState goalId goal completionState
    reason actor runId now deferGoalManager).units = s.units := by
  rw [applyGoalCompletionState_eq]
  unfold logGoalStateTransition
  split_ifs
  · cases completionState <;> rfl
  · rw [units_append]
    cases completionState <;> rfl

theorem units_logChild {t : Transition} {p : String} :
    (logChild goalId goal t s p).units = s.units := by
  unfold logChild
  split_ifs
  · exact units_append
  · rfl

theorem units_reopenParent {t : Transition} {p : String} :
    (reopenParent goal t s p).units = s.units := by
  unfold reopenParent
  split
  · split_ifs
    · exact units_applyGoalCompletionState
    · rfl
  · rfl

theorem units_foldl {α : Type} {f : State → α → State} (hf : ∀ s a, (f s a).units = s.units)
    (l : List α) (s : State) : (l.foldl f s).units = s.units :=
  List.foldlRecOn l f (motive := fun s' : State => s'.units = s.units) rfl
    fun s' h a _ => (hf s' a).trans h

/-- A change of a completion state leaves the Units alone. -/
theorem units_setGoalCompletionState : (s.setGoalCompletionState goalId goal completionState reason
    actor runId now deferGoalManager).units = s.units := by
  unfold setGoalCompletionState
  dsimp only
  split_ifs
  · rw [reopenCompletedParentGoalsForChild_eq, units_foldl fun _ _ => units_reopenParent]
    unfold logChildGoalCompletedForParents
    split_ifs
    · exact units_applyGoalCompletionState
    · exact (units_foldl (fun _ _ => units_logChild) _ _).trans units_applyGoalCompletionState
  · exact units_applyGoalCompletionState

/-- The Goal has the state it was set to. -/
theorem completionState_set (hgoal : s.goals.lookup goalId = some goal)
    (hparent : goal.sessionId ∉ s.parentSessionIds goal.sessionId) (hs : goal.sessionId ≠ "") :
    ∃ g, (s.setGoalCompletionState goalId goal completionState reason actor runId now
      deferGoalManager).goals.lookup goalId = some g ∧ g.completionState = completionState := by
  have happly : (s.applyGoalCompletionState goalId goal completionState reason actor runId now
      deferGoalManager).goals.lookup goalId = some { goal with
        completionState := completionState, completionReason := reason } := by
    rw [goals_applyGoalCompletionState]
    unfold modifyGoal
    rw [Dict.lookup_modify_self, hgoal]
    rfl
  unfold setGoalCompletionState
  dsimp only
  split_ifs with hst
  · have hedges := (unnoticed_apply s goalId goal completionState reason actor runId now
      deferGoalManager).edges
    refine ⟨_, (notifyParents_spec goalId _ hs).2.1 goalId _ happly ?_, rfl⟩
    rw [parentSessionIds_congr hedges]
    exact hparent
  · exact ⟨_, happly, rfl⟩

end

/-- The Goal is complete, and the Unit has a next run time that reads as a time past `now`. -/
def CompletesInTime (s' : State) (goalId : Nat) (unitId : String) (now : Int) : Prop :=
  (∃ goal, s'.goals.lookup goalId = some goal ∧ goal.completionState = .complete) ∧
    ∃ unit schedule next, s'.units.lookup unitId = some unit ∧ unit.schedule = some schedule ∧
      fromIsoformat schedule.nextRunAt.text = some next ∧ now < next

instance (session : Session) (schedule : Schedule) (now anchor : Int) :
    Decidable (TimedAt session schedule now anchor) := by unfold TimedAt; infer_instance

/-- The Session is timed. -/
def Timed (session : Session) (schedule : Schedule) (now : Int) : Prop :=
  ∃ anchor, TimedAt session schedule now anchor

section
variable {lease : Lease} {run : DispatchRun} {goal : Goal}

theorem OnSchedule.congr (h : OnSchedule s sid session unit schedule)
    (hs : s'.sessions = s.sessions) (hu : s'.units = s.units) :
    OnSchedule s' sid session unit schedule :=
  ⟨by rw [hs, h.found], h.owned, by rw [hu, h.unitFound], h.known, h.interval⟩

/-- The Goal and the next run time, as the commit's last steps find them. -/
theorem completesInTime_congr {goalId : Nat} {unitId : String} {now : Int}
    (hg : s'.goals = s.goals) (hu : s'.units = s.units) :
    CompletesInTime s' goalId unitId now ↔ CompletesInTime s goalId unitId now := by
  unfold CompletesInTime
  rw [hg, hu]

/-- A completion that is let through, with the boundary as next run time. -/
theorem applyCompletion_interval {p : State} {goalId : Nat} {rid : Nat} {anchor : Int}
    (hgoal : p.goals.lookup goalId = some goal)
    (hparent : goal.sessionId ∉ p.parentSessionIds goal.sessionId) (hs : goal.sessionId ≠ "")
    (hseconds : 1 ≤ schedule.fixedParameters.intervalSeconds)
    (ht : TimedAt session schedule env.now anchor)
    (hset : NextSet p session.unitId (.ofInstant
      (boundary env.now (seconds schedule.fixedParameters.intervalSeconds) anchor)))
    (reason : String) :
    CompletesInTime (p.applyCompletion env lease rid goalId goal sid reason) goalId session.unitId
      env.now := by
  have hfuture := (lt_floorSecond_boundary_iff hseconds).2 ht.2.2
  have hdone := @completionState_set _ _ _ .complete reason
    Role.goalManager.token env.utcNow.text (some rid) false hgoal hparent hs
  obtain ⟨unit, sched, hunit, hsched, -, hnext⟩ := hset
  have hunits : (p.applyCompletion env lease rid goalId goal sid reason).units = p.units :=
    units_setGoalCompletionState
  unfold CompletesInTime
  rw [hunits]
  refine ⟨hdone, unit, sched, _, hunit, hsched, ?_, hfuture⟩
  rw [hnext, ofInstant_text, fromIsoformat_isoformat (representable_floorSecond.2 ht.2.1.next),
    floorSecond_floorSecond]

/-- A rejected completion leaves the Goal incomplete. -/
theorem rejected_incomplete {rid : Nat} (hgoal : s.goals.lookup lease.goalId = some goal)
    (hparent : goal.sessionId ∉ s.parentSessionIds goal.sessionId) (hs : goal.sessionId ≠ "")
    (blocker : String) : ∃ g, (s.applyRejectedCompletion env lease rid lease.goalId goal
      lease.sessionId blocker).goals.lookup lease.goalId = some g ∧
        g.completionState = .incomplete := by
  unfold applyRejectedCompletion
  refine completionState_set (by rw [goals_logSystemSignal]; exact hgoal) ?_ hs
  have hedges : (s.logSystemSignal lease.sessionId "GoalCompletionRejected" blocker [.goalManager]
      "scheduler" env.utcNow.text (some rid)).sessionEdges = s.sessionEdges := sessionEdges_append
  rwa [parentSessionIds_congr hedges]

/-- What the branch of a completion does on a state with the Session on schedule: it completes
    the Goal in time, or rejects the completion, or a date overflows. -/
def CompletionDecided (x : Except Err State) (session : Session) (schedule : Schedule) (goalId : Nat)
    (now : Int) : Prop :=
  (x = .error .overflowError ∧ Overflowing session schedule now ∧ ¬Timed session schedule now) ∨
    ∃ s', x = .ok s' ∧ ¬Overflowing session schedule now ∧
      (CompletesInTime s' goalId session.unitId now ↔ Timed session schedule now)

/-- **The branch of a completion.** -/
theorem applyDecision_interval (hsched : OnSchedule s lease.sessionId session unit schedule)
    (hgoal : s.goals.lookup lease.goalId = some goal)
    (hparent : goal.sessionId ∉ s.parentSessionIds goal.sessionId) (hs : goal.sessionId ≠ "")
    {declared : Declaration} {parameters : CallParameters}
    (hcomplete : declared.decision = .complete parameters) (rid : Nat) :
    CompletionDecided (s.applyDecision env lease rid run goal session declared) session schedule lease.goalId
      env.now := by
  unfold applyDecision
  dsimp only
  simp only [hcomplete]
  generalize hread : (if s.hasLiveWorkerReadinessForGoal lease.goalId = true then s
    else s.readSessionLog lease.sessionId) = s₁
  obtain ⟨hsched₁, hgoals₁, hedges₁⟩ : OnSchedule s₁ lease.sessionId session unit schedule ∧
      s₁.goals = s.goals ∧ s₁.sessionEdges = s.sessionEdges := by
    rw [← hread]
    unfold readSessionLog
    split_ifs <;> exact ⟨hsched.congr rfl rfl, rfl, rfl⟩
  have hkept : ∀ {p : State × String}, Prepared s₁ p.1 → p.1.goals.lookup lease.goalId = some goal ∧
      goal.sessionId ∉ p.1.parentSessionIds goal.sessionId := fun hprep =>
    ⟨by rw [hprep.goals, hgoals₁, hgoal],
      by rwa [parentSessionIds_congr (hprep.edges.trans hedges₁)]⟩
  rcases @prepare_interval s₁ env lease.sessionId session unit schedule rid parameters hsched₁ with
    ⟨anchor, p, ht, hp, hprep, hpass, hset⟩ | ⟨hno, ⟨hover, hp⟩ | ⟨hover, p, hp, hprep, hblocked⟩⟩
  · rw [hp, Except.ok_bind, if_neg (by simp [hpass])]
    obtain ⟨hgoal', hparent'⟩ := hkept hprep
    refine .inr ⟨_, rfl, fun ⟨a, ha, hrange⟩ => hrange ?_, iff_of_true ?_ ⟨anchor, ht⟩⟩
    · exact Option.some.inj (ha.2.symm.trans ht.1.2) ▸ ht.2.1
    · exact applyCompletion_interval hgoal' hparent' hs hsched.interval.seconds ht hset _
  · rw [hp, Except.error_bind]
    exact .inl ⟨rfl, hover, fun ⟨anchor, h⟩ => hno anchor h⟩
  · rw [hp, Except.ok_bind, if_pos hblocked]
    obtain ⟨hgoal', hparent'⟩ := hkept hprep
    refine .inr ⟨_, rfl, hover, iff_of_false ?_ fun ⟨anchor, h⟩ => hno anchor h⟩
    rintro ⟨⟨g, hg, hst⟩, -⟩
    -- the rejection sets the Goal to incomplete
    obtain ⟨g', hg', hst'⟩ := rejected_incomplete hgoal' hparent' hs p.2
    rw [hg'] at hg
    rw [Option.some.inj hg, hst] at hst'
    cases hst'

/-- **An interval-scheduled Session completes exactly when it is timed**: the commit of a
    completion that is not fenced makes the Goal complete and sets a next run time in the
    future if and only if the Session has an anchor from which no date overflows and the next
    boundary, in whole seconds, is past the completion. It raises nothing but an
    `OverflowError`, exactly when a date overflows. -/
theorem commit_interval_iff {sys : Sys} (hr : storeSystem.Reachable sys) (hl : lease ∈ sys.leases)
    (hload : sys.store.load env = .ok s) (hrun : s.dispatchRuns.lookup lease.runId = some run)
    (hrole : lease.role = .goalManager)
    (hfence : s.staleDispatchFence lease.runId run .goalManager = none)
    {declared : Declaration} {parameters : CallParameters}
    (hdeclared : run.declaredOutcome = some declared)
    (hcomplete : declared.decision = .complete parameters)
    (hsched : OnSchedule s lease.sessionId session unit schedule) (result : AgentResult) :
    ((∃ s', s.commitLoaded env lease (.result result) = .ok s' ∧
        CompletesInTime s'.save lease.goalId session.unitId env.now) ↔
      Timed session schedule env.now) ∧
    (Overflowing session schedule env.now ∧
        s.commitLoaded env lease (.result result) = .error .overflowError ∨
      ¬Overflowing session schedule env.now ∧
        ∃ s', s.commitLoaded env lease (.result result) = .ok s') := by
  have hsafe := reachable_safe hr
  obtain ⟨hi, -, -, -⟩ := hsafe.load hload
  have hof : Lease.Of lease run := hsafe.inv.lease lease hl run (by
    rw [← (hsafe.inv.stored.load (P := fun _ => True) trivial hload).effect.runs]
    exact hrun)
  obtain ⟨goal, hgoal, -⟩ := (fence_eq_none.1 hfence).goal
  rw [← hof.goalId] at hgoal
  obtain ⟨-, hmem, -⟩ := hi.wf.goal _ _ hgoal
  have hs : goal.sessionId ≠ "" := fun h => hi.wf.blank (h ▸ hmem)
  obtain ⟨-, -, hgoals, hsessions, hunits, hedges⟩ := recordRunTurn_frame s run lease.sessionId result
  have hparent : goal.sessionId ∉
      (s.recordRunTurn run lease.sessionId result).parentSessionIds goal.sessionId := by
    rw [parentSessionIds_congr hedges]
    exact hi.wf.not_mem_parents _
  have hdecided := @applyDecision_interval _ env _ _ _ _ run _ (hsched.congr hsessions hunits)
    (by rw [hgoals]; exact hgoal) hparent hs _ _ hcomplete lease.runId
  have hcommit : s.commitLoaded env lease (.result result) =
      s.applyGoalManagerRun env lease run goal session result := by
    unfold commitLoaded
    simp only [hrun, hgoal, hsched.found, hrole, hfence]
  rw [hcommit]
  unfold applyGoalManagerRun applyOutcome
  simp only [hdeclared]
  rcases hdecided with ⟨herror, hover, hno⟩ | ⟨s₁, hok, hover, hiff⟩
  · rw [herror, Except.error_bind]
    exact ⟨iff_of_false (fun ⟨_, h, _⟩ => by cases h) hno, .inl ⟨hover, rfl⟩⟩
  · rw [hok, Except.ok_bind]
    refine ⟨?_, .inr ⟨hover, _, rfl⟩⟩
    rw [← hiff]
    have hlast : ∀ messages, CompletesInTime ((s₁.finishRun env lease lease.runId run
        .goalManager).markSessionMessagesDelivered messages).save lease.goalId session.unitId
          env.now ↔ CompletesInTime s₁ lease.goalId session.unitId env.now := fun messages => by
      obtain ⟨cursors, h⟩ := markDelivered_eq
        (s₁.finishRun env lease lease.runId run .goalManager) messages
      rw [h]
      exact completesInTime_congr rfl rfl
    rw [← hlast lease.sessionMessages]
    exact ⟨fun ⟨_, h, hc⟩ => Except.pure_eq_ok.1 h ▸ hc, fun hc => ⟨_, rfl, hc⟩⟩

end

/-! ## A Session that was started by hand -/

/-- An hourly schedule, due at second 1. -/
def hourly : Schedule :=
  { enabled := true
    nextRunAt := .ofInstant (clock 1).time
    resolver := "next_interval_boundary"
    fixedParameters := ⟨3600, ""⟩ }

/-- The Unit's Session is started by a user. -/
def startedByHand : List Action :=
  [⟨clock 1, .createUnit "u" { schedule := some hourly }⟩,
    ⟨clock 2, .startGoalSession "a" "u" ["root"] "A" "build it" "root"⟩,
    ⟨clock 3, .acquire none⟩]

/-- The Unit's Session is started by its schedule. -/
def startedOnTime : List Action :=
  [⟨clock 1, .createUnit "u" { schedule := some hourly }⟩,
    ⟨clock 2, .runScheduledUnits "root" "root" none⟩,
    ⟨clock 3, .acquire none⟩]

/-- Its GoalManager declares the Goal complete. -/
def declaresComplete (as : List Action) : List Action :=
  as ++ [⟨clock 4, .declareCompletion (newStore.nexts as).firstLease.sessionId .complete "done"
    "GoalManager" (some (newStore.nexts as).firstLease.runId) {}⟩]

/-- The state that the commit at second 5 works on, and its lease. -/
def atCommit (as : List Action) : State := loadedAfter (declaresComplete as) (clock 5)

def leaseOf (as : List Action) : Lease := (newStore.nexts as).firstLease

def turn : AgentResult := ⟨"prompt", "output", "codex", ""⟩

theorem onSchedule_of (hsession : s.sessions.lookup sid = some session) (ho : session.unitId ≠ "")
    (hunit : s.units.lookup session.unitId = some unit) (hk : unit.schedule = some schedule)
    (hi : Interval schedule) : OnSchedule s sid session unit schedule := ⟨hsession, ho, hunit, hk, hi⟩

/-- **Started by hand, the Session does not complete**: its run is not fenced and has
    declared the Goal complete, and the commit rejects it. -/
theorem commit_startedByHand :
    storeSystem.Reachable (newStore.nexts (declaresComplete startedByHand)) ∧
    leaseOf startedByHand ∈ (newStore.nexts (declaresComplete startedByHand)).leases ∧
    (newStore.nexts (declaresComplete startedByHand)).store.load (clock 5) =
      .ok (atCommit startedByHand) ∧
    ∃ run declared session unit schedule s' goal,
      (atCommit startedByHand).dispatchRuns.lookup (leaseOf startedByHand).runId = some run ∧
      (atCommit startedByHand).staleDispatchFence (leaseOf startedByHand).runId run .goalManager =
        none ∧
      run.declaredOutcome = some declared ∧ declared.decision = .complete {} ∧
      OnSchedule (atCommit startedByHand) (leaseOf startedByHand).sessionId session unit schedule ∧
      (atCommit startedByHand).commitLoaded (clock 5) (leaseOf startedByHand) (.result turn) = .ok s' ∧
      s'.goals.lookup (leaseOf startedByHand).goalId = some goal ∧
      goal.completionState = .incomplete := by
  have hfacts : ((newStore.nexts (declaresComplete startedByHand)).store.load (clock 5)).isOk ∧
      leaseOf startedByHand ∈ (newStore.nexts (declaresComplete startedByHand)).leases ∧
      (∃ run ∈ (atCommit startedByHand).dispatchRuns.lookup (leaseOf startedByHand).runId,
        (atCommit startedByHand).staleDispatchFence (leaseOf startedByHand).runId run .goalManager =
          none ∧ ∃ declared ∈ run.declaredOutcome, declared.decision = .complete {}) ∧
      (∃ session ∈ (atCommit startedByHand).sessions.lookup (leaseOf startedByHand).sessionId,
        session.unitId ≠ "" ∧ ∃ unit ∈ (atCommit startedByHand).units.lookup session.unitId,
          ∃ schedule ∈ unit.schedule, Interval schedule) ∧
      ∃ s' ∈ ((atCommit startedByHand).commitLoaded (clock 5) (leaseOf startedByHand)
          (.result turn)).toOption,
        ∃ goal ∈ s'.goals.lookup (leaseOf startedByHand).goalId,
          goal.completionState = .incomplete := by decide +kernel
  obtain ⟨hok, hlease, ⟨run, hrun, hfence, declared, hdeclared, hcomplete⟩,
    ⟨session, hsession, ho, unit, hunit, schedule, hk, hi⟩, s', hs', goal, hgoal, hst⟩ := hfacts
  refine ⟨reachable_nexts _, hlease, ok_getD hok, run, declared, session, unit, schedule, s', goal,
    hrun, hfence, hdeclared, hcomplete, onSchedule_of hsession ho hunit hk hi, ?_, hgoal, hst⟩
  cases hcommit : (atCommit startedByHand).commitLoaded (clock 5) (leaseOf startedByHand)
      (.result turn) with
  | error err => rw [hcommit] at hs'; cases hs'
  | ok t => rw [hcommit] at hs'; cases hs'; rfl

/-- Started by its schedule, it completes, and the Unit's next run is an hour later. -/
theorem commit_startedOnTime : ∃ s' unitId,
    (atCommit startedOnTime).commitLoaded (clock 5) (leaseOf startedOnTime) (.result turn) = .ok s' ∧
    CompletesInTime s'.save (leaseOf startedOnTime).goalId unitId (clock 5).now := by
  have hfacts : ((newStore.nexts (declaresComplete startedOnTime)).store.load (clock 5)).isOk ∧
      leaseOf startedOnTime ∈ (newStore.nexts (declaresComplete startedOnTime)).leases ∧
      (leaseOf startedOnTime).role = .goalManager ∧
      (∃ run ∈ (atCommit startedOnTime).dispatchRuns.lookup (leaseOf startedOnTime).runId,
        (atCommit startedOnTime).staleDispatchFence (leaseOf startedOnTime).runId run .goalManager =
          none ∧ ∃ declared ∈ run.declaredOutcome, declared.decision = .complete {}) ∧
      ∃ session ∈ (atCommit startedOnTime).sessions.lookup (leaseOf startedOnTime).sessionId,
        session.unitId ≠ "" ∧ ∃ unit ∈ (atCommit startedOnTime).units.lookup session.unitId,
          ∃ schedule ∈ unit.schedule, Interval schedule ∧
            TimedAt session schedule (clock 5).now (clock 1).now := by decide +kernel
  obtain ⟨hok, hlease, hrole, ⟨run, hrun, hfence, declared, hdeclared, hcomplete⟩,
    session, hsession, ho, unit, hunit, schedule, hk, hi, htimed⟩ := hfacts
  obtain ⟨hiff, -⟩ := commit_interval_iff (reachable_nexts _) hlease (ok_getD hok) hrun hrole
    hfence hdeclared hcomplete (onSchedule_of hsession ho hunit hk hi) turn
  obtain ⟨s', hs', hc⟩ := hiff.2 ⟨_, htimed⟩
  exact ⟨s', session.unitId, hs', hc⟩

end State
end Aize
