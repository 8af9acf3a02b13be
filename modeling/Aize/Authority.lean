/-
  Separation of duties: what the service user of a WorkerAgent run may do with that run.

  `ManagerCall` lists the runtime calls that only GoalManager may make. A declaration is
  bound to the role of the run and is always refused. The next run time of a Unit and the
  messages are not: the one looks only at the user of the run, the other only at the groups
  of the user. `workerCall_refused_iff` says exactly which calls are refused.
-/
import Aize.Staff
import Aize.Waits

namespace Aize

open State
open Except (Raises)

/-- A runtime call that only GoalManager may make. -/
inductive ManagerCall where
  | declareCompletion (sessionId : String) (completionState : CompletionState) (reason : String)
      (parameters : CallParameters)
  | declareWaiting (sessionId : String) (spec : WaitSpec) (reason : String)
  | scheduleNextUnitRun (sessionId : String) (callParameters : CallParameters)
  | message (sessionId : String) (msg : RuntimeMessage)
      (managerOnly : msg.workerRequest ∨ strip msg.recipient = userConsoleRecipient)

/-- The call, made by a user with the id of a run. -/
def ManagerCall.op (user : String) (runId : Nat) : ManagerCall → Op
  | .declareCompletion sessionId completionState reason parameters =>
    .declareCompletion sessionId completionState reason user (some runId) parameters
  | .declareWaiting sessionId spec reason => .declareWaiting sessionId spec user (some runId) reason
  | .scheduleNextUnitRun sessionId callParameters =>
    .scheduleNextUnitRun sessionId callParameters user (some runId)
  | .message sessionId msg _ =>
    .appendRuntimeMessage sessionId { msg with sender := user, runId := some runId }

/-- The operation is rejected with a `StoreError`, and changes nothing. -/
def Sys.Rejects (sys : Sys) (env : Env) (op : Op) : Prop :=
  (∃ text, op.exec env sys = .error (.storeError text)) ∧ sys.next ⟨env, op⟩ = sys

namespace State

variable {s t : State} {env : Env} {sid u : String} {rid : Nat} {r : DispatchRun}

/-! ## What is let through -/

/-- The Unit of the Session is scheduled, and its resolver makes of the call parameters a time
    in the future. -/
def SchedulesNext (s : State) (env : Env) (sid : String) (callParameters : CallParameters) : Prop :=
  ∃ session unit schedule next instant, s.sessions.lookup sid = some session ∧
    session.unitId ≠ "" ∧ s.units.lookup session.unitId = some unit ∧
    unit.schedule = some schedule ∧ schedule.enabled = true ∧
    resolveNextRunAt (if schedule.resolver = "" then "explicit" else schedule.resolver)
      schedule.fixedParameters
      (s.scheduleRuntimeParameters sid session env.utcNow callParameters true) = .ok next ∧
    next.instant = some instant ∧ env.now < instant

/-- The Unit of the Session is scheduled, and a date or an interval is out of range when its
    resolver looks for the next run time. -/
def OverflowsNext (s : State) (env : Env) (sid : String) (callParameters : CallParameters) : Prop :=
  ∃ session unit schedule, s.sessions.lookup sid = some session ∧
    session.unitId ≠ "" ∧ s.units.lookup session.unitId = some unit ∧
    unit.schedule = some schedule ∧ schedule.enabled = true ∧
    resolveNextRunAt (if schedule.resolver = "" then "explicit" else schedule.resolver)
      schedule.fixedParameters
      (s.scheduleRuntimeParameters sid session env.utcNow callParameters true) =
        .error .overflowError

/-- The sender is taken for the GoalManager: it is a token of that role, or a member of the
    group `manage` that claims it, or claims nothing and has no other slot group. -/
def SendsAsManager (s : State) (sender group : String) : Prop :=
  strip sender ≠ "" ∧ (normalizeAgentRole (strip sender) = some .goalManager ∨
    normalizeAgentRole (strip sender) = none ∧ ∃ user, s.users.lookup (strip sender) = some user ∧
      (strip group = Role.goalManager.slotGroup ∧ strip group ∈ user.groups ∨
        strip group = "" ∧ user.groups.filterMap slotRoleByGroup = [.goalManager]))

/-- The message can be delivered: a Worker request goes to the Session, a wake event has a
    name, and a message to the console has an endpoint. -/
def Deliverable (s : State) (sid : String) (msg : RuntimeMessage) : Prop :=
  sid ∈ s.sessions ∧ (msg.workerRequest → strip msg.recipient = sessionRecipient) ∧
    (msg.wakeEvent = "" ∨ strip msg.wakeEvent ≠ "") ∧
    (strip msg.recipient = userConsoleRecipient →
      strip msg.recipientEndpointId ≠ "" ∨ s.latestReplyEndpointForSession sid ≠ "")

/-- What is let through in the loaded state, although only GoalManager may do it. -/
def LetsThrough (s : State) (env : Env) (user : String) : ManagerCall → Prop
  | .declareCompletion .. => False
  | .declareWaiting .. => False
  | .scheduleNextUnitRun sid callParameters =>
    (normalizeAgentRole user = some .goalManager ∨ strip user = user) ∧
      s.SchedulesNext env sid callParameters
  | .message sid msg _ => s.SendsAsManager user msg.group ∧ s.Deliverable sid msg

/-- What gets as far as the resolver, and ends there in an `OverflowError`. -/
def Overflows (s : State) (env : Env) (user : String) : ManagerCall → Prop
  | .scheduleNextUnitRun sid callParameters =>
    (normalizeAgentRole user = some .goalManager ∨ strip user = user) ∧
      s.OverflowsNext env sid callParameters
  | _ => False

/-! ## Errors -/

/-- A `StoreError`, or what the load raises. -/
def LoadsOr (s : State) (env : Env) (e : Err) : Prop := e.IsStoreError ∨ s.load env = .error e

theorem LoadsOr.load : Raises (s.LoadsOr env) (s.load env) := fun _ => .inr

theorem LoadsOr.of : ∀ e : Err, e.IsStoreError → s.LoadsOr env e := fun _ => .inl

theorem raises_checkDeclaration (s : State) (sid actor : String) (rid : Nat)
    (notAllowed needsLease : String) :
    Raises Err.IsStoreError (s.checkDeclaration sid actor rid notAllowed needsLease) := by
  unfold checkDeclaration
  cases s.dispatchRuns.lookup rid with
  | none => exact .error (Err.isStoreError _)
  | some run =>
    refine .bind (.require fun _ => Err.isStoreError _) fun _ _ => ?_
    refine .bind (.require fun _ => Err.isStoreError _) fun _ _ => ?_
    cases s.currentGoalForSession sid with
    | none => exact .error (Err.isStoreError _)
    | some g =>
      refine .bind (.require fun _ => Err.isStoreError _) fun _ _ => ?_
      exact .bind (.require fun _ => Err.isStoreError _) fun _ _ => .ok _

theorem raises_declareCompletion (s : State) (env : Env) (sid : String)
    (completionState : CompletionState) (reason actor : String) (runId : Option Nat)
    (parameters : CallParameters) : Raises (s.LoadsOr env)
      (s.setGoalCompletionStateFromRuntime env sid completionState reason actor runId parameters) := by
  unfold setGoalCompletionStateFromRuntime
  cases runId with
  | none => exact .error (.inl (Err.isStoreError _))
  | some rid =>
    refine .bind LoadsOr.load fun t _ => Raises.mono ?_ LoadsOr.of
    refine .bind (raises_checkDeclaration _ _ _ _ _ _) fun p _ => ?_
    refine .bind (.require fun _ => Err.isStoreError _) fun _ _ => ?_
    split
    · exact .error (Err.isStoreError _)
    · exact .ok _

theorem raises_waitingSpec (s : State) (env : Env) (sid : String) (spec : WaitSpec) :
    Raises Err.IsStoreError (s.normalizeGoalWaitingSpec env sid spec) := by
  unfold normalizeGoalWaitingSpec
  dsimp only
  split_ifs
  · refine .bind (.require fun _ => Err.isStoreError _) fun _ _ => ?_
    cases spec.waitUntil.strip.instant with
    | none => exact .error (Err.isStoreError _)
    | some deadline => exact .bind (.require fun _ => Err.isStoreError _) fun _ _ => .ok _
  · exact .bind (.require fun _ => Err.isStoreError _) fun _ _ => .ok _
  · refine .bind (.require fun _ => Err.isStoreError _) fun _ _ => ?_
    exact .bind (.require fun _ => Err.isStoreError _) fun _ _ => .ok _
  · exact .error (Err.isStoreError _)

theorem raises_declareWaiting (s : State) (env : Env) (sid : String) (spec : WaitSpec)
    (actor : String) (runId : Option Nat) (reason : String) : Raises (s.LoadsOr env)
      (s.setGoalWaitingFromRuntime env sid spec actor runId reason) := by
  unfold setGoalWaitingFromRuntime
  cases runId with
  | none => exact .error (.inl (Err.isStoreError _))
  | some rid =>
    refine .bind LoadsOr.load fun t _ => Raises.mono ?_ LoadsOr.of
    refine .bind ?_ fun _ _ => .bind (raises_waitingSpec _ _ _ _) fun _ _ => .ok _
    exact .bind (raises_checkDeclaration _ _ _ _ _ _) fun _ _ => .ok _

/-- Where the next run time of a Unit ends in an `OverflowError`. -/
theorem schedule_overflow_iff {callParameters : CallParameters} {actor : String}
    {runId : Option Nat} :
    s.scheduleNextUnitRun env sid callParameters actor runId env.utcNow true =
        .error .overflowError ↔
      s.runtimeActorAllowed actor runId .goalManager ∧ s.OverflowsNext env sid callParameters := by
  unfold scheduleNextUnitRun OverflowsNext
  constructor
  · intro h
    cases hs : s.sessions.lookup sid with
    | none => rw [hs] at h; cases h
    | some session =>
      rw [hs] at h
      obtain ⟨-, ⟨⟩⟩ | ⟨hallowed, h⟩ := Except.require_bind_eq_error.1 h
      obtain ⟨-, ⟨⟩⟩ | ⟨hunit, h⟩ := Except.require_bind_eq_error.1 h
      cases hl : s.units.lookup session.unitId with
      | none => rw [hl] at h; cases h
      | some unit =>
        rw [hl] at h
        dsimp only at h
        cases hf : unit.schedule.filter Schedule.enabled with
        | none => rw [hf] at h; cases h
        | some schedule =>
          rw [hf] at h
          obtain ⟨hsched, hen⟩ := Option.filter_eq_some_iff.1 hf
          rcases Except.bind_eq_error.1 h with hres | ⟨next, hnext, h⟩
          · exact ⟨hallowed, session, unit, schedule, rfl, hunit, hl, hsched, hen, hres⟩
          -- what the resolver has made is read back, and only a `StoreError` is left
          obtain ⟨t, rfl, ht⟩ := resolveNextRunAt_ok hnext
          rw [Stamp.parseUtc_eq_ok.2 ⟨rfl, representable_floorSecond.2 ht⟩, Except.ok_bind,
            env.utcNow_parseUtc, Except.ok_bind] at h
          obtain ⟨-, ⟨⟩⟩ | ⟨-, h⟩ := Except.require_bind_eq_error.1 h
          rcases Except.bind_eq_error.1 h with h | ⟨_, -, h⟩
          · obtain ⟨text, ⟨⟩⟩ := raises_append _ _ _ _ _ _ _ h
          · cases h
  · rintro ⟨hallowed, session, unit, schedule, hs, hunit, hl, hsched, hen, hres⟩
    have hf : unit.schedule.filter Schedule.enabled = some schedule :=
      Option.filter_eq_some_iff.2 ⟨hsched, hen⟩
    simp only [hs]
    refine Except.require_bind_eq_error.2 (.inr ⟨hallowed, Except.require_bind_eq_error.2
      (.inr ⟨hunit, ?_⟩)⟩)
    simp only [hl, hf]
    exact Except.bind_eq_error.2 (.inl hres)

theorem raises_sender (s : State) (sender group : String) :
    Raises Err.IsStoreError (s.resolveRuntimeSender sender group) := by
  unfold resolveRuntimeSender
  refine .bind (.require fun _ => Err.isStoreError _) fun _ _ => ?_
  split
  · exact .ok _
  · split
    · exact .error (Err.isStoreError _)
    · dsimp only
      split_ifs
      · split
        · exact .error (Err.isStoreError _)
        · exact .bind (.require fun _ => Err.isStoreError _) fun _ _ => .ok _
      · split
        · exact .ok _
        · exact .error (Err.isStoreError _)

theorem raises_message (s : State) (env : Env) (sid : String) (msg : RuntimeMessage) :
    Raises (s.LoadsOr env) (s.appendRuntimeMessage env sid msg) := by
  unfold appendRuntimeMessage checkRuntimeRunBinding runtimeRecipient
  refine .bind LoadsOr.load fun t _ => Raises.mono ?_ LoadsOr.of
  refine .bind (.require fun _ => Err.isStoreError _) fun _ _ => ?_
  refine .bind (raises_sender _ _ _) fun p _ => .bind ?_ fun _ _ => ?_
  · split
    · exact .ok _
    · exact .require fun _ => Err.isStoreError _
  · refine .bind (.require fun _ => Err.isStoreError _) fun _ _ => ?_
    refine .bind (.require fun _ => Err.isStoreError _) fun _ _ => ?_
    refine .bind (.require fun _ => Err.isStoreError _) fun _ _ => .bind ?_ fun _ _ =>
      .bind (raises_append _ _ _ _ _ _) fun _ _ => .ok _
    dsimp only
    split_ifs <;> first | exact .ok _ | exact .error (Err.isStoreError _)

/-! ## Successes -/

theorem append_ok {fromEndpoint toEndpoint : String} {payload : Payload} {createdAt : String}
    (hs : sid ∈ s.sessions) : s.appendSessionMessage sid fromEndpoint toEndpoint payload createdAt =
      .ok (s.putSessionMessage sid fromEndpoint toEndpoint payload createdAt) := if_pos hs

/-- The user of a run passes for the GoalManager in its schedule calls. -/
theorem actorAllowed_iff (hr : s.dispatchRuns.lookup rid = some r) (hu : r.agentUser = u)
    (hne : u ≠ "") : s.runtimeActorAllowed u (some rid) .goalManager ↔
      normalizeAgentRole u = some .goalManager ∨ strip u = u := by
  unfold runtimeActorAllowed
  rw [Option.bind_some, hr, Option.any_some, hu, Bool.or_eq_true, Bool.and_eq_true]
  simp only [decide_eq_true_eq]
  exact or_congr_right ⟨fun h => h.2.symm, fun h => ⟨hne, h.symm⟩⟩

theorem schedule_ok_iff (hr : s.dispatchRuns.lookup rid = some r) (hu : r.agentUser = u)
    (hne : u ≠ "") (callParameters : CallParameters) :
    (∃ s', s.scheduleNextUnitRun env sid callParameters u (some rid) env.utcNow true = .ok s') ↔
      (normalizeAgentRole u = some .goalManager ∨ strip u = u) ∧
        s.SchedulesNext env sid callParameters := by
  rw [← actorAllowed_iff hr hu hne]
  unfold scheduleNextUnitRun SchedulesNext
  constructor
  · rintro ⟨s', h⟩
    cases hs : s.sessions.lookup sid with
    | none => rw [hs] at h; cases h
    | some session =>
      rw [hs] at h
      obtain ⟨hallowed, h⟩ := Except.require_bind_eq_ok.1 h
      obtain ⟨hunit, h⟩ := Except.require_bind_eq_ok.1 h
      cases hl : s.units.lookup session.unitId with
      | none => rw [hl] at h; cases h
      | some unit =>
        rw [hl] at h
        dsimp only at h
        cases hf : unit.schedule.filter Schedule.enabled with
        | none => rw [hf] at h; cases h
        | some schedule =>
          rw [hf] at h
          obtain ⟨next, hnext, h⟩ := Except.bind_eq_ok.1 h
          obtain ⟨instant, hinstant, h⟩ := Except.bind_eq_ok.1 h
          obtain ⟨now, hnow, h⟩ := Except.bind_eq_ok.1 h
          obtain ⟨hlt, -⟩ := Except.require_bind_eq_ok.1 h
          rw [env.utcNow_parseUtc] at hnow
          cases hnow
          obtain ⟨hsched, hen⟩ := Option.filter_eq_some_iff.1 hf
          exact ⟨hallowed, session, unit, schedule, next, instant, rfl, hunit, hl, hsched, hen,
            hnext, (Stamp.parseUtc_eq_ok.1 hinstant).1, hlt⟩
  · rintro ⟨hallowed, session, unit, schedule, next, instant, hs, hunit, hl, hsched, hen, hnext, hi,
      hlt⟩
    have hf : unit.schedule.filter Schedule.enabled = some schedule :=
      Option.filter_eq_some_iff.2 ⟨hsched, hen⟩
    have hm : sid ∈ s.sessions := Dict.mem_iff_lookup.2 ⟨session, hs⟩
    simp only [hs]
    refine Except.exists_require_bind_ok.2 ⟨hallowed, Except.exists_require_bind_ok.2 ⟨hunit, ?_⟩⟩
    simp only [hl, hf]
    refine Except.exists_bind_ok.2 ⟨next, hnext, Except.exists_bind_ok.2 ?_⟩
    obtain ⟨t, rfl, ht⟩ := resolveNextRunAt_ok hnext
    cases hi
    refine ⟨_, Stamp.parseUtc_eq_ok.2 ⟨rfl, representable_floorSecond.2 ht⟩,
      Except.exists_bind_ok.2 ⟨env.now, env.utcNow_parseUtc, ?_⟩⟩
    refine Except.exists_require_bind_ok.2 ⟨hlt, Except.exists_bind_ok.2 ⟨_, append_ok hm, _, rfl⟩⟩

theorem slotRole_iff {group : String} : slotRoleByGroup group = some .goalManager ↔
    group = Role.goalManager.slotGroup := by
  unfold slotRoleByGroup Role.all
  by_cases h : group = "manage"
  · simp [h, Role.slotGroup]
  · by_cases hw : group = "work" <;> simp [h, hw, Role.slotGroup, eq_comm]

/-- The role that the sender resolves to. -/
theorem sender_role {group : String} {role : Role} {endpoint : String}
    (h : s.resolveRuntimeSender u group = .ok (role, endpoint)) :
    role = .goalManager ↔ s.SendsAsManager u group := by
  unfold resolveRuntimeSender at h
  obtain ⟨hne, h⟩ := Except.require_bind_eq_ok.1 h
  unfold SendsAsManager
  cases hrole : normalizeAgentRole (strip u) with
  | some role' =>
    rw [hrole] at h
    cases h
    simp [hne]
  | none =>
    rw [hrole] at h
    cases huser : s.users.lookup (strip u) with
    | none => rw [huser] at h; cases h
    | some user =>
      rw [huser] at h
      dsimp only at h
      split_ifs at h with hc
      · cases hgroup : slotRoleByGroup (strip group) with
        | none => rw [hgroup] at h; cases h
        | some role' =>
          rw [hgroup] at h
          obtain ⟨hmem, h⟩ := Except.require_bind_eq_ok.1 h
          cases h
          have hiff : role = .goalManager ↔ strip group = Role.goalManager.slotGroup := by
            rw [← slotRole_iff, hgroup, Option.some.injEq]
          simp [hne, hc, hmem, hiff]
      · split at h
        · rename_i role' hgroups
          cases h
          rw [not_not] at hc
          have hno : ("" : String) ≠ Role.goalManager.slotGroup := by decide
          simp [hne, hc, hgroups, hno]
        · cases h

/-- Whoever sends as the manager is resolved. -/
theorem sender_ok {group : String} (h : s.SendsAsManager u group) :
    ∃ endpoint, s.resolveRuntimeSender u group = .ok (.goalManager, endpoint) := by
  obtain ⟨hne, hrole | ⟨hnone, user, huser, hgroup⟩⟩ := h
  · refine ⟨agentEndpoint .goalManager, ?_⟩
    unfold resolveRuntimeSender
    simp only [hrole]
    exact Except.require_bind_eq_ok.2 ⟨hne, rfl⟩
  · refine ⟨userEndpoint (strip u), ?_⟩
    unfold resolveRuntimeSender
    simp only [hnone, huser]
    refine Except.require_bind_eq_ok.2 ⟨hne, ?_⟩
    rcases hgroup with ⟨hclaim, hmem⟩ | ⟨hclaim, hgroups⟩
    · rw [if_pos (by rw [hclaim]; decide), slotRole_iff.2 hclaim]
      exact Except.require_bind_eq_ok.2 ⟨hmem, rfl⟩
    · rw [if_neg (by simp [hclaim]), hgroups]
      rfl

/-- Where a message goes. -/
theorem recipient_ok_iff {msg : RuntimeMessage} :
    (∃ endpoint, s.runtimeRecipient sid msg = .ok endpoint) ↔
      (strip msg.recipient = userConsoleRecipient →
        strip msg.recipientEndpointId ≠ "" ∨ s.latestReplyEndpointForSession sid ≠ "") := by
  unfold runtimeRecipient
  by_cases hc : strip msg.recipient = userConsoleRecipient
  · by_cases he : strip msg.recipientEndpointId = ""
    · by_cases hl : s.latestReplyEndpointForSession sid = "" <;> simp [hc, he, hl]
    · simp [hc, he]
  · simp [hc]

theorem binding_ok (hr : s.dispatchRuns.lookup rid = some r) (hu : r.agentUser = u) :
    s.checkRuntimeRunBinding u (some rid) = .ok ⟨⟩ := by
  unfold checkRuntimeRunBinding
  rw [Option.bind_some, hr]
  exact Except.require_eq_ok.2 (.inr (congrArg strip hu))

/-- The message part of `appendRuntimeMessage`, on the loaded state. -/
theorem message_ok_iff (hl : s.load env = .ok t) (hr : t.dispatchRuns.lookup rid = some r)
    (hu : r.agentUser = u) {msg : RuntimeMessage}
    (hmanager : msg.workerRequest ∨ strip msg.recipient = userConsoleRecipient) :
    (∃ s', s.appendRuntimeMessage env sid { msg with sender := u, runId := some rid } = .ok s') ↔
      t.SendsAsManager u msg.group ∧ t.Deliverable sid msg := by
  have hconsole : userConsoleRecipient ≠ sessionRecipient := by decide
  have hlatest : ∀ m : RuntimeMessage, t.runtimeRecipient sid { m with sender := u, runId := some rid } =
      t.runtimeRecipient sid m := fun _ => rfl
  unfold appendRuntimeMessage Deliverable
  rw [Except.exists_bind_ok]
  simp only [hl, Except.ok.injEq, exists_eq_left', Except.exists_require_bind_ok, hlatest]
  constructor
  · rintro ⟨hs, h⟩
    obtain ⟨⟨role, endpoint⟩, hsender, h⟩ := Except.exists_bind_ok.1 h
    obtain ⟨-, -, h⟩ := Except.exists_bind_ok.1 h
    obtain ⟨hallowed, h⟩ := Except.exists_require_bind_ok.1 h
    obtain ⟨hworker, h⟩ := Except.exists_require_bind_ok.1 h
    obtain ⟨hwake, h⟩ := Except.exists_require_bind_ok.1 h
    obtain ⟨dest, hdest, -⟩ := Except.exists_bind_ok.1 h
    have hrole : role = .goalManager := by
      rcases hmanager with hw | hc
      · rw [hw] at hworker
        simp only [Bool.not_true, Bool.false_or, Bool.and_eq_true, decide_eq_true_eq] at hworker
        exact hworker.1
      · rcases hallowed with h | h
        · exact absurd (hc.symm.trans h) hconsole
        · exact h.2
    refine ⟨(sender_role hsender).1 hrole, hs, fun hw => ?_, hwake, recipient_ok_iff.1 ⟨dest, hdest⟩⟩
    rw [hw] at hworker
    simp only [Bool.not_true, Bool.false_or, Bool.and_eq_true, decide_eq_true_eq] at hworker
    exact hworker.2
  · rintro ⟨hsends, hs, hworker, hwake, hto⟩
    obtain ⟨endpoint, hsender⟩ := sender_ok hsends
    obtain ⟨dest, hdest⟩ := recipient_ok_iff.2 hto
    have hallowed : strip msg.recipient = sessionRecipient ∨
        strip msg.recipient = userConsoleRecipient ∧ Role.goalManager = .goalManager :=
      hmanager.imp hworker fun hc => ⟨hc, rfl⟩
    have hrequest : (!msg.workerRequest ||
        decide (Role.goalManager = .goalManager) && decide (strip msg.recipient = sessionRecipient)) =
        true := by
      cases hw : msg.workerRequest with
      | false => rfl
      | true => simp [hworker hw]
    have hmem : ∀ p : Prop, [Decidable p] → sid ∈ (if p then t.readSessionLog sid else t).sessions :=
      fun p _ => by
        unfold readSessionLog
        split_ifs <;> exact hs
    refine ⟨hs, Except.exists_bind_ok.2 ⟨_, hsender, Except.exists_bind_ok.2 ⟨_, binding_ok hr hu, ?_⟩⟩⟩
    refine Except.exists_require_bind_ok.2 ⟨hallowed, Except.exists_require_bind_ok.2 ⟨hrequest, ?_⟩⟩
    refine Except.exists_require_bind_ok.2 ⟨hwake, Except.exists_bind_ok.2 ⟨dest, hdest, ?_⟩⟩
    exact Except.exists_bind_ok.2 ⟨_, append_ok (hmem _), _, rfl⟩

/-! ## Calls with a WorkerAgent run -/

theorem retains_run (hl : s.load env = .ok t) (hr : s.dispatchRuns.lookup rid = some r) :
    ∃ r', t.dispatchRuns.lookup rid = some r' ∧ r'.role = r.role ∧ r'.agentUser = r.agentUser := by
  have h := congrFun (retains_load hl).run rid
  unfold appointment at h
  rw [hr] at h
  obtain ⟨r', hr', heq⟩ := Option.map_eq_some_iff.1 h
  exact ⟨r', hr', congrArg Prod.fst heq, congrArg (fun a => a.2.1) heq⟩

theorem LoadsOr.noKeyError : ∀ e : Err, s.LoadsOr env e → e.NoKeyError := fun e h =>
  h.elim (Err.IsStoreError.noKeyError e) (raises_load s env e)

/-- Once the state is loaded, an overflow can only come from the resolver. -/
theorem LoadsOr.overflow : s.LoadsOr env .overflowError ↔ s.load env = .error .overflowError :=
  or_iff_right fun ⟨_, h⟩ => by cases h

theorem raises_call (s : State) (env : Env) (user : String) (rid : Nat) (call : ManagerCall) :
    Raises Err.NoKeyError ((call.op user rid).apply env s) := by
  cases call with
  | declareCompletion =>
    rw [ManagerCall.op, Op.apply]
    exact (raises_declareCompletion _ _ _ _ _ _ _ _).mono LoadsOr.noKeyError
  | declareWaiting =>
    rw [ManagerCall.op, Op.apply]
    exact (raises_declareWaiting _ _ _ _ _ _ _).mono LoadsOr.noKeyError
  | scheduleNextUnitRun =>
    rw [ManagerCall.op, Op.apply]
    exact .bind (raises_load _ _) fun _ _ => .bind (raises_schedule _ _ _ _ _ _ _ _) fun _ _ => .ok _
  | message =>
    rw [ManagerCall.op, Op.apply]
    exact (raises_message _ _ _ _).mono LoadsOr.noKeyError

/-- Which calls with a WorkerAgent run overflow. -/
theorem call_overflow_iff (hr : s.dispatchRuns.lookup rid = some r) (hu : r.agentUser = u)
    (hne : u ≠ "") (call : ManagerCall) :
    (call.op u rid).apply env s = .error .overflowError ↔
      s.load env = .error .overflowError ∨ ∃ t, s.load env = .ok t ∧ t.Overflows env u call := by
  have hloads : ∀ {x : Except Err State}, Raises (s.LoadsOr env) x →
      (s.load env = .error .overflowError → x = .error .overflowError) →
      (∀ t, ¬State.Overflows t env u call) → (x = .error .overflowError ↔
        s.load env = .error .overflowError ∨
          ∃ t, s.load env = .ok t ∧ t.Overflows env u call) := by
    intro x hraises hback hno
    refine ⟨fun h => .inl (LoadsOr.overflow.1 (hraises _ h)), ?_⟩
    rintro (h | ⟨t, -, ht⟩)
    · exact hback h
    · exact absurd ht (hno t)
  cases call with
  | declareCompletion =>
    rw [ManagerCall.op, Op.apply]
    exact hloads (raises_declareCompletion _ _ _ _ _ _ _ _)
      (fun h => Except.bind_eq_error.2 (.inl h)) fun _ h => h
  | declareWaiting =>
    rw [ManagerCall.op, Op.apply]
    exact hloads (raises_declareWaiting _ _ _ _ _ _ _)
      (fun h => Except.bind_eq_error.2 (.inl h)) fun _ h => h
  | message =>
    rw [ManagerCall.op, Op.apply]
    exact hloads (raises_message _ _ _ _) (fun h => Except.bind_eq_error.2 (.inl h)) fun _ h => h
  | scheduleNextUnitRun sid callParameters =>
    rw [ManagerCall.op, Op.apply, scheduleNextUnitRunFromSession, Except.bind_eq_error]
    refine or_congr_right (exists_congr fun t => and_congr_right fun hl => ?_)
    obtain ⟨r', hr', -, hu'⟩ := retains_run hl hr
    rw [Overflows, ← actorAllowed_iff hr' (hu'.trans hu) hne, ← schedule_overflow_iff,
      Except.bind_eq_error]
    refine or_iff_left ?_
    rintro ⟨_, _, ⟨⟩⟩

/-- Which calls with a WorkerAgent run succeed. -/
theorem call_ok_iff (hr : s.dispatchRuns.lookup rid = some r) (hrole : r.role = .workerAgent)
    (hu : r.agentUser = u) (hne : u ≠ "") (call : ManagerCall) :
    (∃ s', (call.op u rid).apply env s = .ok s') ↔
      ∃ t, s.load env = .ok t ∧ t.LetsThrough env u call := by
  have hload : ∀ t, s.load env = .ok t → ∃ r', t.dispatchRuns.lookup rid = some r' ∧
      r'.role = .workerAgent ∧ r'.agentUser = u := fun t hl => by
    obtain ⟨r', hr', h₁, h₂⟩ := retains_run hl hr
    exact ⟨r', hr', h₁.trans hrole, h₂.trans hu⟩
  have hdeclared : ∀ {s' sid}, ¬Declared s s' env sid rid := by
    rintro s' sid ⟨t, run, goal, -, -, -, hl, hrun, -, hmanager, -⟩
    obtain ⟨r', hr', hworker, -⟩ := hload t hl
    rw [hr'] at hrun
    cases hrun
    rw [hworker] at hmanager
    cases hmanager
  cases call with
  | declareCompletion =>
    simp only [LetsThrough, and_false, exists_false, iff_false]
    rintro ⟨s', h⟩
    rw [ManagerCall.op, Op.apply] at h
    obtain ⟨_, ⟨⟩, hd⟩ := declaredCompletion h
    exact hdeclared hd
  | declareWaiting =>
    simp only [LetsThrough, and_false, exists_false, iff_false]
    rintro ⟨s', h⟩
    rw [ManagerCall.op, Op.apply] at h
    obtain ⟨_, ⟨⟩, hd⟩ := declaredWaiting h
    exact hdeclared hd
  | scheduleNextUnitRun sid callParameters =>
    rw [ManagerCall.op, Op.apply, scheduleNextUnitRunFromSession]
    rw [Except.exists_bind_ok]
    refine exists_congr fun t => and_congr_right fun hl => ?_
    obtain ⟨r', hr', -, hu'⟩ := hload t hl
    rw [Except.exists_bind_ok, LetsThrough, ← schedule_ok_iff hr' hu' hne]
    exact exists_congr fun s' => and_iff_left ⟨_, rfl⟩
  | message sid msg hmanager =>
    rw [ManagerCall.op, Op.apply]
    cases hl : s.load env with
    | error e =>
      rw [appendRuntimeMessage, hl]
      simp
    | ok t =>
      obtain ⟨r', hr', -, hu'⟩ := hload t hl
      rw [message_ok_iff hl hr' hu' hmanager]
      simp [LetsThrough]

end State

variable {sys : Sys} {env : Env}

/-- The Worker of a Session at work: its run is the run 9 of `svc-codex`, who is a member of
    both slot groups. -/
def working : List Action := State.requested ++ [⟨clock 4, .acquire none⟩]

/-- It reports to the console of the user, which is for GoalManager. -/
def toConsole : ManagerCall :=
  .message "a" { sender := "svc-codex", recipient := "UserConsole", body := "done", group := "manage"
                 recipientEndpointId := "c1" } (.inr (by decide))

theorem working_run : ∃ r, (newStore.nexts working).store.dispatchRuns.lookup 9 = some r ∧
    r.role = .workerAgent ∧ r.agentUser = "svc-codex" := by decide +kernel

end Aize
