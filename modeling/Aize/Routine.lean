/-
  What working on Goals leaves alone: users, profiles, the Session graph, which Unit a
  Session belongs to, what a Unit is for, and who has been appointed to the runs.

  The functions that write logs, Goals, runs and readiness are all `Routine`, and so are
  the operations that are made of them (`routine_apply`, `routine_commit`,
  `routine_chosen`). What is left are the operations that create users, Units, Sessions
  and edges.
-/
import Aize.Editing
import Aize.Staff
import Aize.Normalized

namespace Aize
namespace State

/-- What a Session is in the store: its Unit, and whether it is that Unit's only one. -/
structure Post where
  unitId : String
  singleton : Bool
  deriving DecidableEq, Repr

/-- The post of a Session. -/
def post (s : State) (sid : String) : Option Post :=
  (s.sessions.lookup sid).map fun session => ⟨session.unitId, session.singleton⟩

/-- The same users, Units and Sessions; a Unit keeps what it is for. -/
structure SameTenants (s s' : State) : Prop where
  users : ∀ n, s'.users.lookup n = s.users.lookup n
  post : s'.post = s.post
  unit : ∀ id, Option.Rel UnitRecord.Kept (s.units.lookup id) (s'.units.lookup id)

/-- The same users, Units and Sessions, in the same graph. -/
structure Unmoved (s s' : State) : Prop extends SameTenants s s' where
  edges : s'.sessionEdges = s.sessionEdges

/-- Nothing has changed but Goals, logs, readiness, and how far runs and schedules are. -/
structure Routine (s s' : State) : Prop extends Unmoved s s' where
  profiles : s'.agentProfiles = s.agentProfiles
  run : s'.appointment = s.appointment

variable {s s₁ s' : State} {sid : String} {env : Env}

namespace SameTenants

theorem keeps_refl : ∀ u : Option UnitRecord, Option.Rel UnitRecord.Kept u u
  | none => .none
  | some u => .some (.refl u)

theorem refl (s : State) : SameTenants s s := ⟨fun _ => rfl, rfl, fun _ => keeps_refl _⟩

theorem trans (h₁ : SameTenants s s₁) (h₂ : SameTenants s₁ s') : SameTenants s s' where
  users n := (h₂.users n).trans (h₁.users n)
  post := h₂.post.trans h₁.post
  unit id := by
    have hu := h₁.unit id
    have hv := h₂.unit id
    generalize s.units.lookup id = u at hu
    generalize s₁.units.lookup id = v at hu hv
    generalize s'.units.lookup id = w at hv
    cases hu with
    | none => exact hv
    | some hu =>
      cases hv with
      | some hv => exact .some (hu.trans hv)

theorem of_fields (hu : s'.users = s.users) (hs : s'.sessions = s.sessions)
    (hn : s'.units = s.units) : SameTenants s s' where
  users n := by rw [hu]
  post := by unfold State.post; rw [hs]
  unit id := by rw [hn]; exact keeps_refl _

end SameTenants

namespace Unmoved

theorem refl (s : State) : Unmoved s s := ⟨.refl s, rfl⟩

theorem trans (h₁ : Unmoved s s₁) (h₂ : Unmoved s₁ s') : Unmoved s s' :=
  ⟨h₁.toSameTenants.trans h₂.toSameTenants, h₂.edges.trans h₁.edges⟩

end Unmoved

namespace Routine

theorem refl (s : State) : Routine s s := ⟨.refl s, rfl, rfl⟩

theorem trans (h₁ : Routine s s₁) (h₂ : Routine s₁ s') : Routine s s' :=
  ⟨h₁.toUnmoved.trans h₂.toUnmoved, h₂.profiles.trans h₁.profiles, h₂.run.trans h₁.run⟩

theorem of_fields (hu : s'.users = s.users) (hp : s'.agentProfiles = s.agentProfiles)
    (he : s'.sessionEdges = s.sessionEdges) (hs : s'.sessions = s.sessions)
    (hn : s'.units = s.units) (hr : s'.dispatchRuns = s.dispatchRuns) : Routine s s' where
  users n := by rw [hu]
  profiles := hp
  edges := he
  post := by unfold State.post; rw [hs]
  unit id := by rw [hn]; exact SameTenants.keeps_refl _
  run := by unfold appointment; rw [hr]

theorem foldl {α : Type} {f : State → α → State} {l : List α} (hf : ∀ s a, Routine s (f s a)) :
    Routine s (l.foldl f s) := by
  induction l generalizing s with
  | nil => exact .refl s
  | cons a l ih => exact (hf s a).trans ih

theorem modifyRun (runId : Nat) {f : DispatchRun → DispatchRun}
    (hf : ∀ r, (f r).role = r.role ∧ (f r).agentUser = r.agentUser ∧
      (f r).agentProvider = r.agentProvider) : Routine s (s.modifyRun runId f) where
  users _ := rfl
  profiles := rfl
  edges := rfl
  post := rfl
  unit _ := SameTenants.keeps_refl _
  run := by
    funext id
    unfold appointment State.modifyRun
    rw [Dict.lookup_modify]
    split_ifs with h
    · subst h
      cases s.dispatchRuns.lookup id <;> simp [hf]
    · rfl

end Routine

/-! ## Single updates -/

theorem routine_newId (s : State) : Routine s s.newId.2 := .of_fields rfl rfl rfl rfl rfl rfl

theorem routine_modifyGoal (s : State) (goalId : Nat) (f : Goal → Goal) :
    Routine s (s.modifyGoal goalId f) := .of_fields rfl rfl rfl rfl rfl rfl

theorem routine_setSession (s : State) (sid : String) {f : Session → Session}
    (hf : ∀ x, s.sessions.lookup sid = some x →
      (f x).unitId = x.unitId ∧ (f x).singleton = x.singleton) :
    Routine s (s.modifySession sid f) where
  users _ := rfl
  profiles := rfl
  edges := rfl
  unit _ := SameTenants.keeps_refl _
  run := rfl
  post := by
    funext id
    unfold State.post State.modifySession
    rw [Dict.lookup_modify]
    split_ifs with h
    · subst h
      cases hx : s.sessions.lookup id with
      | none => rfl
      | some x => simp [hf x hx]
    · rfl

theorem routine_modifySession (s : State) (sid : String) {f : Session → Session}
    (hf : ∀ x, (f x).unitId = x.unitId ∧ (f x).singleton = x.singleton) :
    Routine s (s.modifySession sid f) :=
  routine_setSession s sid fun x _ => hf x

theorem routine_modifyUnit (s : State) (unitId : String) {f : UnitRecord → UnitRecord}
    (hf : ∀ u, s.units.lookup unitId = some u → u.Kept (f u)) :
    Routine s (s.modifyUnit unitId f) where
  users _ := rfl
  profiles := rfl
  edges := rfl
  post := rfl
  run := rfl
  unit id := by
    unfold State.modifyUnit
    rw [Dict.lookup_modify]
    split_ifs with h
    · subst h
      cases hu : s.units.lookup id with
      | none => exact .none
      | some u => exact .some (hf u hu)
    · exact SameTenants.keeps_refl _

theorem routine_modifyReadiness (s : State) (p : Readiness → Bool) (f : Readiness → Readiness) :
    Routine s (s.modifyReadiness p f) := .of_fields rfl rfl rfl rfl rfl rfl

theorem routine_save (s : State) : Routine s s.save := .of_fields rfl rfl rfl rfl rfl rfl

/-! ## Logs and Goals -/

theorem routine_append (s : State) (sid : String) (body : LogBody) (createdAt : String)
    (key : Option EventKey) : Routine s (s.appendSessionLogEntry sid body createdAt key) := by
  unfold appendSessionLogEntry
  split_ifs
  · exact .refl s
  · exact .of_fields rfl rfl rfl rfl rfl rfl

theorem routine_readSessionLog (s : State) (sid : String) : Routine s (s.readSessionLog sid) := by
  unfold readSessionLog
  split_ifs
  · exact .refl s
  · exact .of_fields rfl rfl rfl rfl rfl rfl

theorem routine_signal (s : State) (sid signalType body : String) (targetRoles : List Role)
    (actor createdAt : String) (runId : Option Nat) (availableAfter : Stamp) :
    Routine s (s.logSystemSignal sid signalType body targetRoles actor createdAt runId
      availableAfter) :=
  (routine_newId s).trans (routine_append ..)

theorem routine_putMessage (s : State) (sid fromEndpoint toEndpoint : String) (payload : Payload)
    (createdAt : String) :
    Routine s (s.putSessionMessage sid fromEndpoint toEndpoint payload createdAt).1 :=
  ((routine_newId s).trans (routine_append ..)).trans (routine_modifySession _ _ fun _ => ⟨rfl, rfl⟩)

theorem routine_message {fromEndpoint toEndpoint createdAt : String} {payload : Payload}
    {r : State × Message}
    (h : s.appendSessionMessage sid fromEndpoint toEndpoint payload createdAt = .ok r) :
    Routine s r.1 := by
  unfold appendSessionMessage at h
  split_ifs at h
  cases h
  exact routine_putMessage ..

theorem routine_transition (s : State) (goalId : Nat) (sid : String) (t : Transition) :
    Routine s (s.logGoalStateTransition goalId sid t) := by
  unfold logGoalStateTransition
  split_ifs
  · exact .refl s
  · exact routine_append ..

theorem routine_applyState (s : State) (goalId : Nat) (goal : Goal)
    (completionState : CompletionState) (reason actor : String) (runId : Option Nat) (now : String)
    (deferGoalManager : Bool) : Routine s (s.applyGoalCompletionState goalId goal completionState
      reason actor runId now deferGoalManager) := by
  refine Routine.trans ?_ (routine_transition ..)
  refine Routine.trans ?_ (routine_modifySession _ _ fun _ => ⟨rfl, rfl⟩)
  cases completionState with
  | complete => exact (routine_modifyGoal ..).trans (routine_modifyReadiness ..)
  | incomplete => exact routine_modifyGoal ..

theorem routine_tellParents (s : State) (goalId : Nat) (goal : Goal) (t : Transition) :
    Routine s (s.logChildGoalCompletedForParents goalId goal t) := by
  unfold logChildGoalCompletedForParents
  split_ifs
  · exact .refl s
  · refine .foldl fun s p => ?_
    split_ifs
    · exact (routine_append ..).trans (routine_modifySession _ _ fun _ => ⟨rfl, rfl⟩)
    · exact .refl s

theorem routine_reopenParents (s : State) (goal : Goal) (t : Transition) :
    Routine s (s.reopenCompletedParentGoalsForChild goal t) := by
  unfold reopenCompletedParentGoalsForChild
  refine .foldl fun s p => ?_
  split
  · split_ifs
    · exact routine_applyState ..
    · exact .refl s
  · exact .refl s

theorem routine_setState (s : State) (goalId : Nat) (goal : Goal)
    (completionState : CompletionState) (reason actor : String) (runId : Option Nat) (now : String)
    (deferGoalManager : Bool) : Routine s (s.setGoalCompletionState goalId goal completionState
      reason actor runId now deferGoalManager) := by
  unfold setGoalCompletionState
  dsimp only
  have happly := routine_applyState s goalId goal completionState reason actor runId now
    deferGoalManager
  split_ifs
  · exact happly.trans ((routine_tellParents ..).trans (routine_reopenParents ..))
  · exact happly

theorem routine_createGoal (s : State) (sid body createdBy createdAt : String) :
    Routine s (s.createGoal sid body createdBy createdAt).1 := .of_fields rfl rfl rfl rfl rfl rfl

theorem routine_bodyUpdate (s : State) (sid : String) (goalId : Nat)
    (previousBody body actor createdAt : String) :
    Routine s (s.logGoalBodyUpdate sid goalId previousBody body actor createdAt) :=
  (routine_newId s).trans (routine_append ..)

theorem routine_reviseGoal (s : State) (env : Env) (sid body createdBy : String) :
    Routine s (s.reviseGoal env sid body createdBy) := by
  unfold reviseGoal
  cases s.currentGoalForSession sid with
  | some g =>
    refine Routine.trans ?_ (routine_setState ..)
    refine Routine.trans ?_ (routine_modifySession _ _ fun _ => ⟨rfl, rfl⟩)
    exact Routine.trans (routine_modifyGoal ..) (routine_bodyUpdate ..)
  | none =>
    refine Routine.trans ?_ (routine_setState ..)
    exact (routine_createGoal ..).trans (routine_modifySession _ _ fun _ => ⟨rfl, rfl⟩)

theorem routine_reprocess (s : State) (env : Env) (sid actor reason createdAt : String)
    (deferGoalManager : Bool) :
    Routine s (s.markSessionReprocessNeeded env sid actor reason createdAt deferGoalManager) := by
  unfold markSessionReprocessNeeded
  have hcancel : ∀ (s : State) (goalId : Nat) (goal : Goal), Routine s
      (if goal.waiting.isSome then
        (s.modifyGoal goalId fun g => { g with waiting := none }).logSystemSignal sid
          "GoalWaitingCancelled"
          s!"New UserInput cancelled the SessionGoal's bounded waiting: {reason}"
          [.goalManager] actor createdAt
      else s) := fun s goalId goal => by
    split_ifs
    · exact (routine_modifyGoal ..).trans (routine_signal ..)
    · exact .refl s
  cases s.currentGoalForSession sid with
  | some g =>
    refine Routine.trans ?_ (routine_setState ..)
    exact hcancel s g.1 g.2
  | none =>
    refine Routine.trans ?_ (routine_setState ..)
    exact (routine_createGoal ..).trans (hcancel ..)

/-! ## Readiness -/

theorem routine_interrupt (s : State) (rid : Nat) : Routine s (s.interruptRun rid) :=
  .modifyRun rid fun _ => ⟨rfl, rfl, rfl⟩

theorem Routine.of_signalled (h : Signalled s s') : Routine s s' := by
  obtain ⟨pending, n, rfl, -⟩ := h.frame
  exact .of_fields rfl rfl rfl rfl rfl rfl

theorem routine_interrupts (s : State) (l : List (Nat × DispatchRun)) :
    Routine s (l.foldl (fun s r => s.interruptRun r.1) s) :=
  .foldl fun s (r : Nat × DispatchRun) => routine_interrupt s r.1

theorem routine_repairOwnership (s : State) (env : Env) : Routine s (s.repairOwnership env) := by
  have h₁ : Routine s (s.interruptExpired env.now) := routine_interrupts s _
  exact (h₁.trans (routine_modifyReadiness ..)).trans (.of_signalled (signalled_repair s env))

theorem routine_expire (s : State) (env : Env) : Routine s (s.expireGoalWaiting env).1 := by
  have hone : ∀ (s : State) (goalId : Nat), Routine s (s.expireGoalWaitingOf env goalId) := by
    intro s goalId
    unfold expireGoalWaitingOf
    split
    · exact .refl s
    · split
      · split_ifs
        · split
          · exact (routine_modifyGoal ..).trans (routine_signal ..)
          · exact .refl s
        · exact .refl s
      · exact .refl s
  unfold expireGoalWaiting
  exact List.foldlRecOn _ _ (motive := fun r : State × Bool => Routine s r.1) (Routine.refl s)
    fun r h goalId _ => h.trans (hone r.1 goalId)

theorem routine_refresh (s : State) (env : Env) : Routine s (s.refreshDispatchReadiness env).1 := by
  rw [refresh_fst]
  have h := routine_expire s env
  generalize (s.expireGoalWaiting env).1 = t at h ⊢
  rw [rebuild_eq]
  exact h.trans (.of_fields rfl rfl rfl rfl rfl rfl)

theorem routine_reconcile (s : State) (env : Env) : Routine s (s.reconcileDispatchLiveness env).1 := by
  rw [reconcile_fst]
  have h := (routine_repairOwnership s env).trans (routine_refresh _ env)
  dsimp only
  split_ifs
  · exact h
  · exact (h.trans (.of_signalled (signalled_signalGaps ..))).trans (routine_refresh _ env)

theorem routine_chosenEntry (s : State) (env : Env) (filter : Option String) :
    Routine s (s.chosenEntry env filter).1 := by
  have h := (routine_reconcile s env).trans (routine_refresh _ env)
  unfold chosenEntry nextDispatchReadinessEntry
  dsimp only
  generalize ((s.reconcileDispatchLiveness env).1.refreshDispatchReadiness env).1 = t at h ⊢
  exact h.trans (.of_fields rfl rfl rfl rfl rfl rfl)

/-! ## Commits, declarations and recovery -/

variable {lease : Lease}

theorem routine_turn (s : State) (r : DispatchRun) (sid : String) (result : AgentResult) :
    Routine s (s.recordRunTurn r sid result) := by
  unfold recordRunTurn recordAgentTurn
  obtain ⟨threads, n, -, h⟩ := ensureAgentThread_frame s sid r.role r.agentUser r.agentProvider
  dsimp only
  rw [h]
  exact .of_fields rfl rfl rfl rfl rfl rfl

theorem routine_delivered (s : State) (messages : List Message) :
    Routine s (s.markSessionMessagesDelivered messages) := by
  unfold markSessionMessagesDelivered advanceEndpointCursor
  dsimp only
  split
  · split
    · exact .of_fields rfl rfl rfl rfl rfl rfl
    · exact .refl s
  · exact .refl s

theorem routine_release (s : State) (rid : Nat) : Routine s (s.releaseRun rid) :=
  .modifyRun rid fun _ => ⟨rfl, rfl, rfl⟩

theorem routine_finish (s : State) (env : Env) (lease : Lease) (rid : Nat) (r : DispatchRun)
    (role : Role) : Routine s (s.finishRun env lease rid r role) := by
  unfold finishRun touchSession setRoleCursor
  refine Routine.trans ?_ (routine_modifySession _ _ fun _ => ⟨rfl, rfl⟩)
  refine Routine.trans ?_ (routine_release ..)
  exact routine_modifySession _ _ fun _ => ⟨rfl, rfl⟩

/-- The next run of a Unit is a time that parses. -/
theorem routine_schedule {callParameters : CallParameters} {actor : String} {runId : Option Nat}
    {completedAt : Stamp} {provisional : Bool}
    (h : s.scheduleNextUnitRun env sid callParameters actor runId completedAt provisional = .ok s') :
    Routine s s' := by
  unfold scheduleNextUnitRun at h
  cases hs : s.sessions.lookup sid with
  | none => rw [hs] at h; cases h
  | some session =>
    rw [hs] at h
    obtain ⟨-, h⟩ := Except.require_bind_eq_ok.1 h
    obtain ⟨-, h⟩ := Except.require_bind_eq_ok.1 h
    cases hu : s.units.lookup session.unitId with
    | none => simp [hu] at h
    | some unit =>
      simp only [hu] at h
      cases hsched : unit.schedule.filter Schedule.enabled with
      | none => simp [hsched] at h
      | some schedule =>
        simp only [hsched] at h
        obtain ⟨next, hnext, h⟩ := Except.bind_eq_ok.1 h
        obtain ⟨parsed, hparsed, h⟩ := Except.bind_eq_ok.1 h
        obtain ⟨comparison, -, h⟩ := Except.bind_eq_ok.1 h
        obtain ⟨-, h⟩ := Except.require_bind_eq_ok.1 h
        obtain ⟨⟨s₂, message⟩, h₂, h⟩ := Except.bind_eq_ok.1 h
        cases h
        have hmem : unit.schedule = some schedule := (Option.filter_eq_some_iff.1 hsched).1
        refine Routine.trans ?_ (routine_message h₂)
        refine routine_modifyUnit _ _ fun u hlook => ?_
        rw [hu] at hlook
        cases hlook
        refine ⟨rfl, rfl, rfl, rfl, fun hn => ⟨?_, hn.triggers⟩⟩
        rintro x ⟨⟩
        have hx := hn.schedule schedule hmem
        exact ⟨fun _ _ => ⟨parsed, Stamp.parseUtc_strip hparsed⟩, hx.resolver⟩

theorem routine_prepare {rid : Nat} {parameters : CallParameters} {completedAt : Stamp}
    {session : Session} {p : State × String}
    (hp : s.prepareScheduledUnitCompletion env sid session rid parameters completedAt = .ok p) :
    Routine s p.1 := by
  rcases prepareScheduledUnitCompletion_state hp with h | h
  · rw [h]
    exact .refl s
  · exact routine_schedule h

theorem routine_decision {lease : Lease} {rid : Nat} {r : DispatchRun} {goal : Goal}
    {session : Session} {declared : Declaration}
    (h : s.applyDecision env lease rid r goal session declared = .ok s') : Routine s s' := by
  unfold applyDecision at h
  dsimp only at h
  generalize hs₁ : (if s.hasLiveWorkerReadinessForGoal lease.goalId = true then s
    else s.readSessionLog lease.sessionId) = s₁ at h
  have h₁ : Routine s s₁ := by
    rw [← hs₁]
    split_ifs
    · exact .refl s
    · exact routine_readSessionLog ..
  refine h₁.trans ?_
  cases hd : declared.decision with
  | waiting wait =>
    simp only [hd] at h
    rw [← Except.pure_eq_ok.1 h]
    refine Routine.trans ?_ (routine_modifyReadiness ..)
    refine Routine.trans ?_ (routine_modifyReadiness ..)
    exact (routine_modifyGoal ..).trans (routine_transition ..)
  | complete parameters =>
    simp only [hd] at h
    obtain ⟨p, hp, h⟩ := Except.bind_eq_ok.1 h
    rw [← Except.pure_eq_ok.1 h]
    refine (routine_prepare hp).trans ?_
    split_ifs
    · refine Routine.trans ?_ (routine_modifyReadiness ..)
      exact (routine_signal ..).trans (routine_setState ..)
    · refine Routine.trans ?_ (routine_modifyReadiness ..)
      exact (routine_setState ..).trans (routine_modifySession _ _ fun _ => ⟨rfl, rfl⟩)
  | incomplete =>
    simp only [hd] at h
    rw [← Except.pure_eq_ok.1 h]
    refine Routine.trans ?_ (routine_modifyReadiness ..)
    split_ifs
    · exact routine_setState ..
    · exact (routine_setState ..).trans (routine_putMessage ..)

theorem routine_outcome {r : DispatchRun} {goal : Goal} {session : Session}
    (h : s.applyOutcome env lease r goal session = .ok s') : Routine s s' := by
  unfold applyOutcome at h
  cases hd : r.declaredOutcome with
  | none =>
    simp only [hd] at h
    rw [← Except.ok.inj h]
    exact (routine_modifyReadiness ..).trans (routine_signal ..)
  | some declared =>
    simp only [hd] at h
    exact routine_decision h

theorem routine_end {r : DispatchRun} {goal : Goal} {session : Session} {agentEnd : AgentEnd}
    (h : s.applyEnd env lease r goal session agentEnd = .ok s') : Routine s s' := by
  cases agentEnd with
  | failed error =>
    rw [← Except.ok.inj h]
    refine Routine.trans ?_ (routine_delivered ..)
    refine Routine.trans ?_ (routine_finish ..)
    exact (routine_setState ..).trans (routine_modifyReadiness ..)
  | result result =>
    unfold applyEnd at h
    cases hrole : lease.role with
    | goalManager =>
      rw [hrole] at h
      obtain ⟨s₁, h₁, h⟩ := Except.bind_eq_ok.1 h
      rw [← Except.pure_eq_ok.1 h]
      refine Routine.trans ?_ (routine_delivered ..)
      refine Routine.trans ?_ (routine_finish ..)
      exact (routine_turn s r lease.sessionId result).trans (routine_outcome h₁)
    | workerAgent =>
      rw [hrole] at h
      rw [← Except.ok.inj h]
      refine Routine.trans ?_ (routine_finish ..)
      refine Routine.trans ?_ (routine_modifyReadiness ..)
      have hturn := routine_turn s r lease.sessionId result
      generalize s.recordRunTurn r lease.sessionId result = s₁ at hturn
      have hhandoff : Routine s₁ (if result.provider = "remote-aize" then
          s₁.appendRemoteHandoff env lease.runId lease.sessionId else s₁) := by
        split_ifs
        · exact routine_putMessage ..
        · exact .refl s₁
      generalize (if result.provider = "remote-aize" then
        s₁.appendRemoteHandoff env lease.runId lease.sessionId else s₁) = s₂ at hhandoff
      have hread := (hturn.trans hhandoff).trans (routine_readSessionLog s₂ lease.sessionId)
      split_ifs
      · exact hread.trans (routine_signal ..)
      · exact hread

theorem routine_discard (s : State) (env : Env) (rid : Nat) (r : DispatchRun) (role : Role)
    (reason output : String) : Routine s (s.discardStaleResult env rid r role reason output) := by
  refine Routine.trans ?_ (routine_signal ..)
  have h : Routine s (s.modifyRun rid fun run =>
      { run with staleResults := run.staleResults ++ [⟨role, reason, output⟩] }) :=
    .modifyRun rid fun _ => ⟨rfl, rfl, rfl⟩
  split_ifs
  · refine Routine.trans ?_ (routine_modifySession _ _ fun _ => ⟨rfl, rfl⟩)
    exact (h.trans (routine_release ..)).trans (routine_modifyReadiness ..)
  · exact h

theorem routine_commitLoaded {agentEnd : AgentEnd} (h : s.commitLoaded env lease agentEnd = .ok s') :
    Routine s s' := by
  rcases commitLoaded_cases h with ⟨-, rfl⟩ | ⟨r, goal, session, -, -, -, ⟨reason, -, rfl⟩ | ⟨-, h⟩⟩
  · unfold recoverMissingLeaseRun
    dsimp only
    split_ifs
    · exact (routine_modifyReadiness ..).trans (routine_signal ..)
    · exact routine_modifyReadiness ..
  · exact routine_discard ..
  · exact routine_end h

theorem routine_declare (s : State) (rid : Nat) (decision : Decision) (reason actor : String) :
    Routine s (s.declare rid decision reason actor) :=
  .modifyRun rid fun _ => ⟨rfl, rfl, rfl⟩

/-! ## Restart -/

/-- A replayed entry does not move the Session to another Unit. -/
theorem replayEntry_session (r : Replayed) (e : LogEntry) :
    (replayEntry r e).session.unitId = r.session.unitId ∧
      (replayEntry r e).session.singleton = r.session.singleton := by
  have htouch : ∀ (r : Replayed) (createdAt : String),
      (r.touch createdAt).session.unitId = r.session.unitId ∧
        (r.touch createdAt).session.singleton = r.session.singleton := by
    intro r createdAt
    unfold Replayed.touch
    split_ifs <;> exact ⟨rfl, rfl⟩
  unfold replayEntry
  split
  · exact htouch ..
  · split
    · exact ⟨rfl, rfl⟩
    · exact htouch ..
    · exact htouch ..
  · split_ifs
    · exact ⟨rfl, rfl⟩
    · exact htouch ..
    · exact htouch ..
  · exact htouch ..

theorem replay_session (es : List LogEntry) (r : Replayed) :
    (es.foldl replayEntry r).session.unitId = r.session.unitId ∧
      (es.foldl replayEntry r).session.singleton = r.session.singleton := by
  induction es generalizing r with
  | nil => exact ⟨rfl, rfl⟩
  | cons e es ih =>
    obtain ⟨h₁, h₂⟩ := ih (replayEntry r e)
    obtain ⟨h₃, h₄⟩ := replayEntry_session r e
    exact ⟨h₁.trans h₃, h₂.trans h₄⟩

theorem routine_replaySession (r : State × Bool) (sid : String) :
    Routine r.1 (replaySession r sid).1 := by
  unfold replaySession
  cases hs : r.1.sessions.lookup sid with
  | none => exact .refl _
  | some session =>
    dsimp only
    have h := routine_readSessionLog r.1 sid
    have hsame : (r.1.readSessionLog sid).sessions.lookup sid = some session := by
      unfold readSessionLog
      split_ifs <;> exact hs
    generalize r.1.readSessionLog sid = s₁ at h hsame ⊢
    obtain ⟨h₁, h₂⟩ := replay_session (s₁.log sid)
      { session := { session with roleCursors := clampCursors session.roleCursors (lastSeq (s₁.log sid)) }
        goal := (s₁.currentGoalForSession sid).map Prod.snd
        changed := r.2 ||
          clampCursors session.roleCursors (lastSeq (s₁.log sid)) ≠ session.roleCursors }
    generalize (s₁.log sid).foldl replayEntry _ = result at h₁ h₂ ⊢
    have hset : Routine s₁ (s₁.modifySession sid fun _ => result.session) :=
      routine_setSession s₁ sid fun x hx => by
        rw [hsame] at hx
        cases hx
        exact ⟨h₁, h₂⟩
    split
    · exact (h.trans hset).trans (routine_modifyGoal ..)
    · exact h.trans hset

theorem routine_replay (s : State) : Routine s s.reconcileStateFromSessionLogs.1 := by
  unfold reconcileStateFromSessionLogs
  exact List.foldlRecOn (motive := fun r : State × Bool => Routine s r.1) _ _ (.refl s)
    fun r hr sid _ => hr.trans (routine_replaySession r sid)

/-! ## Launches -/

/-- The state that a launch leaves behind, whether it succeeds or raises. -/
def leftBy (x : Except Raised (State × Started)) : State :=
  match x with
  | .ok r => r.1
  | .error raised => raised.state

/-- A launch that begins with a check. -/
theorem leftBy_check {α : Type} {P : State → Prop} {x : Except Err α}
    {f : α → Except Raised (State × Started)} (h : P s) (hf : ∀ a, x = .ok a → P (leftBy (f a))) :
    P (leftBy (check s x >>= f)) := by
  cases x with
  | error e => exact h
  | ok a => exact hf a rfl

/-- A launch that begins with links below some parents. -/
theorem leftBy_linkParents {P : State → Prop} {f : State → Except Raised (State × Started)} :
    ∀ {parents : List String} {s : State},
      (∀ p ∈ parents, ∀ s s', s.linkSessionsInState p sid = .ok s' → P s → P s') → P s →
        (∀ s₂, P s₂ → P (leftBy (f s₂))) → P (leftBy (linkParents sid parents s >>= f))
  | [], s, _, h, hf => hf s h
  | p :: parents, s, hlink, h, hf => by
    rw [linkParents]
    cases hl : s.linkSessionsInState p sid with
    | error e => exact h
    | ok s₂ =>
      exact leftBy_linkParents (fun p hp => hlink p (List.mem_cons_of_mem _ hp))
        (hlink p List.mem_cons_self s s₂ hl h) hf

theorem routine_prompt {prompt createdBy kind : String} {goalId : Nat} {nowText : Stamp}
    (h : s.sendInitialPrompt env prompt sid goalId createdBy kind nowText = .ok s') :
    Routine s s' := by
  unfold sendInitialPrompt at h
  obtain ⟨r, hr, h⟩ := Except.bind_eq_ok.1 h
  refine (routine_message hr).trans ?_
  dsimp only at h
  split at h
  · cases h
  · rw [← Except.pure_eq_ok.1 h]
    exact routine_setState ..

theorem routine_finishStartup {unit : UnitRecord} {createdBy : String} {nowText : Stamp}
    {payload : Started} (h : s.finishStartupUnit env unit createdBy nowText payload = .ok s') :
    Routine s s' := by
  unfold finishStartupUnit at h
  dsimp only at h
  split_ifs at h
  · cases h
    exact .refl s
  · exact routine_prompt h

/-- A schedule that has just been run has no next time. -/
theorem routine_markScheduledRun (s : State) (unitId sessionId : String) (nowText : Stamp) :
    Routine s (s.markScheduledRun unitId sessionId nowText) := by
  refine routine_modifyUnit _ _ fun u _ => ⟨rfl, rfl, rfl, rfl, fun hn => ⟨?_, hn.triggers⟩⟩
  intro x hx
  obtain ⟨y, hy, rfl⟩ := Option.mem_map.1 hx
  have habsent : Stamp.absent.strip.isAbsent = true := by decide
  exact ⟨fun _ ha => absurd (habsent.symm.trans ha) Bool.noConfusion, (hn.schedule y hy).resolver⟩

theorem routine_finishScheduled {unitId createdBy : String} {unit : UnitRecord} {nowText : Stamp}
    {payload : Started}
    (h : s.finishScheduledUnit env unitId unit sid createdBy nowText payload = .ok s') :
    Routine s s' := by
  unfold finishScheduledUnit at h
  obtain ⟨-, h⟩ := Except.require_bind_eq_ok.1 h
  dsimp only at h
  generalize hs : s.modifySession sid _ = s₁ at h
  have h₁ : Routine s s₁ := hs ▸ routine_modifySession _ _ fun _ => ⟨rfl, rfl⟩
  refine h₁.trans ?_
  split_ifs at h
  · rw [Except.ok_bind] at h
    rw [← Except.pure_eq_ok.1 h]
    exact routine_markScheduledRun ..
  · obtain ⟨s₂, h₂, h⟩ := Except.bind_eq_ok.1 h
    rw [← Except.pure_eq_ok.1 h]
    exact (routine_prompt h₂).trans (routine_markScheduledRun ..)

/-! ## Operations -/

/-- The outcome of a routine operation: nothing, or a load and then only routine. -/
def AfterLoad (s : State) (env : Env) (s' : State) : Prop :=
  s' = s ∨ ∃ t, s.load env = .ok t ∧ Routine t s'

theorem Routine.after {t : State} (h : Routine t s') (hl : s.load env = .ok t) :
    s.AfterLoad env s' := .inr ⟨t, hl, h⟩

theorem Routine.save {t : State} (h : Routine t s') : Routine t s'.save := h.trans (routine_save s')

/-- The new schedule of a Unit is normalized. -/
theorem after_configure {unitId resolver : String} {fixedParameters : FixedParameters}
    {nextRunAt : Option Stamp} {note : Option String} {enabled : Bool}
    (h : s.configureUnitSchedule env unitId resolver fixedParameters nextRunAt note enabled = .ok s') :
    s.AfterLoad env s' := by
  unfold configureUnitSchedule at h
  obtain ⟨t, hl, h⟩ := Except.bind_eq_ok.1 h
  refine Routine.after ?_ hl
  split at h
  · cases h
  · obtain ⟨schedule, hschedule, h⟩ := Except.bind_eq_ok.1 h
    obtain ⟨t₁, h₁, h⟩ := Except.bind_eq_ok.1 h
    obtain ⟨triggers, htriggers, h⟩ := Except.bind_eq_ok.1 h
    rw [← Except.pure_eq_ok.1 h]
    have hfirst : Routine t (t.modifyUnit unitId fun unit => { unit with schedule := schedule }) :=
      routine_modifyUnit _ _ fun u _ =>
        ⟨rfl, rfl, rfl, rfl, fun hn => ⟨normal_of_normalize hschedule, hn.triggers⟩⟩
    have hback : Routine (t.modifyUnit unitId fun unit => { unit with schedule := schedule }) t₁ := by
      unfold backfillUnitScheduleTiming at h₁
      dsimp only at h₁
      split at h₁
      · cases h₁; exact .refl _
      · split_ifs at h₁
        · cases h₁; exact .refl _
        · cases h₁; exact routine_modifySession _ _ fun _ => ⟨rfl, rfl⟩
        · obtain ⟨next, -, h₁⟩ := Except.bind_eq_ok.1 h₁
          obtain ⟨previousBoundary, -, h₁⟩ := Except.bind_eq_ok.1 h₁
          rw [← Except.pure_eq_ok.1 h₁]
          exact routine_modifySession _ _ fun _ => ⟨rfl, rfl⟩
    refine Routine.save ((hfirst.trans hback).trans ?_)
    refine routine_modifyUnit _ _ fun u _ => ⟨rfl, rfl, rfl, rfl, fun hn => ⟨hn.schedule, ?_⟩⟩
    rintro x ⟨⟩
    exact triggers_of_normalize htriggers

theorem after_userInput {sender body replyTo : String}
    (h : s.appendUserInput env sid sender body replyTo = .ok s') : s.AfterLoad env s' := by
  unfold appendUserInput at h
  obtain ⟨t, hl, h⟩ := Except.bind_eq_ok.1 h
  refine Routine.after ?_ hl
  obtain ⟨-, h⟩ := Except.require_bind_eq_ok.1 h
  obtain ⟨-, h⟩ := Except.require_bind_eq_ok.1 h
  obtain ⟨⟨t₁, message⟩, h₁, h⟩ := Except.bind_eq_ok.1 h
  have hsent := routine_message h₁
  dsimp only at h hsent
  have hmarked := hsent.trans (routine_reprocess t₁ env sid sender
    (userInputReason message.messageId) env.utcNow.text (t.activeWorkerRunForSession sid).isSome)
  split at h
  · rw [← Except.pure_eq_ok.1 h]
    exact hmarked.save
  · obtain ⟨⟨t₂, forwarded⟩, h₂, h⟩ := Except.bind_eq_ok.1 h
    rw [← Except.pure_eq_ok.1 h]
    exact (hmarked.trans (routine_message h₂)).save

theorem after_runtimeMessage {msg : RuntimeMessage}
    (h : s.appendRuntimeMessage env sid msg = .ok s') : s.AfterLoad env s' := by
  unfold appendRuntimeMessage at h
  obtain ⟨t, hl, h⟩ := Except.bind_eq_ok.1 h
  refine Routine.after ?_ hl
  obtain ⟨-, h⟩ := Except.require_bind_eq_ok.1 h
  obtain ⟨⟨role, fromEndpoint⟩, -, h⟩ := Except.bind_eq_ok.1 h
  obtain ⟨-, -, h⟩ := Except.bind_eq_ok.1 h
  obtain ⟨-, h⟩ := Except.require_bind_eq_ok.1 h
  obtain ⟨-, h⟩ := Except.require_bind_eq_ok.1 h
  obtain ⟨-, h⟩ := Except.require_bind_eq_ok.1 h
  obtain ⟨toEndpoint, -, h⟩ := Except.bind_eq_ok.1 h
  obtain ⟨⟨t₂, message⟩, h₂, h⟩ := Except.bind_eq_ok.1 h
  rw [← Except.pure_eq_ok.1 h]
  refine Routine.save (Routine.trans ?_ (routine_message h₂))
  split_ifs
  · exact routine_readSessionLog ..
  · exact .refl t

theorem after_receive {recipient : String} {sessionId : Option String} {r : State × Option Message}
    (h : s.receiveMessage env recipient sessionId = .ok r) : s.AfterLoad env r.1 := by
  unfold receiveMessage at h
  obtain ⟨t, hl, h⟩ := Except.bind_eq_ok.1 h
  obtain ⟨-, h⟩ := Except.require_bind_eq_ok.1 h
  obtain ⟨-, h⟩ := Except.require_bind_eq_ok.1 h
  dsimp only at h
  split at h
  · rw [← Except.pure_eq_ok.1 h]
    refine Routine.after (Routine.save ?_) hl
    unfold advanceEndpointCursor
    dsimp only
    split
    · exact .of_fields rfl rfl rfl rfl rfl rfl
    · exact .refl t
  · rw [← Except.pure_eq_ok.1 h]
    exact .inl rfl

theorem Declared.after {rid : Nat} (h : Declared s s' env sid rid) : s.AfterLoad env s' := by
  obtain ⟨t, run, goal, decision, reason, actor, hl, -, -, -, -, -, -, rfl⟩ := h
  exact (routine_declare ..).save.after hl

theorem after_recovery {context : String} (h : s.recordRuntimeRecoverySignals env context = .ok s') :
    s.AfterLoad env s' := by
  unfold recordRuntimeRecoverySignals at h
  obtain ⟨t, hl, h⟩ := Except.bind_eq_ok.1 h
  rw [← Except.pure_eq_ok.1 h]
  refine Routine.after (Routine.save ?_) hl
  have hlost := (routine_interrupts t
    (t.acquiredRuns.filter fun r => r.2.goalId ∉ t.activeGoals.map Prod.fst)).trans
    (routine_modifyReadiness _ (fun e => e.status = .acquired &&
      e.goalId ∉ t.activeGoals.map Prod.fst) fun e => { e with status := .stale })
  refine hlost.trans (.foldl fun s g => ?_)
  unfold recoverGoal
  dsimp only
  refine Routine.trans ?_ (routine_signal ..)
  exact (routine_interrupts ..).trans (routine_modifyReadiness ..)

theorem after_commit {agentEnd : AgentEnd} (h : s.commitRun env lease agentEnd = .ok s') :
    s.AfterLoad env s' := by
  unfold commitRun at h
  obtain ⟨t, hl, h⟩ := Except.bind_eq_ok.1 h
  obtain ⟨t', h', h⟩ := Except.bind_eq_ok.1 h
  rw [← Except.pure_eq_ok.1 h]
  exact (routine_commitLoaded h').save.after hl

end State

open State

/-- The operations that only work on Goals, logs, schedules and readiness. -/
def Op.isRoutine : Op → Bool
  | .createUser .. | .createServiceUser .. | .createUnit .. | .setUnitSpawnGroups .. => false
  | .setAgentProvider .. | .setAgentAccounts .. => false
  | .createSession .. | .startGoalSession .. | .linkSessions .. => false
  | .runScheduledUnits .. | .runStartupUnits .. | .restart => false
  | _ => true

/-- **A routine operation** does nothing after its load that is out of the routine. -/
theorem after_apply {s s' : State} {env : Env} {op : Op} (hop : op.isRoutine)
    (h : op.apply env s = .ok s') : s.AfterLoad env s' := by
  cases op with
  | createUser | createServiceUser | createUnit | setUnitSpawnGroups | setAgentProvider
  | setAgentAccounts | createSession | startGoalSession | linkSessions | runScheduledUnits
  | runStartupUnits | restart => cases hop
  | configureUnitSchedule => rw [Op.apply] at h; exact after_configure h
  | setUnitActive =>
    rw [Op.apply, setUnitActive] at h
    obtain ⟨t, hl, h⟩ := Except.bind_eq_ok.1 h
    obtain ⟨-, h⟩ := Except.require_bind_eq_ok.1 h
    obtain ⟨-, h⟩ := Except.require_bind_eq_ok.1 h
    rw [← Except.pure_eq_ok.1 h]
    refine Routine.after (Routine.save (routine_modifyUnit _ _ fun u _ => ?_)) hl
    exact ⟨rfl, rfl, rfl, rfl, fun hn => ⟨hn.schedule, hn.triggers⟩⟩
  | setSessionActive sid active =>
    rw [Op.apply, setSessionActive] at h
    obtain ⟨t, hl, h⟩ := Except.bind_eq_ok.1 h
    cases hs : t.sessions.lookup sid with
    | none => rw [hs] at h; cases h
    | some session =>
      rw [hs] at h
      rw [← Except.pure_eq_ok.1 h]
      refine Routine.after (Routine.save (Routine.trans ?_ (routine_append ..))) hl
      exact routine_modifySession _ _ fun _ => ⟨rfl, rfl⟩
  | setSessionSchedulingPolicy sid schedulingClass =>
    rw [Op.apply, setSessionSchedulingPolicy] at h
    cases hc : schedulingClassOf (lower (strip schedulingClass)) with
    | none => rw [hc] at h; cases h
    | some normalized =>
      rw [hc] at h
      obtain ⟨t, hl, h⟩ := Except.bind_eq_ok.1 h
      obtain ⟨-, h⟩ := Except.require_bind_eq_ok.1 h
      rw [← Except.pure_eq_ok.1 h]
      refine Routine.after (Routine.save ?_) hl
      exact routine_modifySession _ _ fun _ => ⟨rfl, rfl⟩
  | setDispatchLotSize =>
    rw [Op.apply, setDispatchLotSize] at h
    obtain ⟨-, h⟩ := Except.require_bind_eq_ok.1 h
    obtain ⟨t, hl, h⟩ := Except.bind_eq_ok.1 h
    rw [← Except.pure_eq_ok.1 h]
    refine Routine.after (Routine.save ?_) hl
    exact .of_fields rfl rfl rfl rfl rfl rfl
  | scheduleNextUnitRun =>
    rw [Op.apply, scheduleNextUnitRunFromSession] at h
    obtain ⟨t, hl, h⟩ := Except.bind_eq_ok.1 h
    obtain ⟨t₁, h₁, h⟩ := Except.bind_eq_ok.1 h
    rw [← Except.pure_eq_ok.1 h]
    exact (routine_schedule h₁).save.after hl
  | updateGoal =>
    rw [Op.apply, updateGoal] at h
    obtain ⟨-, h⟩ := Except.require_bind_eq_ok.1 h
    obtain ⟨t, hl, h⟩ := Except.bind_eq_ok.1 h
    obtain ⟨-, h⟩ := Except.require_bind_eq_ok.1 h
    obtain ⟨-, h⟩ := Except.require_bind_eq_ok.1 h
    rw [← Except.pure_eq_ok.1 h]
    exact (routine_reviseGoal ..).save.after hl
  | declareCompletion =>
    rw [Op.apply] at h
    obtain ⟨rid, -, hd⟩ := declaredCompletion h
    exact hd.after
  | declareWaiting =>
    rw [Op.apply] at h
    obtain ⟨rid, -, hd⟩ := declaredWaiting h
    exact hd.after
  | appendMessage =>
    rw [Op.apply, appendMessage] at h
    obtain ⟨t, hl, h⟩ := Except.bind_eq_ok.1 h
    obtain ⟨-, h⟩ := Except.require_bind_eq_ok.1 h
    obtain ⟨-, h⟩ := Except.require_bind_eq_ok.1 h
    obtain ⟨-, h⟩ := Except.require_bind_eq_ok.1 h
    obtain ⟨⟨t₁, message⟩, h₁, h⟩ := Except.bind_eq_ok.1 h
    rw [← Except.pure_eq_ok.1 h]
    exact (routine_message h₁).save.after hl
  | appendRuntimeMessage => rw [Op.apply] at h; exact after_runtimeMessage h
  | appendUserInput => rw [Op.apply] at h; exact after_userInput h
  | receiveMessage =>
    obtain ⟨r, hr, rfl⟩ := Except.map_eq_ok.1 h
    exact after_receive hr
  | recordRuntimeRecovery => rw [Op.apply] at h; exact after_recovery h
  | acquire => cases h; exact .inl rfl
  | commit => cases h; exact .inl rfl

end Aize
