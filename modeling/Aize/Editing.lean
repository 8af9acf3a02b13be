/-
  What each operation does to Goals, runs and logs.

  `Op.powers` says which waits and declarations an operation may record, and
  `next_edits` that it does no more: a Goal begins to wait only in the commit of a run
  that has declared it, and a run gets an outcome only by its declaration.
-/
import Aize.Edits

namespace Aize
namespace State

variable {run : Nat → Option DispatchRun} {p : Powers} {told : String → Prop}
  {s s' s₁ : State} {env : Env} {sid : String}

/-! ## Reconciling and acquiring -/

theorem Edits.of_signalled (h : Signalled s s') : Edits p told s s' := by
  have hlog := h.log
  obtain ⟨pending, n, rfl, -⟩ := h.frame
  refine ⟨fun _ g hg => ⟨g, hg, .refl _ _ _ g⟩, fun _ g' hg => .inl (Dict.mem_iff_lookup.2 ⟨g', hg⟩),
    fun _ r' hr => .inr (.inr ⟨r', hr, rfl⟩), fun _ h => h, fun x => ?_, rfl, .inr rfl⟩
  obtain ⟨es, hes, -⟩ := hlog x
  unfold log at hes
  rw [List.append_assoc] at hes
  exact ⟨es, (List.append_cancel_left hes).symm⟩

theorem edits_interruptRuns (l : List (Nat × DispatchRun)) :
    Edits p told s (l.foldl (fun s r => s.interruptRun r.1) s) :=
  .foldl fun _ r _ => .modifyRun r.1 fun _ _ => .inr rfl

theorem edits_repairOwnership (s : State) (env : Env) :
    Edits p told s (s.repairOwnership env) := by
  have h₁ : Edits p told s (s.interruptExpired env.now) := edits_interruptRuns _
  have h₂ : Edits p told s ((s.interruptExpired env.now).staleOrphans s.acquiredRuns) :=
    h₁.trans (.of_fields rfl rfl rfl rfl rfl)
  exact h₂.trans (.of_signalled (signalled_repair s env))

theorem edits_expireGoalWaiting (hend : ∀ goalId, p.waits goalId none) (s : State) (env : Env) :
    Edits p told s (s.expireGoalWaiting env).1 := by
  have hof : ∀ (s : State) (goalId : Nat), Edits p told s (s.expireGoalWaitingOf env goalId) := by
    intro s goalId
    unfold expireGoalWaitingOf
    split
    · exact .refl ..
    · split
      · split_ifs
        · split
          · exact edits_endWait hend goalId ..
          · exact .refl ..
        · exact .refl ..
      · exact .refl ..
  unfold expireGoalWaiting
  exact List.foldlRecOn _ _ (motive := fun r : State × Bool => Edits p told s r.1)
    (Edits.refl p told s) fun r h goalId _ => h.trans (hof r.1 goalId)

theorem edits_rebuild (s : State) (env : Env) : Edits p told s (s.rebuildReadiness env) := by
  rw [rebuild_eq]
  exact .of_fields rfl rfl rfl rfl rfl

theorem edits_refresh (hend : ∀ goalId, p.waits goalId none) (s : State) (env : Env) :
    Edits p told s (s.refreshDispatchReadiness env).1 := by
  rw [refresh_fst]
  exact (edits_expireGoalWaiting hend s env).trans (edits_rebuild _ env)

theorem edits_reconcile (hend : ∀ goalId, p.waits goalId none) (s : State) (env : Env) :
    Edits p told s (s.reconcileDispatchLiveness env).1 := by
  rw [reconcile_fst]
  have h₂ := (@edits_repairOwnership p told s env).trans (edits_refresh hend _ env)
  dsimp only
  split_ifs
  · exact h₂
  · exact (h₂.trans (.of_signalled (signalled_signalGaps ..))).trans (edits_refresh hend _ env)

theorem edits_chosenEntry (hend : ∀ goalId, p.waits goalId none) (s : State) (env : Env)
    (filter : Option String) : Edits p told s (s.chosenEntry env filter).1 := by
  have h := (@edits_reconcile _ told hend s env).trans (edits_refresh hend _ env)
  unfold chosenEntry nextDispatchReadinessEntry
  dsimp only
  generalize ((s.reconcileDispatchLiveness env).1.refreshDispatchReadiness env).1 = t at h ⊢
  exact h.trans (.of_fields rfl rfl rfl rfl rfl)

/-- A new run has declared nothing. -/
theorem edits_leaseEntry (hs : p.settles) (hw : s.Wf) (env : Env) (c : Candidate) (goal : Goal)
    (session : Session) : Edits p told s (s.leaseEntry env c goal session).1 := by
  obtain ⟨F, threads, full, rid, r, hrid, -, hr, -, -, heq⟩ := leaseEntry_spec s env c goal session
  rw [heq]
  refine ⟨fun _ g hg => ⟨g, hg, .refl _ _ _ g⟩, fun _ g' hg => .inl (Dict.mem_iff_lookup.2 ⟨g', hg⟩),
    fun x r' hx => ?_, fun _ h => (AList.mem_insert _).2 (.inr h), fun _ => List.prefix_rfl, rfl,
    .inl hs⟩
  dsimp only at hx
  rw [Dict.lookup_insert_of] at hx
  split_ifs at hx with hxr
  · cases hx
    refine .inl ⟨?_, hr.declaredOutcome⟩
    cases hold : s.dispatchRuns.lookup x with
    | none => rfl
    | some old =>
      have := (hw.run x old hold).1
      omega
  · exact .inr (.inr ⟨r', hx, rfl⟩)

/-- What a transaction makes of the stored state. -/
def EditsTo (p : Powers) (s s' : State) : Prop := ∃ t, Edits p t.Told s t ∧ s' = t.save

theorem EditsTo.refl (h : s.Stored) : EditsTo p s s := ⟨s, .refl .., h.save_eq.symm⟩

theorem EditsTo.of_repaired {P : Label → Prop} (h : Repaired P s s') : EditsTo p s s' := by
  obtain ⟨t, ht, rfl⟩ := h
  exact ⟨t, .of_repair ht, rfl⟩

/-- A transaction loads before it edits. -/
theorem Stored.editsTo (h : s.Stored) (hl : s.load env = .ok s₁) (he : Edits p s'.Told s₁ s') :
    EditsTo p s s'.save :=
  ⟨s', (Edits.of_repair (h.load (P := fun _ => True) trivial hl)).trans he, rfl⟩

theorem editsTo_acquire (h : s.Stored) (hs : p.settles) (hend : ∀ goalId, p.waits goalId none)
    {filter : Option String} {lease : Option Lease}
    (hok : s.acquireDispatchLease env filter = .ok (s', lease)) : EditsTo p s s' := by
  obtain ⟨loaded, hl, ⟨-, -, rfl | rfl⟩ | ⟨c, goal, session, -, -, rfl, -⟩⟩ := acquire_cases hok
  · exact .refl h
  · exact h.editsTo hl (edits_chosenEntry hend _ env filter)
  · have hw := (chosenEntry_spec (P := fun _ => True) h trivial hl filter).1.wf
    exact h.editsTo hl ((edits_chosenEntry hend _ env filter).trans (edits_leaseEntry hs hw ..))

/-! ## Commits -/

/-- What the commit of a lease may do: complete its Goal, or let it wait as its run has
    declared, unless the result is stale. -/
def Powers.committing (s : State) (lease : Lease) : Powers where
  settles := True
  waits goalId w := goalId = lease.goalId ∧ ∃ run wait reason declaredBy,
    s.dispatchRuns.lookup lease.runId = some run ∧
      run.declaredOutcome = some ⟨.waiting wait, reason, declaredBy⟩ ∧
        w = some { wait with reason := reason, declaredRunId := some lease.runId } ∧
          s.Unfenced lease.runId run run.role

variable {lease : Lease}

theorem edits_recordRunTurn (r : DispatchRun) (x : String) (result : AgentResult) :
    Edits p told s (s.recordRunTurn r x result) := by
  unfold recordRunTurn recordAgentTurn
  obtain ⟨threads, n, -, h⟩ := ensureAgentThread_frame s x r.role r.agentUser r.agentProvider
  dsimp only
  rw [h]
  exact .of_fields rfl rfl rfl rfl rfl

theorem edits_markDelivered (messages : List Message) :
    Edits p told s (s.markSessionMessagesDelivered messages) := by
  obtain ⟨cursors, h⟩ := markDelivered_eq s messages
  rw [h]
  exact .of_fields rfl rfl rfl rfl rfl

theorem edits_releaseRun (rid : Nat) : Edits p told s (s.releaseRun rid) :=
  .modifyRun rid fun _ _ => .inr rfl

theorem edits_finishRun (rid : Nat) (r : DispatchRun) (role : Role) :
    Edits p told s (s.finishRun env lease rid r role) := by
  have h₁ : Edits p told s (s.setRoleCursor lease.sessionId role r.observedToSeq) :=
    .of_fields rfl rfl rfl rfl rfl
  exact (h₁.trans (edits_releaseRun rid)).trans (.of_fields rfl rfl rfl rfl rfl)

theorem edits_prepare {session : Session} {rid : Nat} {parameters : CallParameters}
    {completedAt : Stamp} {x : State × String}
    (hx : s.prepareScheduledUnitCompletion env sid session rid parameters completedAt = .ok x) :
    Edits p told s x.1 := by
  rcases prepareScheduledUnitCompletion_state hx with h | hn
  · rw [h]
    exact .refl ..
  · generalize x.1 = s' at hn ⊢
    obtain ⟨units, payload, fromEndpoint, toEndpoint, -, -, rfl⟩ := scheduleNextUnitRun_eq hn
    have h₁ : Edits p told s { s with units := units } := .of_fields rfl rfl rfl rfl rfl
    exact h₁.trans (edits_putSessionMessage ..)

/-- What a declared outcome lets a commit do. -/
theorem edits_applyDecision (hs : p.settles) {declared : Declaration}
    (hw : ∀ wait, declared.decision = .waiting wait → p.waits lease.goalId
      (some { wait with reason := declared.reason, declaredRunId := some lease.runId }))
    {r : DispatchRun} {goal : Goal} {session : Session}
    (h : s.applyDecision env lease lease.runId r goal session declared = .ok s') :
    Edits p told s s' := by
  unfold applyDecision at h
  dsimp only at h
  generalize hs₁ : (if s.hasLiveWorkerReadinessForGoal lease.goalId = true then s
    else s.readSessionLog lease.sessionId) = s₁ at h
  have h₁ : Edits p told s s₁ := by
    rw [← hs₁]
    split_ifs
    · exact .refl ..
    · exact .readSessionLog hs
  generalize (s.hasLiveWorkerReadinessForGoal lease.goalId ||
    s.hasWorkerRequestForRun lease.sessionId lease.runId) = requested at h
  refine h₁.trans ?_
  cases hd : declared.decision with
  | waiting wait =>
    simp only [hd] at h
    rw [← Except.pure_eq_ok.1 h]
    have h₂ : Edits p told s₁ (s₁.modifyGoal lease.goalId fun g => { g with
        waiting := some { wait with reason := declared.reason, declaredRunId := some lease.runId } }) :=
      .modifyGoal lease.goalId fun g _ => ⟨rfl, .inr (hw wait hd), .inr id, .inl rfl⟩
    exact (h₂.trans (edits_logGoalStateTransition ..)).trans (.of_fields rfl rfl rfl rfl rfl)
  | complete parameters =>
    simp only [hd] at h
    obtain ⟨⟨s₂, blocker⟩, hprepared, h⟩ := Except.bind_eq_ok.1 h
    rw [← Except.pure_eq_ok.1 h]
    refine (edits_prepare hprepared).trans ?_
    split_ifs
    · have h₃ : Edits p told s₂ (s₂.logSystemSignal lease.sessionId "GoalCompletionRejected" blocker
          [.goalManager] "scheduler" env.utcNow.text (some lease.runId)) := edits_logSystemSignal ..
      exact (h₃.trans (edits_setGoalCompletionState _ goal (by simp) ..)).trans
        (.of_fields rfl rfl rfl rfl rfl)
    · have h₃ : Edits p told s₂ (s₂.setGoalCompletionState lease.goalId goal .complete declared.reason
          Role.goalManager.token (some lease.runId) env.utcNow.text) :=
        edits_setGoalCompletionState _ goal (fun _ => hs) ..
      exact h₃.trans (.of_fields rfl rfl rfl rfl rfl)
  | incomplete =>
    simp only [hd] at h
    rw [← Except.pure_eq_ok.1 h]
    have h₂ : Edits p told s₁ (s₁.setGoalCompletionState lease.goalId goal .incomplete declared.reason
        Role.goalManager.token (some lease.runId) env.utcNow.text) :=
      edits_setGoalCompletionState _ goal (by simp) ..
    refine h₂.trans ?_
    unfold applyIncomplete
    dsimp only
    split_ifs
    · exact .of_fields rfl rfl rfl rfl rfl
    · exact Edits.trans (edits_putSessionMessage ..) (.of_fields rfl rfl rfl rfl rfl)

theorem edits_applyGoalManagerRun (hs : p.settles) {r : DispatchRun}
    (hw : ∀ wait reason declaredBy, r.declaredOutcome = some ⟨.waiting wait, reason, declaredBy⟩ →
      p.waits lease.goalId
        (some { wait with reason := reason, declaredRunId := some lease.runId }))
    {goal : Goal} {session : Session} {result : AgentResult}
    (h : s.applyGoalManagerRun env lease r goal session result = .ok s') : Edits p told s s' := by
  have h₁ : Edits p told s (s.recordRunTurn r lease.sessionId result) := edits_recordRunTurn ..
  unfold applyGoalManagerRun at h
  generalize s.recordRunTurn r lease.sessionId result = s₁ at h₁ h
  obtain ⟨s₂, h₂, h⟩ := Except.bind_eq_ok.1 h
  rw [← Except.pure_eq_ok.1 h]
  unfold applyOutcome at h₂
  have finish : ∀ {s₂ : State}, Edits p told s₁ s₂ → Edits p told s
      ((s₂.finishRun env lease lease.runId r .goalManager).markSessionMessagesDelivered
        lease.sessionMessages) := fun h₂ =>
    ((h₁.trans h₂).trans (edits_finishRun ..)).trans (edits_markDelivered _)
  cases hd : r.declaredOutcome with
  | none =>
    simp only [hd] at h₂
    rw [← Except.ok.inj h₂]
    have h₃ : Edits p told s₁ (s₁.setReadinessStatus lease.readinessId .resolved) :=
      .of_fields rfl rfl rfl rfl rfl
    exact finish (h₃.trans (edits_logSystemSignal ..))
  | some declared =>
    simp only [hd] at h₂
    refine finish (edits_applyDecision hs (fun wait hwait => hw wait _ declared.declaredBy ?_) h₂)
    rw [hd, ← hwait]

theorem edits_applyWorkerRun (hs : p.settles) (r : DispatchRun) (result : AgentResult) :
    Edits p told s (s.applyWorkerRun env lease r result) := by
  have h₁ : Edits p told s (s.recordRunTurn r lease.sessionId result) := edits_recordRunTurn ..
  unfold applyWorkerRun
  dsimp only
  generalize s.recordRunTurn r lease.sessionId result = s₁ at h₁
  generalize hs₂ : (if result.provider = "remote-aize" then
    s₁.appendRemoteHandoff env lease.runId lease.sessionId else s₁) = s₂
  have h₂ : Edits p told s₁ s₂ := by
    rw [← hs₂]
    split_ifs
    · exact edits_putSessionMessage ..
    · exact .refl ..
  have h₃ : Edits p told s₂ (s₂.readSessionLog lease.sessionId) := .readSessionLog hs
  generalize s₂.readSessionLog lease.sessionId = s₃ at h₃
  have finish : ∀ {s₄ : State}, Edits p told s₃ s₄ → Edits p told s
      ((s₄.setReadinessStatus lease.readinessId .resolved).finishRun env lease lease.runId r
        .workerAgent) := by
    intro s₄ h₄
    have h₅ : Edits p told s₄ (s₄.setReadinessStatus lease.readinessId .resolved) :=
      .of_fields rfl rfl rfl rfl rfl
    exact ((((h₁.trans h₂).trans h₃).trans h₄).trans h₅).trans (edits_finishRun ..)
  split_ifs
  · exact finish (edits_logSystemSignal ..)
  · exact finish (.refl ..)

theorem edits_applyDispatchError (r : DispatchRun) (goal : Goal) (error : String) :
    Edits p told s (s.applyDispatchError env lease r goal error) := by
  have h₁ : Edits p told s (s.setGoalCompletionState lease.goalId goal .incomplete
      s!"Dispatch failed: {error}" "dispatcher" (some lease.runId) env.utcNow.text) :=
    edits_setGoalCompletionState _ goal (by simp) ..
  unfold applyDispatchError
  dsimp only
  generalize s.setGoalCompletionState lease.goalId goal .incomplete s!"Dispatch failed: {error}"
    "dispatcher" (some lease.runId) env.utcNow.text = s₁ at h₁
  have h₂ : Edits p told s₁ (s₁.setReadinessStatus lease.readinessId .failed) :=
    .of_fields rfl rfl rfl rfl rfl
  exact ((h₁.trans h₂).trans (edits_finishRun lease.runId r r.role)).trans (edits_markDelivered _)

theorem edits_applyEnd (hs : p.settles) {r : DispatchRun}
    (hw : ∀ wait reason declaredBy, r.declaredOutcome = some ⟨.waiting wait, reason, declaredBy⟩ →
      p.waits lease.goalId
        (some { wait with reason := reason, declaredRunId := some lease.runId }))
    {goal : Goal} {session : Session} {agentEnd : AgentEnd}
    (h : s.applyEnd env lease r goal session agentEnd = .ok s') : Edits p told s s' := by
  cases agentEnd with
  | failed error =>
    rw [← Except.ok.inj h]
    exact edits_applyDispatchError r goal error
  | result result =>
    unfold applyEnd at h
    cases hrole : lease.role with
    | goalManager =>
      rw [hrole] at h
      exact edits_applyGoalManagerRun hs hw h
    | workerAgent =>
      rw [hrole] at h
      rw [← Except.ok.inj h]
      exact edits_applyWorkerRun hs r result

theorem edits_discardStale (rid : Nat) (r : DispatchRun) (role : Role) (reason output : String) :
    Edits p told s (s.discardStaleResult env rid r role reason output) := by
  unfold discardStaleResult
  dsimp only
  have h₁ : Edits p told s (s.modifyRun rid fun run =>
      { run with staleResults := run.staleResults ++ [⟨role, reason, output⟩] }) :=
    .modifyRun rid fun _ _ => .inr rfl
  generalize (s.modifyRun rid fun run =>
    { run with staleResults := run.staleResults ++ [⟨role, reason, output⟩] }) = s₁ at h₁
  refine Edits.trans ?_ (edits_logSystemSignal ..)
  split_ifs
  · exact (h₁.trans (edits_releaseRun rid)).trans (.of_fields rfl rfl rfl rfl rfl)
  · exact h₁

theorem edits_recoverMissing : Edits p told s (s.recoverMissingLeaseRun env lease) := by
  unfold recoverMissingLeaseRun
  dsimp only
  have h₁ : Edits p told s (s.modifyReadiness (fun e => e.readinessId = lease.readinessId &&
      e.status = .acquired) fun e => { e with status := .ready }) := .of_fields rfl rfl rfl rfl rfl
  split_ifs
  · exact h₁.trans (edits_logSystemSignal ..)
  · exact h₁

theorem Unfenced.congr {rid : Nat} {r : DispatchRun} {role : Role} (h : s.Unfenced rid r role)
    (hg : s.goals = s'.goals) (hl : s.log = s'.log) : s'.Unfenced rid r role :=
  ⟨h.role, h.acquired, hg ▸ h.goal, hl ▸ h.log⟩

theorem editsTo_commit (h : s.Stored) {agentEnd : AgentEnd}
    (hok : s.commitRun env lease agentEnd = .ok s') : EditsTo (.committing s lease) s s' := by
  unfold commitRun at hok
  obtain ⟨s₁, hl, hok⟩ := Except.bind_eq_ok.1 hok
  obtain ⟨s₂, h₂, hok⟩ := Except.bind_eq_ok.1 hok
  rw [← Except.pure_eq_ok.1 hok]
  refine h.editsTo hl ?_
  rcases commitLoaded_cases h₂ with ⟨-, rfl⟩ | ⟨r, goal, session, hr, -, -, ⟨reason, -, rfl⟩ | ⟨hfence, happly⟩⟩
  · exact edits_recoverMissing
  · exact edits_discardStale ..
  · refine edits_applyEnd trivial (fun wait reason declaredBy hd => ?_) happly
    have hrep := h.load (P := fun _ => True) trivial hl
    rw [hrep.effect.runs] at hr
    have hun := (fence_eq_none.1 hfence).congr hrep.goals (log_congr hrep.persisted hrep.pending)
    exact ⟨rfl, r, wait, reason, declaredBy, hr, hd, rfl, hun.role.symm ▸ hun⟩

/-! ## Declarations, recovery and restart -/

/-- The run that a declaration may name: a GoalManager run that holds its lease and has
    declared nothing yet. -/
structure Declares (s : State) (sid : String) (rid : Nat) (run : DispatchRun) : Prop where
  lookup : s.dispatchRuns.lookup rid = some run
  sessionId : run.sessionId = sid
  role : run.role = .goalManager
  acquired : run.leaseState = .acquired
  undeclared : run.declaredOutcome = none

/-- The outcome that a declaration of completion may record. -/
def Powers.declaring (s : State) (sid : String) (runId : Option Nat) : Powers where
  declares rid d := runId = some rid ∧ (∃ run, s.Declares sid rid run) ∧
    ∀ wait reason declaredBy, d ≠ some ⟨.waiting wait, reason, declaredBy⟩

/-- The outcome that a declaration of a wait may record: the wait as it was accepted. -/
def Powers.declaringWait (s : State) (env : Env) (sid : String) (spec : WaitSpec)
    (runId : Option Nat) : Powers where
  declares rid d := runId = some rid ∧ (∃ run, s.Declares sid rid run) ∧
    ∃ loaded wait reason declaredBy, s.load env = .ok loaded ∧
      loaded.normalizeGoalWaitingSpec env sid spec = .ok wait ∧
        d = some ⟨.waiting wait, reason, declaredBy⟩

theorem edits_declare (rid : Nat) (decision : Decision) (reason actor : String)
    (hd : ∀ declaredBy, p.declares rid (some ⟨decision, reason, declaredBy⟩)) :
    Edits p told s (s.declare rid decision reason actor) := by
  unfold declare
  exact .modifyRun rid fun _ _ => .inl (hd _)

theorem Stored.declares (h : s.Stored) (hl : s.load env = .ok s₁) {rid : Nat}
    {actor notAllowed needsLease : String} {run : DispatchRun} {goal : Goal}
    (hck : s₁.checkDeclaration sid actor rid notAllowed needsLease = .ok (run, goal)) :
    s.Declares sid rid run := by
  obtain ⟨hr, hsid, hrole, hacq, -, hnone⟩ := checkDeclaration_spec hck
  rw [(h.load (P := fun _ => True) trivial hl).effect.runs] at hr
  exact ⟨hr, hsid, hrole, hacq, hnone⟩

theorem editsTo_declareCompletion (h : s.Stored) {completionState : CompletionState}
    {reason actor : String} {runId : Option Nat} {parameters : CallParameters}
    (hok : s.setGoalCompletionStateFromRuntime env sid completionState reason actor runId parameters =
      .ok s') : EditsTo (.declaring s sid runId) s s' := by
  unfold setGoalCompletionStateFromRuntime at hok
  cases runId with
  | none => cases hok
  | some rid =>
    obtain ⟨loaded, hl, hok⟩ := Except.bind_eq_ok.1 hok
    obtain ⟨⟨run, goal⟩, hck, hok⟩ := Except.bind_eq_ok.1 hok
    obtain ⟨-, hok⟩ := Except.require_bind_eq_ok.1 hok
    split at hok
    · cases hok
    · rw [← Except.pure_eq_ok.1 hok]
      refine h.editsTo hl (edits_declare rid _ _ actor fun declaredBy =>
        ⟨rfl, ⟨run, h.declares hl hck⟩, fun wait _ _ => ?_⟩)
      cases completionState <;> simp

theorem editsTo_declareWaiting (h : s.Stored) {spec : WaitSpec} {actor reason : String}
    {runId : Option Nat}
    (hok : s.setGoalWaitingFromRuntime env sid spec actor runId reason = .ok s') :
    EditsTo (.declaringWait s env sid spec runId) s s' := by
  unfold setGoalWaitingFromRuntime at hok
  cases runId with
  | none => cases hok
  | some rid =>
    obtain ⟨loaded, hl, hok⟩ := Except.bind_eq_ok.1 hok
    obtain ⟨⟨⟩, hck, hok⟩ := Except.bind_eq_ok.1 hok
    obtain ⟨wait, hwait, hok⟩ := Except.bind_eq_ok.1 hok
    obtain ⟨⟨run, goal⟩, hck, -⟩ := Except.map_eq_ok.1 hck
    rw [← Except.pure_eq_ok.1 hok]
    exact h.editsTo hl (edits_declare rid _ _ actor fun declaredBy =>
      ⟨rfl, ⟨run, h.declares hl hck⟩, loaded, wait, _, declaredBy, hl, hwait, rfl⟩)

theorem editsTo_recovery (h : s.Stored) {context : String}
    (hok : s.recordRuntimeRecoverySignals env context = .ok s') : EditsTo p s s' := by
  unfold recordRuntimeRecoverySignals at hok
  obtain ⟨loaded, hl, hok⟩ := Except.bind_eq_ok.1 hok
  rw [← Except.pure_eq_ok.1 hok]
  refine h.editsTo hl ?_
  generalize Told _ = told
  have h₁ := @edits_interruptRuns p told loaded
    (loaded.acquiredRuns.filter fun r => r.2.goalId ∉ loaded.activeGoals.map Prod.fst)
  generalize (loaded.acquiredRuns.filter fun r => r.2.goalId ∉ loaded.activeGoals.map Prod.fst).foldl
    (fun s r => s.interruptRun r.1) loaded = s₁ at h₁
  have h₂ : Edits p told loaded (s₁.modifyReadiness
      (fun e => e.status = .acquired && e.goalId ∉ loaded.activeGoals.map Prod.fst)
      fun e => { e with status := .stale }) := h₁.trans (.of_fields rfl rfl rfl rfl rfl)
  refine h₂.trans (.foldl fun t g _ => ?_)
  unfold recoverGoal
  dsimp only
  generalize t.acquiredRuns.filter _ = held
  have h₃ : Edits p told t (held.foldl (fun s r => s.interruptRun r.1) t) := edits_interruptRuns held
  refine Edits.trans ?_ (edits_logSystemSignal ..)
  exact h₃.trans (.of_fields rfl rfl rfl rfl rfl)

theorem edits_replaySession (hw : s.Wf) (hs : p.settles) (changed : Bool) (sid : String) :
    Edits p told s (replaySession (s, changed) sid).1 := by
  unfold replaySession
  dsimp only
  cases hsession : s.sessions.lookup sid with
  | none => exact .refl ..
  | some session =>
    dsimp only
    have h₁ : Edits p told s (s.readSessionLog sid) := .readSessionLog hs
    have hw₁ := ((moves_readSessionLog (P := fun _ => True) hw trivial sid).1).wf
    generalize s.readSessionLog sid = s₁ at h₁ hw₁
    have hgoal := (replayEntries_spec (s₁.log sid)
      { session := { session with
          roleCursors := clampCursors session.roleCursors (lastSeq (s₁.log sid)) }
        goal := (s₁.currentGoalForSession sid).map Prod.snd
        changed := changed || clampCursors session.roleCursors (lastSeq (s₁.log sid)) ≠
          session.roleCursors }).2.2
    generalize (s₁.log sid).foldl replayEntry _ = result at hgoal
    have h₂ := h₁.modifySession sid fun _ => result.session
    cases hc : s₁.currentGoalForSession sid with
    | none =>
      have hc' : (s₁.modifySession sid fun _ => result.session).currentGoalForSession sid = none := hc
      rw [hc']
      exact h₂
    | some c =>
      obtain ⟨goalId, goal⟩ := c
      have hc' : (s₁.modifySession sid fun _ => result.session).currentGoalForSession sid =
        some (goalId, goal) := hc
      rw [hc] at hgoal
      rw [hc', hgoal]
      refine h₂.trans (.modifyGoal goalId fun g hg => ?_)
      have hsame : g = goal := by
        have hgl := (hw₁.currentGoal.1 hc).1
        exact Option.some.inj (hg.symm.trans hgl)
      subst hsame
      exact ⟨rfl, .inl rfl, .inl hs, .inl rfl⟩

theorem editsTo_restart (h : s.Stored) (hs : p.settles) (hend : ∀ goalId, p.waits goalId none)
    {memory : State} (hok : s.initExisting env = .ok (memory, s')) : EditsTo p s s' := by
  obtain ⟨loaded, ensured, hl, he, rfl | rfl⟩ := initExisting_cases hok
  · have h₀ := (h.load (P := fun _ => True) trivial hl).effect.moves trivial
    have h₁ := h₀.trans ((repair_ensureDefaults (P := fun _ => True) (h₀.intact h.good) trivial
      he).effect.moves trivial)
    have hreplay : ∀ {told : String → Prop},
        Edits p told ensured ensured.reconcileStateFromSessionLogs.1 := by
      intro told
      unfold reconcileStateFromSessionLogs
      refine (List.foldlRecOn (motive := fun r : State × Bool => Moves (fun _ => True) s r.1 ∧
        Edits p told ensured r.1) _ _ ⟨h₁, .refl ..⟩ fun r hr sid _ => ?_).2
      exact ⟨hr.1.trans (moves_replaySession (hr.1.intact h.good) trivial trivial r.2 sid),
        hr.2.trans (edits_replaySession hr.1.wf hs r.2 sid)⟩
    have hensure : ∀ {told : String → Prop}, Edits p told loaded ensured := fun {told} =>
      .of_repair (repair_ensureDefaults (P := fun _ => True) (h₀.intact h.good) trivial he)
    exact h.editsTo hl ((hensure.trans hreplay).trans (edits_refresh hend _ env))
  · exact .refl h

/-! ## Every operation -/

theorem editsTo_setActive (h : s.Stored) {active : Bool}
    (hok : s.setSessionActive env sid active = .ok s') : EditsTo p s s' := by
  unfold setSessionActive at hok
  obtain ⟨s₁, hl, hok⟩ := Except.bind_eq_ok.1 hok
  cases hs : s₁.sessions.lookup sid with
  | none => simp [hs] at hok
  | some session =>
    simp only [hs] at hok
    rw [← Except.pure_eq_ok.1 hok]
    exact h.editsTo hl (Edits.modifySession (.refl ..) sid _ |>.trans (.append ..))

theorem Launch.editsTo (h : s.Stored) (hl : s.load env = .ok s₁) (he : Launch s₁ s') :
    EditsTo p s s'.save :=
  h.editsTo hl (he.edits.mono (.bot p) fun _ => id)

/-- The state that an operation works on. -/
theorem Stored.loaded (h : s.Stored) (hl : s.load env = .ok s₁) :
    Fresh s.dispatchRuns.lookup s₁ ∧ s₁.fullIds = [] := by
  have hr := h.load (P := fun _ => True) trivial hl
  exact ⟨⟨hr.effect.good h.good, fun sid => by rw [hr.cachedLog]; exact h.cachedLog sid⟩,
    hr.fullIds.trans h.fullIds⟩

/-- The operations that bring new requirements, user input apart, launch. -/
theorem launch_startGoalSession (h : s.Stored) {unitId : String} {parents : List String}
    {label body createdBy : String}
    (hok : s.startGoalSession env sid unitId parents label body createdBy = .ok s') :
    ∃ loaded t, s.load env = .ok loaded ∧ Launch loaded t ∧ s' = t.save := by
  unfold startGoalSession at hok
  obtain ⟨-, hok⟩ := Except.require_bind_eq_ok.1 hok
  obtain ⟨s₁, hl, hok⟩ := Except.bind_eq_ok.1 hok
  obtain ⟨-, hok⟩ := Except.require_bind_eq_ok.1 hok
  obtain ⟨hf, hfull⟩ := h.loaded hl
  cases hst : s₁.startGoalSessionInState env sid unitId parents label body createdBy env.utcNow.text
    .manual with
  | error raised => simp [hst] at hok
  | ok r =>
    obtain ⟨s₂, started⟩ := r
    simp only [hst, Except.ok.injEq] at hok
    exact ⟨s₁, s₂, hl, (launch_start hf.good hfull env parents label body createdBy _ _).1 s₂ started
      hst, hok.symm⟩

theorem launch_scheduled (h : s.Stored) {parent createdBy : String} {now : Option Stamp}
    {results : List UnitResult}
    (hok : s.runScheduledUnits env parent createdBy now = .ok (s', results)) :
    ∃ loaded t, s.load env = .ok loaded ∧ Launch loaded t ∧ s' = t.save := by
  unfold runScheduledUnits at hok
  obtain ⟨s₁, hl, hok⟩ := Except.bind_eq_ok.1 hok
  obtain ⟨-, -, hok⟩ := Except.bind_eq_ok.1 hok
  obtain ⟨nowDt, -, hok⟩ := Except.bind_eq_ok.1 hok
  obtain ⟨⟨s₂, results₂⟩, h₂, hok⟩ := Except.bind_eq_ok.1 hok
  rw [Except.pure_eq_ok, Prod.mk.injEq] at hok
  obtain ⟨hf, hfull⟩ := h.loaded hl
  exact ⟨s₁, s₂, hl, launch_batch hf.good hfull (calm_of_nil hf.cached) h₂, hok.1.symm⟩

theorem launch_startup (h : s.Stored) {parent createdBy : String} {now : Option Stamp}
    {results : List UnitResult}
    (hok : s.runStartupUnits env parent createdBy now = .ok (s', results)) :
    ∃ loaded t, s.load env = .ok loaded ∧ Launch loaded t ∧ s' = t.save := by
  unfold runStartupUnits at hok
  obtain ⟨s₁, hl, hok⟩ := Except.bind_eq_ok.1 hok
  obtain ⟨-, -, hok⟩ := Except.bind_eq_ok.1 hok
  obtain ⟨⟨s₂, results₂⟩, h₂, hok⟩ := Except.bind_eq_ok.1 hok
  rw [Except.pure_eq_ok, Prod.mk.injEq] at hok
  obtain ⟨hf, hfull⟩ := h.loaded hl
  exact ⟨s₁, s₂, hl, launch_batch hf.good hfull (calm_of_nil hf.cached) h₂, hok.1.symm⟩

theorem launch_updateGoal (h : s.Stored) {body createdBy : String}
    (hok : s.updateGoal env sid body createdBy = .ok s') :
    ∃ loaded t, s.load env = .ok loaded ∧ Launch loaded t ∧ s' = t.save := by
  unfold updateGoal at hok
  dsimp only at hok
  obtain ⟨-, hok⟩ := Except.require_bind_eq_ok.1 hok
  obtain ⟨s₁, hl, hok⟩ := Except.bind_eq_ok.1 hok
  obtain ⟨hs, hok⟩ := Except.require_bind_eq_ok.1 hok
  obtain ⟨-, hok⟩ := Except.require_bind_eq_ok.1 hok
  obtain ⟨hf, hfull⟩ := h.loaded hl
  exact ⟨s₁, _, hl, launch_reviseGoal hf.good hfull hs _ _ _, (Except.pure_eq_ok.1 hok).symm⟩

theorem editsTo_scheduleNextUnitRun (h : s.Stored) {callParameters : CallParameters} {actor : String}
    {runId : Option Nat}
    (hok : s.scheduleNextUnitRunFromSession env sid callParameters actor runId = .ok s') :
    EditsTo p s s' := by
  unfold scheduleNextUnitRunFromSession at hok
  obtain ⟨s₁, hl, hok⟩ := Except.bind_eq_ok.1 hok
  obtain ⟨s₂, h₂, hok⟩ := Except.bind_eq_ok.1 hok
  rw [← Except.pure_eq_ok.1 hok]
  obtain ⟨units, payload, fromEndpoint, toEndpoint, -, -, rfl⟩ := scheduleNextUnitRun_eq h₂
  refine h.editsTo hl ?_
  generalize Told _ = told
  have h₁ : Edits p told s₁ { s₁ with units := units } := .of_fields rfl rfl rfl rfl rfl
  exact h₁.trans (edits_putSessionMessage ..)

theorem editsTo_appendMessage (h : s.Stored) {sender recipient body : String}
    (hok : s.appendMessage env sid sender recipient body = .ok s') : EditsTo p s s' := by
  unfold appendMessage at hok
  obtain ⟨s₁, hl, hok⟩ := Except.bind_eq_ok.1 hok
  obtain ⟨hs, hok⟩ := Except.require_bind_eq_ok.1 hok
  dsimp only at hok
  obtain ⟨-, hok⟩ := Except.require_bind_eq_ok.1 hok
  obtain ⟨-, hok⟩ := Except.require_bind_eq_ok.1 hok
  unfold appendSessionMessage at hok
  rw [if_pos hs, Except.ok_bind, Except.pure_eq_ok] at hok
  rw [← hok]
  exact h.editsTo hl (edits_putSessionMessage ..)

theorem editsTo_appendRuntimeMessage (h : s.Stored) (hs : p.settles) {msg : RuntimeMessage}
    (hok : s.appendRuntimeMessage env sid msg = .ok s') : EditsTo p s s' := by
  unfold appendRuntimeMessage at hok
  obtain ⟨s₁, hl, hok⟩ := Except.bind_eq_ok.1 hok
  obtain ⟨hmem, hok⟩ := Except.require_bind_eq_ok.1 hok
  dsimp only at hok
  obtain ⟨⟨role, fromEndpoint⟩, -, hok⟩ := Except.bind_eq_ok.1 hok
  obtain ⟨-, -, hok⟩ := Except.bind_eq_ok.1 hok
  obtain ⟨-, hok⟩ := Except.require_bind_eq_ok.1 hok
  obtain ⟨-, hok⟩ := Except.require_bind_eq_ok.1 hok
  obtain ⟨-, hok⟩ := Except.require_bind_eq_ok.1 hok
  obtain ⟨toEndpoint, -, hok⟩ := Except.bind_eq_ok.1 hok
  obtain ⟨x, hx, hok⟩ := Except.bind_eq_ok.1 hok
  rw [← Except.pure_eq_ok.1 hok]
  generalize hs₂ : (if strip msg.recipient = userConsoleRecipient ∧ strip msg.recipientEndpointId = ""
    then s₁.readSessionLog sid else s₁) = s₂ at hx
  have h₂ : ∀ {told : String → Prop}, Edits p told s₁ s₂ := by
    intro told
    rw [← hs₂]
    split_ifs
    · exact .readSessionLog hs
    · exact .refl ..
  unfold appendSessionMessage at hx
  by_cases hmem₂ : sid ∈ s₂.sessions
  · rw [if_pos hmem₂, Except.ok.injEq] at hx
    rw [← hx]
    exact h.editsTo hl (h₂.trans (edits_putSessionMessage ..))
  · rw [if_neg hmem₂] at hx
    cases hx

theorem editsTo_appendUserInput (h : s.Stored) (hend : ∀ goalId, p.waits goalId none)
    {sender body replyTo : String}
    (hok : s.appendUserInput env sid sender body replyTo = .ok s') : EditsTo p s s' := by
  unfold appendUserInput at hok
  obtain ⟨s₁, hl, hok⟩ := Except.bind_eq_ok.1 hok
  obtain ⟨hs, hok⟩ := Except.require_bind_eq_ok.1 hok
  obtain ⟨-, hok⟩ := Except.require_bind_eq_ok.1 hok
  dsimp only at hok
  rw [appendSessionMessage, if_pos hs, Except.ok_bind] at hok
  obtain ⟨hf, -⟩ := h.loaded hl
  -- the first message, and what it makes of the Goal
  have sent : ∀ {payload : Payload} {told : String → Prop} (actor reason createdAt : String)
      (deferGoalManager : Bool), payload.runId = none → Edits p told s₁
        ((s₁.putSessionMessage sid (userEndpoint sender) (sessionEndpoint sid) payload
          env.utcNow.text).1.markSessionReprocessNeeded env sid actor reason createdAt
            deferGoalManager) := by
    intro payload told actor reason createdAt deferGoalManager hp
    obtain ⟨es, hwork, -⟩ := (Work.start s.dispatchRuns.lookup hf.good.wf hs).putSessionMessage
      (hf.good.book.numbered sid) (userEndpoint sender) (sessionEndpoint sid) payload env.utcNow.text
      (by simp [hp])
    exact (edits_putSessionMessage ..).trans (edits_reprocess hend hwork.wf env actor reason createdAt
      deferGoalManager)
  cases hworker : s₁.activeWorkerRunForSession sid with
  | none =>
    simp only [hworker, Except.pure_eq_ok] at hok
    rw [← hok]
    exact h.editsTo hl (sent _ _ _ _ rfl)
  | some r =>
    obtain ⟨runId, worker⟩ := r
    simp only [hworker] at hok
    obtain ⟨x, hx, hok⟩ := Except.bind_eq_ok.1 hok
    rw [← Except.pure_eq_ok.1 hok]
    unfold appendSessionMessage at hx
    split_ifs at hx
    · rw [Except.ok.injEq] at hx
      rw [← hx]
      exact h.editsTo hl ((sent _ _ _ _ rfl).trans (edits_putSessionMessage ..))

end State

open State

/-- What an operation may do to Goals and runs. -/
def Op.powers (env : Env) (s : State) : Op → Powers
  | .declareCompletion sessionId _ _ _ runId _ => .declaring s sessionId runId
  | .declareWaiting sessionId spec _ runId _ => .declaringWait s env sessionId spec runId
  | .acquire _ => .settling
  | .restart => .settling
  | .appendUserInput .. => .settling
  | .appendRuntimeMessage .. => { settles := True }
  | .commit lease _ => .committing s lease
  | _ => {}

/-- The operations without a lease and without a result of their own. -/
theorem apply_edits {s s' : State} {env : Env} {op : Op} (h : s.Stored)
    (hok : op.apply env s = .ok s') : EditsTo (op.powers env s) s s' := by
  obtain ⟨P, hP⟩ : ∃ P : Label → Prop, P .plain := ⟨fun _ => True, trivial⟩
  have launched : (∃ loaded t, s.load env = .ok loaded ∧ Launch loaded t ∧ s' = t.save) →
      EditsTo {} s s' := by
    rintro ⟨loaded, t, hl, ht, rfl⟩
    exact ht.editsTo h hl
  cases op with
  | createUser => rw [Op.apply] at hok; exact .of_repaired (repaired_createUser h hP hok)
  | createServiceUser => rw [Op.apply] at hok; exact .of_repaired (repaired_createServiceUser h hP hok)
  | createUnit => rw [Op.apply] at hok; exact .of_repaired (repaired_createUnit h hP hok)
  | setUnitSpawnGroups => rw [Op.apply] at hok; exact .of_repaired (repaired_setUnitSpawnGroups h hP hok)
  | configureUnitSchedule => rw [Op.apply] at hok; exact .of_repaired (repaired_configureUnitSchedule h hP hok)
  | setUnitActive => rw [Op.apply] at hok; exact .of_repaired (repaired_setUnitActive h hP hok)
  | setSessionActive => rw [Op.apply] at hok; exact editsTo_setActive h hok
  | setSessionSchedulingPolicy => rw [Op.apply] at hok; exact .of_repaired (repaired_setSessionSchedulingPolicy h hP hok)
  | setAgentProvider => rw [Op.apply] at hok; exact .of_repaired (repaired_setAgentProvider h hP hok)
  | setAgentAccounts => rw [Op.apply] at hok; exact .of_repaired (repaired_setAgentAccounts h hP hok)
  | setDispatchLotSize => rw [Op.apply] at hok; exact .of_repaired (repaired_setDispatchLotSize h hP hok)
  | createSession => rw [Op.apply] at hok; exact .of_repaired (repaired_createSession h hP hok)
  | startGoalSession => rw [Op.apply] at hok; exact launched (launch_startGoalSession h hok)
  | linkSessions => rw [Op.apply] at hok; exact .of_repaired (repaired_linkSessions h hP hok)
  | runScheduledUnits =>
    obtain ⟨⟨s', results⟩, hr, rfl⟩ := Except.map_eq_ok.1 hok
    exact launched (launch_scheduled h hr)
  | runStartupUnits =>
    obtain ⟨⟨s', results⟩, hr, rfl⟩ := Except.map_eq_ok.1 hok
    exact launched (launch_startup h hr)
  | scheduleNextUnitRun => rw [Op.apply] at hok; exact editsTo_scheduleNextUnitRun h hok
  | updateGoal => rw [Op.apply] at hok; exact launched (launch_updateGoal h hok)
  | declareCompletion => rw [Op.apply] at hok; exact editsTo_declareCompletion h hok
  | declareWaiting => rw [Op.apply] at hok; exact editsTo_declareWaiting h hok
  | appendMessage => rw [Op.apply] at hok; exact editsTo_appendMessage h hok
  | appendRuntimeMessage => rw [Op.apply] at hok; exact editsTo_appendRuntimeMessage h trivial hok
  | appendUserInput => rw [Op.apply] at hok; exact editsTo_appendUserInput h (fun _ => rfl) hok
  | receiveMessage =>
    obtain ⟨⟨s', m⟩, hr, rfl⟩ := Except.map_eq_ok.1 hok
    exact .of_repaired (repaired_receiveMessage h hP hr)
  | recordRuntimeRecovery => rw [Op.apply] at hok; exact editsTo_recovery h hok
  | acquire =>
    cases hok
    exact .refl h
  | commit =>
    cases hok
    exact .refl h
  | restart =>
    obtain ⟨⟨memory, s'⟩, hi, rfl⟩ := Except.map_eq_ok.1 hok
    exact editsTo_restart h trivial (fun _ => rfl) hi

/-- **What an operation does to Goals, runs and logs.** -/
theorem exec_edits {sys sys' : Sys} {env : Env} {op : Op} (h : sys.store.Stored)
    (hok : op.exec env sys = .ok sys') : EditsTo (op.powers env sys.store) sys.store sys'.store := by
  cases op with
  | acquire filter =>
    obtain ⟨⟨store, lease⟩, ha, hok⟩ := Except.bind_eq_ok.1 hok
    rw [← Except.pure_eq_ok.1 hok]
    exact editsTo_acquire h trivial (fun _ => rfl) ha
  | commit lease agentEnd =>
    obtain ⟨-, hok⟩ := Except.require_bind_eq_ok.1 hok
    obtain ⟨store, hc, hok⟩ := Except.bind_eq_ok.1 hok
    rw [← Except.pure_eq_ok.1 hok]
    exact editsTo_commit h hc
  | _ =>
    obtain ⟨store, hc, hok⟩ := Except.bind_eq_ok.1 hok
    rw [← Except.pure_eq_ok.1 hok]
    exact apply_edits h hc

/-- An operation that raises edits nothing. -/
theorem next_edits {sys : Sys} (h : sys.store.Stored) (a : Action) :
    EditsTo (a.op.powers a.env sys.store) sys.store (sys.next a).store := by
  unfold Sys.next
  cases hok : a.op.exec a.env sys with
  | ok sys' => exact exec_edits h hok
  | error err => exact .refl h

namespace State

variable {p : Powers} {s s' : State}

/-- **What a saved transaction has done to the Goals and logs.** The new entries tell of
    every edit. -/
theorem EditsTo.spec (h : EditsTo p s s') (hs : s.Stored) :
    (∀ x, s.log x <+: s'.log x) ∧
    (∀ goalId g, s.goals.lookup goalId = some g → ∃ g', s'.goals.lookup goalId = some g' ∧
      GoalEdit p (∃ es, s'.log g.sessionId = s.log g.sessionId ++ es ∧ ∃ e ∈ es, e.isEdit) goalId g
        g') ∧
    (∀ goalId g', s'.goals.lookup goalId = some g' →
      goalId ∈ s.goals ∨ g'.waiting = none ∨ p.waits goalId g'.waiting) ∧
    ∀ rid r', s'.dispatchRuns.lookup rid = some r' →
      (s.dispatchRuns.lookup rid = none ∧ r'.declaredOutcome = none) ∨
        p.declares rid r'.declaredOutcome ∨
          ∃ r, s.dispatchRuns.lookup rid = some r ∧ r'.declaredOutcome = r.declaredOutcome := by
  obtain ⟨t, ht, rfl⟩ := h
  have hlog : ∀ x, t.save.log x = s.log x ++ t.pendingLog x := by
    intro x
    have hp : s.pendingLog x = [] := by
      unfold pendingLog
      rw [hs.pending]
      rfl
    rw [log_save]
    unfold log persistedLog
    rw [ht.persisted, hp, List.append_nil]
  refine ⟨fun x => ⟨_, (hlog x).symm⟩, fun goalId g hg => ?_, ht.fresh, ht.run⟩
  obtain ⟨g', hg', he⟩ := ht.goal goalId g hg
  exact ⟨g', hg', he.sessionId, he.waiting, he.incomplete, he.body.imp id fun ⟨e, hmem, hedit⟩ =>
    ⟨_, hlog _, e, hmem, hedit⟩⟩

end State
end Aize
