/-
  The commits, as steps of the ledger.

  A commit writes into the book while its run still holds the lease, and gives the
  lease back in the end. On the ledger the release comes first: `moves_body` lifts
  what the commit wrote over it. `commit_spec` covers the commits of a GoalManager, a
  Worker and an error, the result that is discarded, and the run that is missing.
-/
import Aize.Leasing
import Aize.Operations

namespace Aize
namespace State

variable {P : Label → Prop} {s s₁ t s' : State} {env : Env} {rid : Nat} {r : DispatchRun}
  {lease : Lease}

/-! ## Releasing a run -/

/-- The runs, once `rid` has been released. -/
def releasing (s : State) (rid : Nat) (r : DispatchRun) : Nat → Option DispatchRun :=
  Function.update s.dispatchRuns.lookup rid (some r.released)

theorem releasing_self : s.releasing rid r rid = some r.released := Function.update_self ..

theorem not_holding_releasing (r' : DispatchRun) : ¬Holding (s.releasing rid r) rid r' := by
  rintro ⟨h, ha⟩
  rw [releasing_self] at h
  cases h
  cases ha

theorem Intact.releasing (hi : s.Intact) (hr : Holding s.dispatchRuns.lookup rid r) :
    s.Good (s.releasing rid r) :=
  ⟨hi.wf, @Ledger.Consistent.of_runs s.ledger (s.ledger.setRun rid r.released) hi.book rfl
    (Ledger.runsShrink_release (c := s.ledger) hr)⟩

theorem view_setRoleCursor (s : State) (sid : String) (role : Role) (n : Nat) (x : String) :
    (s.setRoleCursor sid role n).view x = if x = sid then (s.view x).map fun v =>
      { v with cursors := v.cursors.set role (max (v.cursors.get role) n) } else s.view x := by
  have hcur : (s.setRoleCursor sid role n).currentGoalForSession x = s.currentGoalForSession x := rfl
  unfold view
  rw [hcur, setRoleCursor, State.modifySession, Dict.lookup_modify]
  by_cases hx : x = sid
  · subst hx
    rw [if_pos rfl, if_pos rfl]
    cases s.sessions.lookup x <;> rfl
  · rw [if_neg hx, if_neg hx]

theorem book_setRoleCursor (s : State) (sid : String) (role : Role) (n : Nat) :
    (s.setRoleCursor sid role n).book = s.book.advance sid role n := by
  have hview : (s.setRoleCursor sid role n).view = (s.book.advance sid role n).session :=
    funext fun x => view_setRoleCursor s sid role n x
  unfold book
  rw [hview]
  rfl

theorem wf_setRoleCursor (hw : s.Wf) (sid : String) (role : Role) (n : Nat) :
    (s.setRoleCursor sid role n).Wf := hw.modifySession sid _

theorem wf_releaseRun (hw : s.Wf) (rid : Nat) : (s.releaseRun rid).Wf :=
  hw.modifyRun rid fun _ => ⟨rfl, fun ha => by cases ha⟩

theorem book_touchSession (s : State) (sid updatedAt : String) :
    (s.touchSession sid updatedAt).book = s.book := by
  have hview : (s.touchSession sid updatedAt).view = s.view :=
    view_modifySession sid fun _ => ⟨rfl, rfl⟩
  unfold book
  rw [hview]
  rfl

/-- **The body of a commit, and the release.** -/
theorem moves_body (hr : Holding s.dispatchRuns.lookup rid r) (hs : r.sessionId ∈ s.sessions)
    (hP : P .plain) (hP' : P (.release rid)) (he : Effect (s.releasing rid r) P s t)
    (hruns : s'.dispatchRuns = (t.releaseRun rid).dispatchRuns)
    (hqueue : s'.dispatchReadiness = t.dispatchReadiness)
    (hbook : s'.book = t.book.advance r.sessionId r.role r.observedToSeq)
    (hw : s'.Wf) (hn : t.nextId ≤ s'.nextId) : Moves P s s' := by
  obtain ⟨v, hv⟩ := exists_view hs
  have hrun : s'.dispatchRuns.lookup = s.releasing rid r := by
    have hl := ledger_modifyRun (f := DispatchRun.released) (s := t) (r := r)
      (by rw [he.runs]; exact hr.1)
    have := congrArg Ledger.run hl
    rw [hruns]
    refine this.trans ?_
    funext x
    rw [Ledger.setRun_run]
    unfold releasing
    rw [Function.update_apply, ← he.runs]
    rfl
  -- first the release, then what was written, then the entries that left the queue
  have h₁ : Ledger.Step s.ledger (.release rid) ((s.ledger.setRun rid r.released).setBook
      (s.book.advance r.sessionId r.role r.observedToSeq)) := .release hr
  have h₂ := (he.steps.advance hv r.role r.observedToSeq).steps
    (c := (s.ledger.setRun rid r.released).setBook (s.book.advance r.sessionId r.role r.observedToSeq))
  have h₃ : Ledger.Step ((s.ledger.setRun rid r.released).setBook
      (t.book.advance r.sessionId r.role r.observedToSeq)) .plain
      (((s.ledger.setRun rid r.released).setBook
        (t.book.advance r.sessionId r.role r.observedToSeq)).setReadiness t.dispatchReadiness) :=
    .retire he.queue
  refine ⟨(Ledger.Steps.of_step hP' h₁).trans (h₂.trans ((Ledger.Steps.of_step hP h₃).trans
    (.of_eq ?_))), hw, he.next.trans hn⟩
  unfold ledger
  rw [hrun, hqueue, hbook]
  rfl

/-- **What every applied commit ends with.** -/
theorem moves_finishRun (hr : Holding s.dispatchRuns.lookup lease.runId r)
    (hs : r.sessionId ∈ s.sessions) (hsid : lease.sessionId = r.sessionId)
    (hP : P .plain) (hP' : P (.release lease.runId))
    (he : Effect (s.releasing lease.runId r) P s t) :
    Moves P s (t.finishRun env lease lease.runId r r.role) := by
  unfold finishRun
  refine moves_body hr hs hP hP' he rfl rfl ?_ ?_ le_rfl
  · rw [book_touchSession, ← hsid]
    exact book_setRoleCursor t lease.sessionId r.role r.observedToSeq
  · exact (wf_releaseRun (wf_setRoleCursor he.wf _ _ _) _).modifySession _ _

/-- Delivering Messages moves cursors of endpoints alone. -/
theorem markDelivered_eq (s : State) (messages : List Message) : ∃ cursors,
    s.markSessionMessagesDelivered messages = { s with endpointCursors := cursors } := by
  unfold markSessionMessagesDelivered
  split
  · unfold advanceEndpointCursor
    dsimp only
    split <;> exact ⟨_, rfl⟩
  · exact ⟨_, rfl⟩

theorem moves_markDelivered (hw : s.Wf) (hP : P .plain) (messages : List Message) :
    Moves P s (s.markSessionMessagesDelivered messages) := by
  unfold markSessionMessagesDelivered
  split
  · exact (repair_advancedEndpointCursor (P := P) hw _ messages).effect.moves hP
  · exact .refl hw

/-! ## What the commits write -/

section
variable {run : Nat → Option DispatchRun} {sid : String} {goalId : Nat} {goal : Goal}

theorem effect_retire (hw : s.Wf) (p : Readiness → Bool) {st : ReadinessStatus} (hst : st.dead) :
    Effect run P s (s.modifyReadiness p fun e => { e with status := st }) :=
  ⟨rfl, .of_modify _ p hst, le_rfl, hw.modifyReadiness p fun _ => rfl, .refl _⟩

theorem effect_threads (hw : s.Wf) (threads : Dict String AgentThread) {n : Nat} (hn : s.nextId ≤ n) :
    Effect run P s { s with agentThreads := threads, nextId := n } :=
  .of_book rfl rfl hn rfl (hw.of_frame (fun _ => .rfl) rfl hn rfl rfl rfl rfl rfl)

theorem effect_recordRunTurn (hw : s.Wf) (r : DispatchRun) (sid : String) (result : AgentResult) :
    Effect run P s (s.recordRunTurn r sid result) := by
  obtain ⟨threads, n, hn, hth⟩ := s.ensureAgentThread_frame sid r.role r.agentUser r.agentProvider
  unfold recordRunTurn
  generalize s.ensureAgentThread sid r.role r.agentUser r.agentProvider = thread at hth ⊢
  obtain ⟨s₁, key⟩ := thread
  dsimp only at hth ⊢
  subst hth
  exact effect_threads hw _ hn

/-- The turn of a run changes the threads alone. -/
theorem recordRunTurn_frame (s : State) (r : DispatchRun) (sid : String) (result : AgentResult) :
    (s.recordRunTurn r sid result).cachedLog = s.cachedLog ∧
      (s.recordRunTurn r sid result).log = s.log ∧
      (s.recordRunTurn r sid result).goals = s.goals ∧
      (s.recordRunTurn r sid result).sessions = s.sessions ∧
      (s.recordRunTurn r sid result).units = s.units ∧
      (s.recordRunTurn r sid result).sessionEdges = s.sessionEdges := by
  obtain ⟨threads, n, -, hth⟩ := s.ensureAgentThread_frame sid r.role r.agentUser r.agentProvider
  unfold recordRunTurn
  generalize s.ensureAgentThread sid r.role r.agentUser r.agentProvider = thread at hth ⊢
  obtain ⟨s₁, key⟩ := thread
  dsimp only at hth ⊢
  subst hth
  exact ⟨rfl, rfl, rfl, rfl, rfl, rfl⟩

theorem cachedLog_readSessionLog {x : String} (hx : x ≠ sid) :
    (s.readSessionLog sid).cachedLog x = s.cachedLog x := by
  unfold readSessionLog
  split_ifs
  · rfl
  · unfold cachedLog
    simp [hx]
    rfl

/-- The next run time of the Unit is set on the way to a completion. -/
theorem work_prepare (hg : s.Good run) (hs : sid ∈ s.sessions) {session : Session} {rid : Nat}
    {parameters : CallParameters} {completedAt : Stamp} {p : State × String}
    (hp : s.prepareScheduledUnitCompletion env sid session rid parameters completedAt = .ok p) :
    ∃ es, Work run s p.1 sid es ∧ (∀ e ∈ es, e.isQuiet ∧ e.isStateChange = false) ∧
      p.1.goals = s.goals := by
  rcases prepareScheduledUnitCompletion_state hp with h | hx
  · rw [h]
    exact ⟨[], .start run hg.wf hs, by simp, rfl⟩
  · generalize p.1 = s₁ at hx ⊢
    obtain ⟨units, payload, fromEndpoint, toEndpoint, hp, -, rfl⟩ := scheduleNextUnitRun_eq hx
    have h₁ : Work run s { s with units := units } sid [] := (Work.start run hg.wf hs).frame rfl
      (.refl _) le_rfl rfl rfl rfl rfl
      (@repair_units run (fun _ => True) _ hg.wf units).effect.wf
    obtain ⟨es, h₂, hes⟩ := h₁.putSessionMessage (hg.book.numbered sid) fromEndpoint toEndpoint
      payload env.utcNow.text (by simp [hp])
    refine ⟨_, h₂, fun e he => ?_, goals_putSessionMessage⟩
    obtain ⟨m, hb, hm⟩ := hes e (by simpa using he)
    exact ⟨by simp [LogEntry.isQuiet, hb, hm, hp], by simp [LogEntry.isStateChange, hb]⟩

variable (hg : s.Good run) (hP : P .plain)
include hg hP

theorem effect_applyMissingDecision (hs : sid ∈ s.sessions) (rid : Nat) :
    Effect run P s (s.applyMissingDecision env lease rid sid) := by
  have h₁ := @effect_retire P _ run hg.wf
    (fun e => e.readinessId = lease.readinessId) .resolved rfl
  exact h₁.trans (effect_logSystemSignal (h₁.good hg) hs hP _ _ _ _ _ _ _)

/-- A wait: the Goal is told, the log notes it, and the queue is cleared. -/
theorem effect_applyWaiting (hc : s.currentGoalForSession sid = some (goalId, goal))
    (hrid : rid < s.nextId ∧ ∀ r, ¬Holding run rid r) (wait : Waiting) (reason : String) :
    Effect run P s (s.applyWaiting env lease rid goalId goal wait reason) := by
  obtain ⟨hgl, hgs⟩ := hg.wf.currentGoal.1 hc
  have hs : sid ∈ s.sessions := hgs ▸ (hg.wf.goal _ _ hgl).2.1
  subst hgs
  have h₁ := (Work.start run hg.wf hs).modifyGoal hc (f := fun g =>
    { g with waiting := some { wait with reason := reason, declaredRunId := some rid } })
    fun _ => ⟨rfl, rfl, rfl⟩
  obtain ⟨e, he, h₂⟩ := h₁.logGoalStateTransition (hg.book.numbered _) goalId
    { completionState := .waiting
      reason
      actor := Role.goalManager.token
      runId := some rid
      createdAt := env.utcNow.text } (by rintro _ ⟨⟩; exact hrid)
  have h₃ := h₂.notes hP ?_ fun x hx => ?_
  · unfold applyWaiting
    have h₄ := h₃.trans (@effect_retire _ _ _ h₃.wf
      (fun e => e.goalId = goalId && e.role = .goalManager &&
        (e.status = .ready || e.status = .acquired)) .resolved rfl)
    exact h₄.trans (effect_retire h₄.wf (fun e => e.readinessId = lease.readinessId)
      rfl)
  · have hview := view_modifyGoal_same (f := fun g =>
      { g with waiting := some { wait with reason := reason, declaredRunId := some rid } }) hg.wf hc
      (fun _ => ⟨rfl, rfl, rfl⟩) ⟨rfl, rfl, rfl⟩
    rw [← hview]
    refine view_congr ?_ goals_logGoalStateTransition _
    unfold logGoalStateTransition
    split_ifs
    · rfl
    · exact sessions_append
  · rw [List.nil_append] at hx
    split_ifs at hx
    · cases hx
    · rw [List.mem_singleton.1 hx]
      simp [LogEntry.isQuiet, he]

/-- The Goal stays incomplete, and a Worker is asked for. -/
theorem effect_applyIncomplete (hc : s.currentGoalForSession sid = some (goalId, goal))
    (hrid : rid < s.nextId ∧ ∀ r, ¬Holding run rid r)
    (hfresh : ∀ e ∈ s.cachedLog sid, ∀ tr, e.body = .goalStateChanged tr → tr.runId ≠ some rid)
    (r : DispatchRun) (reason : String) (requested : Bool) :
    Effect run P s (s.applyIncomplete env rid goalId r goal sid reason requested) := by
  obtain ⟨hgl, hgs⟩ := hg.wf.currentGoal.1 hc
  have hs : sid ∈ s.sessions := hgs ▸ (hg.wf.goal _ _ hgl).2.1
  have h₀ := Work.start run hg.wf hs
  have h₁ := h₀.setIncomplete (hg.book.numbered sid) hP hc hgs reason Role.goalManager.token
    (some rid) env.utcNow.text false (by rintro _ ⟨⟩; exact hrid)
    (h₀.not_duplicate _ _ hfresh (by simp))
  have hc₁ := @currentGoal_setIncomplete _ _ _ goal _ hc reason Role.goalManager.token (some rid)
    env.utcNow.text false
  unfold applyIncomplete
  dsimp only
  generalize s.setGoalCompletionState goalId goal .incomplete reason Role.goalManager.token (some rid)
    env.utcNow.text = s₁ at h₁ hc₁ ⊢
  obtain ⟨hgl₁, hgs₁⟩ := h₁.wf.currentGoal.1 hc₁
  have hs₁ : sid ∈ s₁.sessions := hgs₁ ▸ (h₁.wf.goal _ _ hgl₁).2.1
  have h₂ : Effect run P s (if requested then s₁
      else s₁.appendImplicitWorkerRequest env rid r goal sid reason) := by
    split_ifs
    · exact h₁
    · exact h₁.trans (effect_putSessionMessage (h₁.good hg) hs₁ hP _ _ _ _ rfl)
  exact h₂.trans (effect_retire h₂.wf _ rfl)

/-- A failed dispatch. -/
theorem effect_dispatchFailed (hc : s.currentGoalForSession sid = some (goalId, goal))
    (hrid : rid < s.nextId ∧ ∀ r, ¬Holding run rid r)
    (hfresh : ∀ e ∈ s.cachedLog sid, ∀ tr, e.body = .goalStateChanged tr → tr.runId ≠ some rid)
    (reason : String) (id : Nat) :
    Effect run P s ((s.setGoalCompletionState goalId goal .incomplete reason "dispatcher" (some rid)
      env.utcNow.text).setReadinessStatus id .failed) := by
  obtain ⟨hgl, hgs⟩ := hg.wf.currentGoal.1 hc
  have hs : sid ∈ s.sessions := hgs ▸ (hg.wf.goal _ _ hgl).2.1
  have h₀ := Work.start run hg.wf hs
  have h₁ := h₀.setIncomplete (hg.book.numbered sid) hP hc hgs reason "dispatcher" (some rid)
    env.utcNow.text false (by rintro _ ⟨⟩; exact hrid) (h₀.not_duplicate _ _ hfresh (by simp))
  exact h₁.trans (effect_retire h₁.wf _ rfl)

/-- A completion, unless the schedule of the Unit blocks it. -/
theorem effect_applyCompleting (hc : s.currentGoalForSession sid = some (goalId, goal))
    {r : DispatchRun} (hr : run rid = some r) (hrel : r.leaseState ≠ .acquired)
    (hrole : r.role = .goalManager) (hrs : r.sessionId = sid) (hrid : rid < s.nextId)
    (hP' : P (.complete sid rid))
    (hreq : ∀ e ∈ s.log sid, e.isRequirement → e.seq ≤ r.observedToSeq)
    (hfresh : ∀ e ∈ s.cachedLog sid, ∀ tr, e.body = .goalStateChanged tr → tr.runId ≠ some rid)
    (hcached : ∀ x, x ≠ sid → s.cachedLog x = []) {session : Session} {parameters : CallParameters}
    (reason : String) {p : State × String}
    (hp : s.prepareScheduledUnitCompletion env sid session rid parameters env.utcNow = .ok p) :
    Effect run P s (p.1.applyRejectedCompletion env lease rid goalId goal sid p.2) ∧
      Effect run P s (p.1.applyCompletion env lease rid goalId goal sid reason) := by
  obtain ⟨hgl, hgs⟩ := hg.wf.currentGoal.1 hc
  have hs : sid ∈ s.sessions := hgs ▸ (hg.wf.goal _ _ hgl).2.1
  obtain ⟨es, h₁, hes, hgoals⟩ := work_prepare hg hs hp
  have hc₁ : p.1.currentGoalForSession sid = some (goalId, goal) := by
    rw [currentGoal_congr hgoals]
    exact hc
  have hno : ∀ r', ¬Holding run rid r' := by
    rintro r' ⟨h, ha⟩
    rw [hr] at h
    cases h
    exact hrel ha
  have hrid₁ : rid < p.1.nextId := hrid.trans_le h₁.next
  constructor
  · obtain ⟨es', h₂, hes'⟩ := h₁.logSystemSignal (hg.book.numbered sid) "GoalCompletionRejected" p.2
      [.goalManager] "scheduler" env.utcNow.text (some rid) .absent
    have hc₂ := (currentGoal_congr (@goals_logSystemSignal p.1 sid "GoalCompletionRejected" p.2
      "scheduler" env.utcNow.text [.goalManager] (some rid) .absent)).symm ▸ hc₁
    have h₃ := h₂.setIncomplete (hg.book.numbered sid) hP hc₂ hgs p.2 "scheduler" (some rid)
      env.utcNow.text false (by rintro _ ⟨⟩; exact ⟨hrid.trans_le h₂.next, hno⟩)
      (h₂.not_duplicate _ _ hfresh fun e he => ?_)
    · exact h₃.trans (effect_retire h₃.wf _ rfl)
    · rcases List.mem_append.1 he with he | he
      · exact (hes e he).2
      · exact LogEntry.isStateChange_of_signal (hes' e he)
  · have h₂ := effect_complete h₁ hg hP hP' hes hc hc₁ hr hrel hrole hrs hreq hrid₁ hfresh hcached
      reason Role.goalManager.token env.utcNow.text false
    have h₃ := h₂.trans (repair_modifySession (P := P) h₂.wf sid (f := fun session =>
      { session with
        scheduleTiming := some
          ({ session.scheduleTiming.getD {} with completedAt := env.utcNow } : ScheduleTiming) })
      fun _ => ⟨rfl, rfl⟩).effect
    exact h₃.trans (effect_retire h₃.wf _ rfl)

/-- **The declared branches.** -/
theorem effect_applyDecision (hsid : lease.sessionId = sid) (hgoal : lease.goalId = goalId)
    (hc : s.currentGoalForSession sid = some (goalId, goal)) {r r' : DispatchRun}
    (hr : run rid = some r') (hrel : r'.leaseState ≠ .acquired) (hrole : r'.role = .goalManager)
    (hrs : r'.sessionId = sid) (hrid : rid < s.nextId) (hP' : P (.complete sid rid))
    (hreq : ∀ e ∈ s.log sid, e.isRequirement → e.seq ≤ r'.observedToSeq)
    (hfresh : ∀ e ∈ s.log sid, ∀ tr, e.body = .goalStateChanged tr → tr.runId ≠ some rid)
    (hcached : ∀ x, s.cachedLog x = []) {session : Session} {declared : Declaration}
    (h : s.applyDecision env lease rid r goal session declared = .ok s') :
    Effect run P s s' := by
  subst hsid hgoal
  have hno : ∀ r', ¬Holding run rid r' := by
    rintro r' ⟨h, ha⟩
    rw [hr] at h
    cases h
    exact hrel ha
  -- the log may have been read before the branch
  have hread : ∀ live : Bool,
      let s₁ := if live then s else s.readSessionLog lease.sessionId
      Effect run P s s₁ ∧ s₁.goals = s.goals ∧ s₁.log = s.log ∧
        ∀ x, x ≠ lease.sessionId → s₁.cachedLog x = [] := by
    intro live s₁
    cases live with
    | true => exact ⟨.refl hg.wf, rfl, rfl, fun x _ => hcached x⟩
    | false =>
      refine ⟨effect_readSessionLog hg.wf _, ?_, ?_, fun x hx => ?_⟩
      · change (s.readSessionLog lease.sessionId).goals = s.goals
        unfold readSessionLog
        split_ifs <;> rfl
      · change (s.readSessionLog lease.sessionId).log = s.log
        unfold readSessionLog
        split_ifs <;> rfl
      · exact (cachedLog_readSessionLog hx).trans (hcached x)
  unfold applyDecision at h
  dsimp only at h
  obtain ⟨he, hgoals, hlog, hc'⟩ := hread (s.hasLiveWorkerReadinessForGoal lease.goalId)
  generalize s.hasLiveWorkerReadinessForGoal lease.goalId = live at he hgoals hlog hc' h
  generalize (live || s.hasWorkerRequestForRun lease.sessionId rid) = requested at h
  generalize (if live then s else s.readSessionLog lease.sessionId) = s₁ at he hgoals hlog hc' h
  have hg₁ := he.good hg
  have hc₁ : s₁.currentGoalForSession lease.sessionId = some (lease.goalId, goal) := by
    rw [currentGoal_congr hgoals]
    exact hc
  have hrid₁ := hrid.trans_le he.next
  have hfresh₁ : ∀ e ∈ s₁.cachedLog lease.sessionId, ∀ tr, e.body = .goalStateChanged tr →
      tr.runId ≠ some rid := fun e he => hfresh e (hlog ▸ mem_log_of_cached he)
  cases hd : declared.decision with
  | waiting wait =>
    simp only [hd] at h
    rw [← Except.pure_eq_ok.1 h]
    exact he.trans (effect_applyWaiting hg₁ hP hc₁ ⟨hrid₁, hno⟩ wait _)
  | complete parameters =>
    simp only [hd] at h
    obtain ⟨p, hp, h⟩ := Except.bind_eq_ok.1 h
    obtain ⟨hrej, hacc⟩ := effect_applyCompleting hg₁ hP hc₁ hr hrel
      hrole hrs hrid₁ hP' (hlog ▸ hreq) hfresh₁ hc' declared.reason hp
    rw [← Except.pure_eq_ok.1 h]
    split_ifs
    · exact he.trans hrej
    · exact he.trans hacc
  | incomplete =>
    simp only [hd] at h
    rw [← Except.pure_eq_ok.1 h]
    exact he.trans (effect_applyIncomplete hg₁ hP hc₁ ⟨hrid₁, hno⟩ hfresh₁ r _ _)

end

/-! ## The fence -/

/-- **What the fence lets pass**: the run holds its lease on the Goal that it saw, and no
    requirement has come since. -/
structure Unfenced (s : State) (rid : Nat) (run : DispatchRun) (role : Role) : Prop where
  role : run.role = role
  acquired : run.leaseState = .acquired
  goal : ∃ goal, s.goals.lookup run.goalId = some goal ∧ goal.body = run.observedGoalBody
  log : ∀ e ∈ s.log run.sessionId, run.observedToSeq < e.seq → requirementConflict rid e = none

theorem newRequirementConflict_eq_none {sid : String} {n : Nat} :
    s.newRequirementConflict sid rid n = none ↔
      ∀ e ∈ s.log sid, n < e.seq → requirementConflict rid e = none := by
  unfold newRequirementConflict sessionLogAfterCursor
  simp only [List.findSome?_eq_none_iff, List.mem_filter, decide_eq_true_eq, and_imp]

theorem fence_eq_none {role : Role} : s.staleDispatchFence rid r role = none ↔
    s.Unfenced rid r role := by
  unfold staleDispatchFence
  constructor
  · intro h
    split_ifs at h with hrole hacq
    push Not at hrole hacq
    cases hg : s.goals.lookup r.goalId with
    | none => simp [hg] at h
    | some goal =>
      simp only [hg] at h
      split_ifs at h with hbody
      push Not at hbody
      exact ⟨hrole, hacq, ⟨goal, hg, hbody⟩, newRequirementConflict_eq_none.1 h⟩
  · rintro ⟨hrole, hacq, ⟨goal, hg, hbody⟩, hlog⟩
    rw [if_neg (not_not_intro hrole), if_neg (not_not_intro hacq), hg]
    dsimp only
    rw [if_neg (not_not_intro hbody)]
    exact newRequirementConflict_eq_none.2 hlog

/-- No requirement lies beyond the window of a GoalManager run that passes. -/
theorem Unfenced.requirements (h : s.Unfenced rid r .goalManager)
    (hr : s.dispatchRuns.lookup rid = some r) (hf : s.ledger.Forwards) {e : LogEntry}
    (he : e ∈ s.log r.sessionId) (hreq : e.isRequirement) : e.seq ≤ r.observedToSeq := by
  by_contra hlt
  have hno := h.log e he (by omega)
  unfold LogEntry.isRequirement at hreq
  unfold requirementConflict at hno
  cases hb : e.body with
  | message m =>
    simp only [hb] at hno hreq
    split_ifs at hno with hid
    have hrole := hf r.sessionId e he rid (by simp [LogEntry.inputRun, hb, hreq, hid]) r hr
    rw [h.role] at hrole
    cases hrole
  | _ => simp [hb] at hno hreq

/-! ## The commits -/

/-- What the commits need of the loaded state and of the lease. -/
structure Committable (s : State) (lease : Lease) (run : DispatchRun) (goal : Goal) : Prop where
  intact : s.Intact
  sound : s.ledger.Sound
  forwards : s.ledger.Forwards
  cached : ∀ x, s.cachedLog x = []
  found : s.dispatchRuns.lookup lease.runId = some run
  issued : Lease.Of lease run
  target : s.goals.lookup lease.goalId = some goal

namespace Committable

variable {run : DispatchRun} {goal : Goal}

theorem current (h : Committable s lease run goal) :
    s.currentGoalForSession lease.sessionId = some (lease.goalId, goal) ∧
      lease.sessionId ∈ s.sessions := by
  obtain ⟨⟨v, g, hv, hg, hid⟩, -⟩ := h.sound.run _ _ h.found
  obtain ⟨session, -, -, -, hcur⟩ := view_eq_some_iff.1 hv
  rw [hg] at hcur
  obtain ⟨⟨goalId, goal'⟩, hc, rfl⟩ := Option.map_eq_some_iff.1 hcur
  obtain ⟨hl, hsid⟩ := h.intact.wf.currentGoal.1 hc
  dsimp only at hid hl
  rw [hid, ← h.issued.goalId, h.target] at hl
  cases hl
  have hc' : s.currentGoalForSession lease.sessionId = some (lease.goalId, goal) :=
    h.intact.wf.currentGoal.2 ⟨h.target, hsid.trans h.issued.sessionId.symm⟩
  exact ⟨hc', mem_of_view (h.issued.sessionId ▸ hv)⟩

/-- No state change names a run that holds its lease. -/
theorem unnamed (h : Committable s lease run goal) (ha : run.leaseState = .acquired) (sid : String) :
    ∀ e ∈ s.log sid, ∀ tr, e.body = .goalStateChanged tr → tr.runId ≠ some lease.runId := by
  intro e he tr hb htr
  refine h.intact.book.silent sid e he lease.runId ?_ run ⟨h.found, ha⟩
  simp [LogEntry.stateRun, hb, htr]

end Committable

section
variable {run : DispatchRun} {goal : Goal} (h : Committable s lease run goal) (hP : P .plain)
include h hP

/-- A GoalManager commit writes, ends its run and delivers its Messages. -/
theorem finished_applyGoalManagerRun (hun : s.Unfenced lease.runId run .goalManager)
    (hP' : P (.complete lease.sessionId lease.runId)) {session : Session} {result : AgentResult}
    (hok : s.applyGoalManagerRun env lease run goal session result = .ok s') :
    ∃ t, Effect (s.releasing lease.runId run) P s t ∧ s' =
      (t.finishRun env lease lease.runId run run.role).markSessionMessagesDelivered
        lease.sessionMessages := by
  obtain ⟨hc, hs⟩ := h.current
  have hr : Holding s.dispatchRuns.lookup lease.runId run := ⟨h.found, hun.acquired⟩
  have hg : s.Good (s.releasing lease.runId run) := Intact.releasing h.intact hr
  have hsid := h.issued.sessionId
  obtain ⟨hcached, hlog, hgoals, -⟩ := recordRunTurn_frame s run lease.sessionId result
  have h₁ := @effect_recordRunTurn P _ (s.releasing lease.runId run) hg.wf run
    lease.sessionId result
  unfold applyGoalManagerRun at hok
  generalize s.recordRunTurn run lease.sessionId result = s₁ at h₁ hcached hgoals hlog hok
  obtain ⟨s₂, hs₂, hok⟩ := Except.bind_eq_ok.1 hok
  rw [hun.role]
  refine ⟨s₂, ?_, (Except.pure_eq_ok.1 hok).symm⟩
  unfold applyOutcome at hs₂
  have hg₁ := h₁.good hg
  have hc₁ : s₁.currentGoalForSession lease.sessionId = some (lease.goalId, goal) := by
    rw [currentGoal_congr hgoals]
    exact hc
  have hs₁ : lease.sessionId ∈ s₁.sessions := by
    obtain ⟨hgl, hgs⟩ := hg₁.wf.currentGoal.1 hc₁
    exact hgs ▸ (hg₁.wf.goal _ _ hgl).2.1
  cases hd : run.declaredOutcome with
  | none =>
    simp only [hd] at hs₂
    rw [← Except.ok.inj hs₂]
    exact h₁.trans (effect_applyMissingDecision hg₁ hP hs₁ _)
  | some declared =>
    simp only [hd] at hs₂
    refine h₁.trans (effect_applyDecision hg₁ hP rfl rfl hc₁ releasing_self
      (fun h => by cases h) hun.role hsid.symm ((h.intact.wf.run _ _ h.found).1.trans_le h₁.next) hP'
      ?_ ?_ ?_ hs₂)
    · intro e he hreq
      rw [hlog, hsid] at he
      exact hun.requirements h.found h.forwards he hreq
    · rw [hlog]
      exact h.unnamed hun.acquired _
    · rw [hcached]
      exact h.cached

/-- A Worker commit writes and ends its run. -/
theorem finished_applyWorkerRun (hun : s.Unfenced lease.runId run .workerAgent)
    (result : AgentResult) : ∃ t, Effect (s.releasing lease.runId run) P s t ∧
      s.applyWorkerRun env lease run result = t.finishRun env lease lease.runId run run.role := by
  obtain ⟨hc, hs⟩ := h.current
  have hr : Holding s.dispatchRuns.lookup lease.runId run := ⟨h.found, hun.acquired⟩
  have hg : s.Good (s.releasing lease.runId run) := Intact.releasing h.intact hr
  rw [hun.role]
  -- the Session stays through the writes
  have stay : ∀ s₁, Effect (s.releasing lease.runId run) P s s₁ → lease.sessionId ∈ s₁.sessions := by
    intro s₁ he
    obtain ⟨v, hv⟩ := exists_view hs
    have := BookSteps.invariant (I := fun b => ∃ v, b.session lease.sessionId = some v) he.steps ⟨v, hv⟩
      fun b l b' ⟨v, hv⟩ _ hstep => by
        obtain ⟨v', hv', -⟩ := (hstep.session_grows lease.sessionId).2 v hv
        exact ⟨v', hv'⟩
    obtain ⟨v', hv'⟩ := this
    exact mem_of_view hv'
  unfold applyWorkerRun
  dsimp only
  have h₁ := @effect_recordRunTurn P _ (s.releasing lease.runId run) hg.wf run
    lease.sessionId result
  generalize s.recordRunTurn run lease.sessionId result = s₁ at h₁ ⊢
  have h₂ : Effect (s.releasing lease.runId run) P s (if result.provider = "remote-aize" then
      s₁.appendRemoteHandoff env lease.runId lease.sessionId else s₁) := by
    split_ifs
    · exact h₁.trans (effect_putSessionMessage (h₁.good hg) (stay _ h₁) hP _ _ _ _ rfl)
    · exact h₁
  generalize (if result.provider = "remote-aize" then
    s₁.appendRemoteHandoff env lease.runId lease.sessionId else s₁) = s₂ at h₂ ⊢
  have h₃ := h₂.trans (effect_readSessionLog h₂.wf lease.sessionId)
  generalize s₂.readSessionLog lease.sessionId = s₃ at h₃ ⊢
  have h₄ : Effect (s.releasing lease.runId run) P s
      (if s₃.roleTurnSessionMessages lease.sessionId lease.runId run = [] then
        s₃.logSystemSignal lease.sessionId "WorkerTurnProtocolViolation"
          ("WorkerAgent returned without reporting work results to Session. GoalManager must " ++
            "review the failed Worker turn and decide whether to request the work again.")
          [.goalManager] "dispatcher" env.utcNow.text (some lease.runId) (roleTurnRetryAt env)
      else s₃) := by
    split_ifs
    · exact h₃.trans (effect_logSystemSignal (h₃.good hg) (stay _ h₃) hP _ _ _ _ _ _ _)
    · exact h₃
  generalize (if s₃.roleTurnSessionMessages lease.sessionId lease.runId run = [] then _ else s₃) = s₄
    at h₄ ⊢
  exact ⟨_, h₄.trans (@effect_retire _ _ _ h₄.wf
    (fun e => e.readinessId = lease.readinessId) .resolved rfl), rfl⟩

/-- The commit of an error ends its run as a GoalManager commit does. -/
theorem finished_applyDispatchError (hun : s.Unfenced lease.runId run run.role) (error : String) :
    ∃ t, Effect (s.releasing lease.runId run) P s t ∧ s.applyDispatchError env lease run goal error =
      (t.finishRun env lease lease.runId run run.role).markSessionMessagesDelivered
        lease.sessionMessages := by
  obtain ⟨hc, -⟩ := h.current
  have hr : Holding s.dispatchRuns.lookup lease.runId run := ⟨h.found, hun.acquired⟩
  have hg : s.Good (s.releasing lease.runId run) := Intact.releasing h.intact hr
  exact ⟨_, @effect_dispatchFailed _ _ env _ _ _ _ _ hg hP hc
    ⟨(h.intact.wf.run _ _ h.found).1, not_holding_releasing⟩
    (fun e he => absurd he (by rw [h.cached]; exact List.not_mem_nil)) s!"Dispatch failed: {error}"
    lease.readinessId, rfl⟩

variable (hP' : P (.release lease.runId))
include hP'

/-- **Writing and ending the run** are some steps of the ledger. -/
theorem moves_finished (ha : run.leaseState = .acquired)
    (he : Effect (s.releasing lease.runId run) P s t) :
    Moves P s (t.finishRun env lease lease.runId run run.role) ∧
      Moves P s ((t.finishRun env lease lease.runId run run.role).markSessionMessagesDelivered
        lease.sessionMessages) := by
  have hsid := h.issued.sessionId
  have h₁ := @moves_finishRun _ _ _ env _ _ ⟨h.found, ha⟩ (hsid ▸ h.current.2) hsid hP hP' he
  exact ⟨h₁, h₁.trans (moves_markDelivered h₁.wf hP _)⟩

/-- **The commit of a GoalManager run.** -/
theorem moves_applyGoalManagerRun (hun : s.Unfenced lease.runId run .goalManager)
    (hP'' : P (.complete lease.sessionId lease.runId)) {session : Session} {result : AgentResult}
    (hok : s.applyGoalManagerRun env lease run goal session result = .ok s') : Moves P s s' := by
  obtain ⟨t, he, rfl⟩ := finished_applyGoalManagerRun h hP hun hP'' hok
  exact (moves_finished h hP hP' hun.acquired he).2

/-- **The commit of a Worker run.** -/
theorem moves_applyWorkerRun (hun : s.Unfenced lease.runId run .workerAgent) (result : AgentResult) :
    Moves P s (s.applyWorkerRun env lease run result) := by
  obtain ⟨t, he, heq⟩ := finished_applyWorkerRun h hP hun result
  rw [heq]
  exact (moves_finished h hP hP' hun.acquired he).1

/-- **The commit of an error.** -/
theorem moves_applyDispatchError (hun : s.Unfenced lease.runId run run.role) (error : String) :
    Moves P s (s.applyDispatchError env lease run goal error) := by
  obtain ⟨t, he, heq⟩ := finished_applyDispatchError h hP hun error
  rw [heq]
  exact (moves_finished h hP hP' hun.acquired he).2

end

/-! ## Discarded results and missing runs -/

/-- A run declares something, or keeps a stale result. -/
theorem moves_amend (hw : s.Wf) (hP : P .plain) (hr : s.dispatchRuns.lookup rid = some r)
    (d : DispatchRun → Option Declaration) (st : DispatchRun → List StaleResult) :
    Moves P s (s.modifyRun rid fun r => { r with declaredOutcome := d r, staleResults := st r }) := by
  refine .of_step hP ?_ (hw.modifyRun rid fun _ => ⟨rfl, fun ha => ⟨ha, rfl, rfl⟩⟩) le_rfl
  rw [ledger_modifyRun hr]
  exact .amend (d r) (st r) hr

theorem lookup_modifyRun {f : DispatchRun → DispatchRun} (hr : s.dispatchRuns.lookup rid = some r) :
    (s.modifyRun rid f).dispatchRuns.lookup rid = some (f r) := by
  change (Dict.modify rid f s.dispatchRuns).lookup rid = _
  rw [Dict.lookup_modify, if_pos rfl, hr]
  rfl

/-- **A discarded result**: the run keeps it, and gives back a lease that it still held. -/
theorem moves_discardStaleResult (hi : s.Intact) (hs : r.sessionId ∈ s.sessions) (hP : P .plain)
    (hP' : P (.release rid)) (hr : s.dispatchRuns.lookup rid = some r) (reason output : String) :
    Moves P s (s.discardStaleResult env rid r r.role reason output) := by
  unfold discardStaleResult
  dsimp only
  have h₁ := moves_amend hi.wf hP hr DispatchRun.declaredOutcome
    fun r' => r'.staleResults ++ [⟨r.role, reason, output⟩]
  have hr₁ := lookup_modifyRun (f := fun r' =>
    { r' with staleResults := r'.staleResults ++ [⟨r.role, reason, output⟩] }) hr
  have hs₁ : ∀ s₂ : State, s₂.sessions = s.sessions → r.sessionId ∈ s₂.sessions :=
    fun s₂ h => h ▸ hs
  have signal : ∀ s₂, Moves P s s₂ → r.sessionId ∈ s₂.sessions →
      Moves P s (s₂.logSystemSignal r.sessionId "StaleDispatchResultDiscarded"
        (s!"Dispatch run run-{rid} returned after it lost its dispatch ownership or its observed " ++
          s!"requirement changed: {reason}. The returned output was kept as run evidence " ++
          "without advancing the SessionGoal.") [.goalManager] "dispatcher" env.utcNow.text (some rid)) :=
    fun s₂ h₂ hs₂ => h₂.trans ((effect_logSystemSignal (h₂.intact hi) hs₂ hP _ _ _ _ _ _ _).moves hP)
  generalize hs₂ : (s.modifyRun rid fun r' =>
    { r' with staleResults := r'.staleResults ++ [⟨r.role, reason, output⟩] }) = s₁ at h₁ hr₁ ⊢
  have hmem : s₁.sessions = s.sessions := by rw [← hs₂]; rfl
  by_cases ha : r.leaseState = .acquired
  · rw [if_pos ha]
    refine signal _ (h₁.trans ?_) (Dict.mem_modify.2 (hs₁ s₁ hmem))
    refine moves_body (r := { r with staleResults := r.staleResults ++ [⟨r.role, reason, output⟩] })
      ⟨hr₁, ha⟩ (hs₁ s₁ hmem) hP hP' (effect_retire h₁.wf (fun e =>
        e.readinessId = r.readinessId && e.status = .acquired) rfl) rfl rfl ?_ ?_ le_rfl
    · exact book_setRoleCursor _ _ _ _
    · exact wf_setRoleCursor (Wf.modifyReadiness (wf_releaseRun h₁.wf rid)
        (fun e => e.readinessId = r.readinessId && e.status = .acquired)
        (f := fun e => { e with status := .stale }) fun _ => rfl) _ _ _
  · rw [if_neg ha]
    exact signal _ h₁ (hs₁ s₁ hmem)

/-- **A missing run**: its entry is put back into the queue. -/
theorem moves_recoverMissing (hi : s.Intact) (hP : P .plain) (hP' : P (.requeue lease.readinessId)) :
    Moves P s (s.recoverMissingLeaseRun env lease) := by
  unfold recoverMissingLeaseRun
  dsimp only
  have h₁ : Moves P s (s.modifyReadiness
      (fun e => e.readinessId = lease.readinessId && e.status = .acquired)
      fun e => { e with status := .ready }) := by
    refine .of_step hP' ?_ (hi.wf.modifyReadiness _ fun _ => rfl) le_rfl
    have hstep := Ledger.Step.requeue (c := s.ledger) lease.readinessId
    have hmap : (s.ledger.readiness.map fun e =>
        if e.readinessId = lease.readinessId ∧ e.status = .acquired then { e with status := .ready }
        else e) = (s.modifyReadiness
          (fun e => e.readinessId = lease.readinessId && e.status = .acquired)
          fun e => { e with status := .ready }).dispatchReadiness := by
      refine List.map_congr_left fun e _ => ?_
      simp only [Bool.and_eq_true, decide_eq_true_eq]
    rw [hmap] at hstep
    exact hstep
  split_ifs with hs
  · exact h₁.trans ((effect_logSystemSignal (h₁.intact hi) hs hP _ _ _ _ _ _ _).moves hP)
  · exact h₁

/-! ## Every commit -/

/-- The role that a result is fenced with. -/
def commitRole (lease : Lease) (run : DispatchRun) : AgentEnd → Role
  | .result _ => lease.role
  | .failed _ => run.role

/-- A commit that passes the fence. -/
def applyEnd (s : State) (env : Env) (lease : Lease) (run : DispatchRun) (goal : Goal)
    (session : Session) : AgentEnd → Except Err State
  | .result r => match lease.role with
    | .goalManager => s.applyGoalManagerRun env lease run goal session r
    | .workerAgent => .ok (s.applyWorkerRun env lease run r)
  | .failed error => .ok (s.applyDispatchError env lease run goal error)

/-- **A commit that passes the fence puts nothing into the queue.** -/
theorem Committable.retired {run : DispatchRun} {goal : Goal} (h : Committable s lease run goal)
    (hun : s.Unfenced lease.runId run run.role) {session : Session} {agentEnd : AgentEnd}
    (happly : s.applyEnd env lease run goal session agentEnd = .ok s') :
    Retired s.dispatchReadiness s'.dispatchReadiness := by
  have delivered : ∀ {t : State}, Effect (s.releasing lease.runId run) (fun _ => True) s t →
      Retired s.dispatchReadiness ((t.finishRun env lease lease.runId run
        run.role).markSessionMessagesDelivered lease.sessionMessages).dispatchReadiness := by
    intro t he
    obtain ⟨cursors, heq⟩ := markDelivered_eq (t.finishRun env lease lease.runId run run.role)
      lease.sessionMessages
    rw [heq]
    exact he.queue
  cases agentEnd with
  | failed error =>
    obtain ⟨t, he, heq⟩ := @finished_applyDispatchError (fun _ => True) _ env _ _ _ h trivial hun error
    rw [← Except.ok.inj happly, heq]
    exact delivered he
  | result result =>
    unfold applyEnd at happly
    cases hrole : lease.role with
    | goalManager =>
      rw [← h.issued.role, hrole] at hun
      rw [hrole] at happly
      obtain ⟨t, he, rfl⟩ := finished_applyGoalManagerRun (P := fun _ => True) h trivial hun trivial happly
      exact delivered he
    | workerAgent =>
      rw [← h.issued.role, hrole] at hun
      rw [hrole] at happly
      obtain ⟨t, he, heq⟩ := @finished_applyWorkerRun (fun _ => True) _ env _ _ _ h trivial hun result
      rw [← Except.ok.inj happly, heq]
      exact he.queue

/-- The run of a commit is missing, or its result is discarded, or it is applied. -/
theorem commitLoaded_cases {agentEnd : AgentEnd} (h : s.commitLoaded env lease agentEnd = .ok s') :
    (s.dispatchRuns.lookup lease.runId = none ∧ s' = s.recoverMissingLeaseRun env lease) ∨
      ∃ run goal session, s.dispatchRuns.lookup lease.runId = some run ∧
        s.goals.lookup lease.goalId = some goal ∧ s.sessions.lookup lease.sessionId = some session ∧
        ((∃ reason, s.staleDispatchFence lease.runId run (commitRole lease run agentEnd) = some reason ∧
            s' = s.discardStaleResult env lease.runId run (commitRole lease run agentEnd) reason
              agentEnd.output) ∨
          s.staleDispatchFence lease.runId run (commitRole lease run agentEnd) = none ∧
            s.applyEnd env lease run goal session agentEnd = .ok s') := by
  unfold commitLoaded at h
  cases hr : s.dispatchRuns.lookup lease.runId with
  | none =>
    rw [hr] at h
    exact .inl ⟨rfl, (Except.ok.inj h).symm⟩
  | some run =>
    rw [hr] at h
    dsimp only at h
    cases hg : s.goals.lookup lease.goalId with
    | none => simp [hg] at h
    | some goal =>
      cases hsess : s.sessions.lookup lease.sessionId with
      | none => simp [hg, hsess] at h
      | some session =>
        simp only [hg, hsess] at h
        refine .inr ⟨run, goal, session, rfl, rfl, rfl, ?_⟩
        cases agentEnd with
        | result r =>
          unfold commitRole applyEnd
          cases hfence : s.staleDispatchFence lease.runId run lease.role with
          | some reason =>
            simp only [hfence] at h
            exact .inl ⟨reason, rfl, (Except.ok.inj h).symm⟩
          | none =>
            simp only [hfence] at h
            refine .inr ⟨rfl, ?_⟩
            cases hrole : lease.role <;> simp only [hrole] at h ⊢ <;> exact h
        | failed error =>
          unfold commitRole applyEnd
          cases hfence : s.staleDispatchFence lease.runId run run.role with
          | some reason =>
            simp only [hfence] at h
            exact .inl ⟨reason, rfl, (Except.ok.inj h).symm⟩
          | none =>
            simp only [hfence] at h
            exact .inr ⟨rfl, h⟩

/-- A result that may complete a Goal: that of a GoalManager run that still holds its lease. -/
def Completing (s : State) (lease : Lease) (agentEnd : AgentEnd) : Prop :=
  ∃ run result, agentEnd = .result result ∧ s.dispatchRuns.lookup lease.runId = some run ∧
    run.leaseState = .acquired ∧ run.role = .goalManager

/-- **The commits on a loaded state.** -/
theorem moves_commitLoaded (hi : s.Intact) (hsound : s.ledger.Sound) (hf : s.ledger.Forwards)
    (hcached : ∀ x, s.cachedLog x = [])
    (hof : ∀ run, s.dispatchRuns.lookup lease.runId = some run → Lease.Of lease run)
    (hP : P .plain) (hP' : P (.release lease.runId))
    {agentEnd : AgentEnd} (hPc : s.Completing lease agentEnd → P (.complete lease.sessionId lease.runId))
    (hPq : s.dispatchRuns.lookup lease.runId = none → P (.requeue lease.readinessId))
    (h : s.commitLoaded env lease agentEnd = .ok s') : Moves P s s' := by
  obtain ⟨hr, rfl⟩ | ⟨run, goal, session, hr, hg, hsess, hcases⟩ := commitLoaded_cases h
  · exact moves_recoverMissing hi hP (hPq hr)
  have hl := hof run hr
  have hc : Committable s lease run goal := ⟨hi, hsound, hf, hcached, hr, hl, hg⟩
  have hrole : commitRole lease run agentEnd = run.role := by
    cases agentEnd with
    | result => exact hl.role
    | failed => rfl
  rw [hrole] at hcases
  obtain ⟨reason, hfence, rfl⟩ | ⟨hfence, happly⟩ := hcases
  · exact moves_discardStaleResult hi (hl.sessionId ▸ hc.current.2) hP hP' hr reason _
  have hun := fence_eq_none.1 hfence
  cases agentEnd with
  | failed error =>
    rw [← Except.ok.inj happly]
    exact moves_applyDispatchError hc hP hP' hun error
  | result result =>
    unfold applyEnd at happly
    cases hrr : lease.role with
    | goalManager =>
      rw [← hl.role, hrr] at hun
      rw [hrr] at happly
      exact moves_applyGoalManagerRun hc hP hP' hun
        (hPc ⟨run, result, rfl, hr, hun.acquired, hun.role⟩) happly
    | workerAgent =>
      rw [← hl.role, hrr] at hun
      rw [hrr] at happly
      rw [← Except.ok.inj happly]
      exact moves_applyWorkerRun hc hP hP' hun result

/-- **A commit is some steps of the ledger.** -/
theorem commit_spec (hs : s.Stored) (hsound : s.ledger.Sound) (hf : s.ledger.Forwards)
    (hof : ∀ run, s.dispatchRuns.lookup lease.runId = some run → Lease.Of lease run)
    (hP : P .plain) (hP' : P (.release lease.runId))
    {agentEnd : AgentEnd} (hPc : s.Completing lease agentEnd → P (.complete lease.sessionId lease.runId))
    (hPq : s.dispatchRuns.lookup lease.runId = none → P (.requeue lease.readinessId))
    (h : s.commitRun env lease agentEnd = .ok s') : Stores P s s' := by
  unfold commitRun at h
  obtain ⟨loaded, hl, h⟩ := Except.bind_eq_ok.1 h
  obtain ⟨t, ht, h⟩ := Except.bind_eq_ok.1 h
  rw [← Except.pure_eq_ok.1 h]
  have hr := hs.load hP hl
  have h₀ : Moves P s loaded := hr.effect.moves hP
  have hruns : loaded.dispatchRuns = s.dispatchRuns := hr.effect.runs
  have hf₀ : loaded.ledger.Forwards :=
    Ledger.Steps.invariant (I := Ledger.Forwards) h₀.steps hf fun _ _ _ hc _ hs => hs.forwards hc
  have h₁ := moves_commitLoaded (h₀.intact hs.good) (h₀.sound hsound) hf₀
    (fun x => by rw [hr.cachedLog]; exact hs.cachedLog x) (by rw [hruns]; exact hof) hP hP'
    (fun hc => hPc (by unfold Completing at hc; rwa [hruns] at hc)) (by rw [hruns]; exact hPq) ht
  exact (h₀.trans h₁).saved hs

end State
end Aize
