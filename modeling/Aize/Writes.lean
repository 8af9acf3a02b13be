/-
  What the writers of a Session do, as effects on the ledger: messages, signals
  and the completion state of its Goal.

  Each writer continues a `Work` on its Session. A state change is dropped when the
  cache has an entry with its key; then the Goal changes without a log entry, which
  is an `unlogged` step of the book.
-/
import Aize.Work

namespace Aize

/-- The entry records a change of a Goal's state. -/
def LogEntry.isStateChange (e : LogEntry) : Bool :=
  match e.body with
  | .goalStateChanged _ => true
  | _ => false

namespace LogEntry

variable {e : LogEntry}

theorem isQuiet_of_signal (h : e.isSignal) : e.isQuiet := by
  unfold isSignal at h
  unfold isQuiet
  cases hb : e.body <;> simp_all

theorem isStateChange_of_signal (h : e.isSignal) : e.isStateChange = false := by
  unfold isSignal at h
  unfold isStateChange
  cases hb : e.body <;> simp_all

end LogEntry

namespace State

variable {run : Nat → Option DispatchRun} {P : Label → Prop} {s₀ s : State} {sid : String}
  {es : List LogEntry}

/-! ## Current Goals -/

theorem view_congr {s s' : State} (hs : s'.sessions = s.sessions) (hg : s'.goals = s.goals) (x : String) :
    s'.view x = s.view x := by
  unfold view
  rw [hs, currentGoal_congr hg]

theorem mem_log_of_cached {e : LogEntry} (h : e ∈ s.cachedLog sid) : e ∈ s.log sid := by
  unfold cachedLog at h
  split_ifs at h
  · exact h
  · exact List.mem_append_right _ h

theorem view_putSessionMessage {x fromEndpoint toEndpoint createdAt : String} {payload : Payload} :
    (s.putSessionMessage x fromEndpoint toEndpoint payload createdAt).1.view = s.view := by
  refine (view_modifySession x (f := fun session => { session with updatedAt := createdAt })
    fun _ => ⟨rfl, rfl⟩).trans (funext fun y => ?_)
  exact view_congr (s := s.newId.2) sessions_append goals_append y

theorem goals_logSystemSignal {x signalType body actor createdAt : String} {targetRoles : List Role}
    {runId : Option Nat} {availableAfter : Stamp} :
    (s.logSystemSignal x signalType body targetRoles actor createdAt runId availableAfter).goals =
      s.goals := goals_append

theorem goals_putSessionMessage {x fromEndpoint toEndpoint createdAt : String} {payload : Payload} :
    (s.putSessionMessage x fromEndpoint toEndpoint payload createdAt).1.goals = s.goals := goals_append

/-! ## Signals and messages -/

namespace Work

/-- A signal. -/
theorem logSystemSignal (h : Work run s₀ s sid es) (hn : Numbered 0 (s₀.log sid))
    (signalType body : String) (targetRoles : List Role) (actor createdAt : String)
    (runId : Option Nat) (availableAfter : Stamp) : ∃ es',
    Work run s₀ (s.logSystemSignal sid signalType body targetRoles actor createdAt runId
      availableAfter) sid (es ++ es') ∧ ∀ e ∈ es', e.isSignal := by
  refine ⟨_, h.newId.append hn _ _ _ ⟨?_, ?_, ?_, ?_, ?_, ?_⟩ rfl ?_ ?_, fun e he => ?_⟩
  · intro m hm; cases hm
  · intro rid hr; cases hr
  · intro rid hr; cases hr
  · intro id hid; cases hid; exact Nat.lt_succ_self _
  · intro _ _ _ hk; cases hk
  · intro _ _ _ _ _ hk; cases hk
  · intro e he rid hr; rw [List.mem_singleton.1 he] at hr; cases hr
  · intro e he rid hr; rw [List.mem_singleton.1 he] at hr; cases hr
  · rw [mem_appended he]; rfl

/-- A message. User input that names a run names a Worker run. -/
theorem putSessionMessage (h : Work run s₀ s sid es) (hn : Numbered 0 (s₀.log sid))
    (fromEndpoint toEndpoint : String) (payload : Payload) (createdAt : String)
    (hp : payload.userInput → ∀ rid, payload.runId = some rid →
      rid < s.nextId ∧ ∃ r, run rid = some r ∧ r.role = .workerAgent) : ∃ es',
    Work run s₀ (s.putSessionMessage sid fromEndpoint toEndpoint payload createdAt).1 sid (es ++ es') ∧
      ∀ e ∈ es', ∃ m, e.body = .message m ∧ m.payload = payload := by
  refine ⟨_, (h.newId.append hn _ _ _ ⟨?_, ?_, ?_, ?_, ?_, ?_⟩ rfl ?_ ?_).modifySession sid
    fun _ => ⟨rfl, rfl⟩, fun e he => ?_⟩
  · intro m hm; cases hm; exact Nat.lt_succ_self _
  · intro rid hr; cases hr
  · intro rid hr
    simp only [LogEntry.inputRun, newEntry] at hr
    split_ifs at hr with hu
    exact Nat.lt_succ_of_lt (hp hu rid hr).1
  · intro id hid; cases hid
  · intro _ _ _ hk; cases hk
  · intro _ _ _ _ _ hk; cases hk
  · intro e he rid hr; rw [List.mem_singleton.1 he] at hr; cases hr
  · intro e he rid hr
    rw [List.mem_singleton.1 he] at hr
    simp only [LogEntry.inputRun, newEntry] at hr
    split_ifs at hr with hu
    exact (hp hu rid hr).2
  · rw [mem_appended he]; exact ⟨_, rfl, rfl⟩

/-- A revision of the Goal's body. -/
theorem logGoalBodyUpdate (h : Work run s₀ s sid es) (hn : Numbered 0 (s₀.log sid)) (goalId : Nat)
    (previousBody body actor createdAt : String) : ∃ es',
    Work run s₀ (s.logGoalBodyUpdate sid goalId previousBody body actor createdAt) sid (es ++ es') ∧
      ∀ e ∈ es', ∃ goalId previousBody body actor,
        e.body = .goalBodyUpdated goalId previousBody body actor := by
  refine ⟨_, h.newId.append hn _ _ _ ⟨?_, ?_, ?_, ?_, ?_, ?_⟩ rfl ?_ ?_, fun e he => ?_⟩
  · intro m hm; cases hm
  · intro rid hr; cases hr
  · intro rid hr; cases hr
  · intro id hid; cases hid
  · intro _ _ _ hk; cases hk; exact Nat.lt_succ_self _
  · intro _ _ _ _ _ hk; cases hk
  · intro e he rid hr; rw [List.mem_singleton.1 he] at hr; cases hr
  · intro e he rid hr; rw [List.mem_singleton.1 he] at hr; cases hr
  · rw [mem_appended he]; exact ⟨_, _, _, _, rfl⟩

end Work

/-! ## The completion state -/

/-- The key of a state change. -/
def stateKey (goalId : Nat) (t : Transition) : EventKey :=
  .goalState goalId t.createdAt t.completionState t.runId t.actor

/-- A state change is not dropped, if the cache has no similar one. -/
theorem not_duplicate_stateChange {cached : List LogEntry} {n goalId : Nat} {t : Transition}
    (hb : ∀ e ∈ cached, e.Below n) (hno : ∀ e ∈ cached, ∀ tr, e.body = .goalStateChanged tr →
      tr.completionState = t.completionState → tr.runId = t.runId → tr.actor ≠ t.actor) :
    isDuplicate cached (.goalStateChanged t) (some (stateKey goalId t)) = false := by
  simp only [isDuplicate, Bool.false_or, Option.isSome_some, Bool.true_and, List.any_eq_false,
    beq_iff_eq]
  intro e he hk
  obtain ⟨tr, hbody, hst, hrun, hactor⟩ := (hb e he).key _ _ _ _ _ hk
  exact hno e he tr hbody hst hrun hactor

namespace Work

/-- A state change is logged, unless it is dropped. -/
theorem logGoalStateTransition (h : Work run s₀ s sid es) (hn : Numbered 0 (s₀.log sid))
    (goalId : Nat) (t : Transition)
    (hrun : ∀ rid, t.runId = some rid → rid < s.nextId ∧ ∀ r, ¬Holding run rid r) :
    ∃ e : LogEntry, e.body = .goalStateChanged t ∧
      Work run s₀ (s.logGoalStateTransition goalId sid t) sid (es ++
        if isDuplicate (s.cachedLog sid) (.goalStateChanged t) (some (stateKey goalId t)) then []
        else [e]) := by
  have hsid : sid ≠ "" := fun hs => h.wf.blank (hs ▸ h.mem)
  unfold State.logGoalStateTransition
  rw [if_neg hsid]
  refine ⟨_, rfl, h.append hn _ _ _ ⟨?_, ?_, ?_, ?_, ?_, ?_⟩ rfl ?_ ?_⟩
  · intro m hm; cases hm
  · exact fun rid hr => (hrun rid hr).1
  · intro rid hr; cases hr
  · intro id hid; cases hid
  · intro _ _ _ hk; cases hk
  · intro _ _ _ _ _ hk
    cases hk
    exact ⟨t, rfl, rfl, rfl, rfl⟩
  · intro e he rid hr
    rw [List.mem_singleton.1 he] at hr
    exact (hrun rid hr).2
  · intro e he rid hr
    rw [List.mem_singleton.1 he] at hr
    cases hr

end Work

/-- A completion state change before it is logged. -/
def withGoalState (s : State) (goalId : Nat) (goal : Goal) (completionState : CompletionState)
    (reason now : String) : State :=
  let s := s.modifyGoal goalId fun g =>
    { g with completionState := completionState, completionReason := reason }
  let s := match completionState with
    | .complete => s.resolveDispatchReadiness goalId
    | .incomplete => s
  s.modifySession goal.sessionId fun session => { session with updatedAt := now }

theorem applyGoalCompletionState_eq {goalId : Nat} {goal : Goal} {completionState : CompletionState}
    {reason actor : String} {runId : Option Nat} {now : String} {deferGoalManager : Bool} :
    s.applyGoalCompletionState goalId goal completionState reason actor runId now deferGoalManager =
      (s.withGoalState goalId goal completionState reason now).logGoalStateTransition goalId
        goal.sessionId (transitionOf goal completionState reason actor runId now deferGoalManager) :=
  rfl

@[simp] theorem cachedLog_withGoalState {goalId : Nat} {goal : Goal}
    {completionState : CompletionState} {reason now : String} :
    (s.withGoalState goalId goal completionState reason now).cachedLog = s.cachedLog := by
  cases completionState <;> rfl

@[simp] theorem nextId_withGoalState {goalId : Nat} {goal : Goal}
    {completionState : CompletionState} {reason now : String} :
    (s.withGoalState goalId goal completionState reason now).nextId = s.nextId := by
  cases completionState <;> rfl

theorem goals_withGoalState {goalId : Nat} {goal : Goal} {completionState : CompletionState}
    {reason now : String} : (s.withGoalState goalId goal completionState reason now).goals =
      (s.modifyGoal goalId fun g =>
        { g with completionState := completionState, completionReason := reason }).goals := by
  cases completionState <;> rfl

theorem goals_logGoalStateTransition {goalId : Nat} {x : String} {t : Transition} :
    (s.logGoalStateTransition goalId x t).goals = s.goals := by
  unfold logGoalStateTransition
  split_ifs
  · rfl
  · exact goals_append

theorem goals_applyGoalCompletionState {goalId : Nat} {goal : Goal}
    {completionState : CompletionState} {reason actor : String} {runId : Option Nat} {now : String}
    {deferGoalManager : Bool} :
    (s.applyGoalCompletionState goalId goal completionState reason actor runId now
      deferGoalManager).goals = (s.modifyGoal goalId fun g =>
        { g with completionState := completionState, completionReason := reason }).goals := by
  rw [applyGoalCompletionState_eq, goals_logGoalStateTransition, goals_withGoalState]

namespace Work

theorem withGoalState (h : Work run s₀ s sid es) {goalId : Nat} (goal : Goal) {g : Goal}
    (hc : s.currentGoalForSession sid = some (goalId, g)) (completionState : CompletionState)
    (reason now : String) :
    Work run s₀ (s.withGoalState goalId goal completionState reason now) sid es := by
  have h₁ := h.modifyGoal hc (f := fun g =>
    { g with completionState := completionState, completionReason := reason })
    fun _ => ⟨rfl, rfl, rfl⟩
  cases completionState with
  | complete => exact (h₁.retire _ rfl).modifySession _ fun _ => ⟨rfl, rfl⟩
  | incomplete => exact h₁.modifySession _ fun _ => ⟨rfl, rfl⟩

/-- The first half of a completion state change. -/
theorem applyGoalCompletionState (h : Work run s₀ s sid es) (hn : Numbered 0 (s₀.log sid))
    {goalId : Nat} {goal g : Goal} (hc : s.currentGoalForSession sid = some (goalId, g))
    (hs : goal.sessionId = sid) (completionState : CompletionState) (reason actor : String)
    (runId : Option Nat) (now : String) (deferGoalManager : Bool)
    (hrun : ∀ rid, runId = some rid → rid < s.nextId ∧ ∀ r, ¬Holding run rid r) :
    let t := transitionOf goal completionState reason actor runId now deferGoalManager
    let s' := s.applyGoalCompletionState goalId goal completionState reason actor runId now
      deferGoalManager
    (∃ e : LogEntry, e.body = .goalStateChanged t ∧ Work run s₀ s' sid (es ++
      if isDuplicate (s.cachedLog sid) (.goalStateChanged t) (some (stateKey goalId t)) then []
      else [e])) ∧
    s'.currentGoalForSession sid = some (goalId,
      { g with completionState := completionState, completionReason := reason }) := by
  intro t s'
  subst hs
  have h₁ := h.withGoalState goal hc completionState reason now
  obtain ⟨e, he, h₂⟩ := h₁.logGoalStateTransition hn goalId t
    (by rw [nextId_withGoalState]; exact hrun)
  rw [cachedLog_withGoalState] at h₂
  refine ⟨⟨e, he, h₂⟩, ?_⟩
  have hgoals : s'.goals = (s.modifyGoal goalId fun g =>
      { g with completionState := completionState, completionReason := reason }).goals :=
    goals_applyGoalCompletionState
  have hcur := currentGoalForSession_modifyGoal s goalId (f := fun g =>
    { g with completionState := completionState, completionReason := reason })
    (fun _ => ⟨rfl, rfl, rfl⟩) goal.sessionId
  rw [currentGoal_congr hgoals, hcur, hc]
  simp

/-- **The Goal becomes incomplete, and its log says why.** -/
theorem setIncomplete (h : Work run s₀ s sid es) (hn : Numbered 0 (s₀.log sid)) (hP : P .plain)
    {goalId : Nat} {goal g : Goal} (hc : s.currentGoalForSession sid = some (goalId, g))
    (hs : goal.sessionId = sid) (reason actor : String) (runId : Option Nat) (now : String)
    (deferGoalManager : Bool)
    (hrun : ∀ rid, runId = some rid → rid < s.nextId ∧ ∀ r, ¬Holding run rid r)
    (hd : let t := transitionOf goal .incomplete reason actor runId now deferGoalManager
      isDuplicate (s.cachedLog sid) (.goalStateChanged t) (some (stateKey goalId t)) = false) :
    Effect run P s₀ (s.setGoalCompletionState goalId goal .incomplete reason actor runId now
      deferGoalManager) := by
  obtain ⟨⟨e, he, h₁⟩, hc₁⟩ := h.applyGoalCompletionState hn hc hs .incomplete reason actor runId now
    deferGoalManager hrun
  rw [if_neg (by rw [hd]; exact Bool.false_ne_true)] at h₁
  refine h₁.reopen hP hc₁ rfl fun x => ?_
  rw [List.foldl_append, List.foldl_cons, List.foldl_nil]
  simp only [replayGoal, he]
  rfl

/-- The Goal stays incomplete for another reason; the log may not say so. -/
theorem setIncomplete' (h : Work run s₀ s sid es) (hn : Numbered 0 (s₀.log sid)) (hP : P .plain)
    (hP' : P .unlogged) {goalId : Nat} {goal g : Goal}
    (hc : s.currentGoalForSession sid = some (goalId, g)) (hs : goal.sessionId = sid)
    (reason actor : String) (runId : Option Nat) (now : String) (deferGoalManager : Bool)
    (hrun : ∀ rid, runId = some rid → rid < s.nextId ∧ ∀ r, ¬Holding run rid r)
    (hinc₀ : ∃ v g₀, s₀.view sid = some v ∧ v.goal = some g₀ ∧ g₀.completionState = .incomplete)
    (hes : ∀ e ∈ es, e.isRequirement ∨ e.isQuiet) :
    Effect run P s₀ (s.setGoalCompletionState goalId goal .incomplete reason actor runId now
      deferGoalManager) := by
  by_cases hd : isDuplicate (s.cachedLog sid)
      (.goalStateChanged (transitionOf goal .incomplete reason actor runId now deferGoalManager))
      (some (stateKey goalId
        (transitionOf goal .incomplete reason actor runId now deferGoalManager))) = true
  · obtain ⟨⟨e, he, h₁⟩, hc₁⟩ := h.applyGoalCompletionState hn hc hs .incomplete reason actor runId
      now deferGoalManager hrun
    rw [if_pos hd, List.append_nil] at h₁
    exact h₁.unlogged hP hP' hc₁ rfl hinc₀ hes
  · exact h.setIncomplete hn hP hc hs reason actor runId now deferGoalManager hrun (by simpa using hd)

/-- Nothing like this state change is in the cache. -/
theorem not_duplicate (h : Work run s₀ s sid es) (goalId : Nat) (t : Transition)
    (h₀ : ∀ e ∈ s₀.cachedLog sid, ∀ tr, e.body = .goalStateChanged tr → tr.runId ≠ t.runId)
    (hes : ∀ e ∈ es, e.isStateChange = false) :
    isDuplicate (s.cachedLog sid) (.goalStateChanged t) (some (stateKey goalId t)) = false := by
  refine not_duplicate_stateChange (n := s.nextId)
    (fun e he => h.wf.log sid e (mem_log_of_cached he)) fun e he tr hb _ hrun => ?_
  rcases h.cached e he with he | he
  · exact absurd hrun (h₀ e he tr hb)
  · have := hes e he
    simp [LogEntry.isStateChange, hb] at this

end Work

/-! ## Operations on one Session -/

section
variable (hg : s.Good run) (hs : sid ∈ s.sessions) (hP : P .plain)
include hg hs hP

/-- A signal changes nothing but the log. -/
theorem effect_logSystemSignal (signalType body : String) (targetRoles : List Role)
    (actor createdAt : String) (runId : Option Nat) (availableAfter : Stamp) :
    Effect run P s (s.logSystemSignal sid signalType body targetRoles actor createdAt runId
      availableAfter) := by
  obtain ⟨es, hw, hes⟩ := (Work.start run hg.wf hs).logSystemSignal (hg.book.numbered sid)
    signalType body targetRoles actor createdAt runId availableAfter
  refine hw.notes hP ?_ fun e he => LogEntry.isQuiet_of_signal (hes e (by simpa using he))
  exact view_congr sessions_append goals_append sid

/-- So does a message that is no user input. -/
theorem effect_putSessionMessage (fromEndpoint toEndpoint : String) (payload : Payload)
    (createdAt : String) (hp : payload.userInput = false) :
    Effect run P s (s.putSessionMessage sid fromEndpoint toEndpoint payload createdAt).1 := by
  obtain ⟨es, hw, hes⟩ := (Work.start run hg.wf hs).putSessionMessage (hg.book.numbered sid)
    fromEndpoint toEndpoint payload createdAt (by simp [hp])
  refine hw.notes hP ?_ fun e he => ?_
  · exact congrFun (view_putSessionMessage) sid
  · obtain ⟨m, hb, hm⟩ := hes e (by simpa using he)
    simp [LogEntry.isQuiet, hb, hm, hp]

/-- `update_goal` after its checks. -/
theorem effect_reviseGoal (hcached : s.cachedLog sid = []) (env : Env) (body createdBy : String) :
    Effect run P s (s.reviseGoal env sid body createdBy) := by
  have h₀ := Work.start run hg.wf hs
  have hn := hg.book.numbered sid
  unfold reviseGoal
  cases hc : s.currentGoalForSession sid with
  | some c =>
    obtain ⟨goalId, goal⟩ := c
    obtain ⟨-, hgs⟩ := hg.wf.currentGoal.1 hc
    have h₁ := h₀.modifyGoal hc (f := fun g => { g with body := body, createdBy := createdBy })
      fun _ => ⟨rfl, rfl, rfl⟩
    obtain ⟨es, h₂, hes⟩ := h₁.logGoalBodyUpdate hn goalId goal.body body createdBy env.utcNow.text
    have h₃ := h₂.modifySession sid (f := fun session =>
      { session with updatedAt := env.utcNow.text }) fun _ => ⟨rfl, rfl⟩
    refine h₃.setIncomplete hn hP (g := { goal with body := body, createdBy := createdBy }) ?_ hgs
      _ _ _ _ _ (by simp) (h₃.not_duplicate _ _ (by simp [hcached]) ?_)
    · have hgoals : ((s.modifyGoal goalId fun g => { g with body := body, createdBy := createdBy }
          ).logGoalBodyUpdate sid goalId goal.body body createdBy env.utcNow.text |>.modifySession sid
            fun session => { session with updatedAt := env.utcNow.text }).goals =
          (s.modifyGoal goalId fun g => { g with body := body, createdBy := createdBy }).goals :=
        goals_append
      have hcur := currentGoalForSession_modifyGoal s goalId (f := fun g =>
        { g with body := body, createdBy := createdBy }) (fun _ => ⟨rfl, rfl, rfl⟩) sid
      rw [currentGoal_congr hgoals, hcur, hc]
      simp
    · intro e he
      obtain ⟨a, b, c, d, hb⟩ := hes e (by simpa using he)
      simp [LogEntry.isStateChange, hb]
  | none =>
    have h₁ := h₀.createGoal hc body createdBy env.utcNow.text
    have h₂ := h₁.modifySession sid (f := fun session =>
      { session with updatedAt := env.utcNow.text }) fun _ => ⟨rfl, rfl⟩
    refine h₂.setIncomplete hn hP (g := (s.createGoal sid body createdBy env.utcNow.text).2.2) ?_ rfl
      _ _ _ _ _ (by simp) (h₂.not_duplicate _ _ (by simp [hcached]) (by simp))
    exact (currentGoal_createGoal hg.wf hs hc body createdBy env.utcNow.text sid).trans (if_pos rfl)

/-- A message to a Session whose Goal is not complete. User input that names a run names a
    Worker run. -/
theorem effect_putUserInput (hinc : ∀ v g, s.view sid = some v → v.goal = some g →
      g.completionState = .incomplete) (fromEndpoint toEndpoint : String) (payload : Payload)
    (createdAt : String) (hp : ∀ rid, payload.runId = some rid →
      rid < s.nextId ∧ ∃ r, run rid = some r ∧ r.role = .workerAgent) :
    Effect run P s (s.putSessionMessage sid fromEndpoint toEndpoint payload createdAt).1 := by
  obtain ⟨es, hw, hes⟩ := (Work.start run hg.wf hs).putSessionMessage (hg.book.numbered sid)
    fromEndpoint toEndpoint payload createdAt fun _ => hp
  refine hw.keep hP (congrFun view_putSessionMessage sid) hinc fun e he => ?_
  obtain ⟨m, hb, -⟩ := hes e (by simpa using he)
  cases hu : m.payload.userInput with
  | true => exact .inl (by simp [LogEntry.isRequirement, hb, hu])
  | false => exact .inr (by simp [LogEntry.isQuiet, hb, hu])

end

/-- The Goal that `_mark_session_reprocess_needed` has found or made is reopened. -/
theorem Work.reprocess (h : Work run s₀ s sid es) (hn : Numbered 0 (s₀.log sid)) (hP : P .plain)
    (hcached : s₀.cachedLog sid = []) (hes : ∀ e ∈ es, e.isStateChange = false) {goalId : Nat}
    {goal : Goal} (hc : s.currentGoalForSession sid = some (goalId, goal))
    (signalType body actor createdAt reason now : String) (deferGoalManager : Bool) :
    Effect run P s₀ ((if goal.waiting.isSome then
        (s.modifyGoal goalId fun g => { g with waiting := none }).logSystemSignal sid signalType body
          [.goalManager] actor createdAt
      else s).setGoalCompletionState goalId goal .incomplete reason actor none now
        deferGoalManager) := by
  obtain ⟨-, hgs⟩ := h.wf.currentGoal.1 hc
  split_ifs with hwait
  · have h₁ := h.modifyGoal hc (f := fun g => { g with waiting := none }) fun _ => ⟨rfl, rfl, rfl⟩
    obtain ⟨es', h₂, hes'⟩ := h₁.logSystemSignal hn signalType body [.goalManager] actor createdAt
      none .absent
    refine h₂.setIncomplete hn hP (g := { goal with waiting := none }) ?_ hgs _ _ _ _ _ (by simp)
      (h₂.not_duplicate _ _ (by simp [hcached]) fun e he => ?_)
    · have hcur := currentGoalForSession_modifyGoal s goalId (f := fun g =>
        { g with waiting := none }) (fun _ => ⟨rfl, rfl, rfl⟩) sid
      rw [currentGoal_congr goals_logSystemSignal, hcur, hc]
      simp
    · rcases List.mem_append.1 he with he | he
      · exact hes e he
      · exact LogEntry.isStateChange_of_signal (hes' e he)
  · exact h.setIncomplete hn hP hc hgs _ _ _ _ _ (by simp) (h.not_duplicate _ _ (by simp [hcached]) hes)

/-- User input reopens the Goal of its Session, or gives the Session a Goal. -/
theorem effect_userInput (hg : s.Good run) (hs : sid ∈ s.sessions) (hP : P .plain)
    (hcached : s.cachedLog sid = []) (env : Env) (fromEndpoint toEndpoint : String)
    (payload : Payload) (hp : payload.runId = none) (actor createdAt : String)
    (deferGoalManager : Bool) :
    let sent := s.putSessionMessage sid fromEndpoint toEndpoint payload createdAt
    Effect run P s (sent.1.markSessionReprocessNeeded env sid actor
      (userInputReason sent.2.messageId) createdAt deferGoalManager) := by
  intro sent
  have hn := hg.book.numbered sid
  obtain ⟨es, h₁, hes⟩ := (Work.start run hg.wf hs).putSessionMessage hn fromEndpoint
    toEndpoint payload createdAt (by simp [hp])
  have hes' : ∀ e ∈ [] ++ es, e.isStateChange = false := by
    intro e he
    obtain ⟨m, hb, -⟩ := hes e (by simpa using he)
    simp [LogEntry.isStateChange, hb]
  unfold markSessionReprocessNeeded
  cases hc : sent.1.currentGoalForSession sid with
  | some c => exact h₁.reprocess hn hP hcached hes' hc _ _ _ _ _ _ _
  | none =>
    refine (h₁.createGoal hc "Reply to user input sent to this Session." actor createdAt).reprocess
      hn hP hcached hes' ?_ _ _ _ _ _ _ _
    exact (currentGoal_createGoal h₁.wf h₁.mem hc _ _ _ sid).trans (if_pos rfl)

end State
end Aize
