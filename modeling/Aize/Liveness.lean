/-
  The liveness reconciliation (`_reconcile_dispatch_liveness`): what every lease
  acquisition starts with.

  * `Coherent` are the assumptions on the state: a run works on the current Goal of
    its Session, an acquired entry and its run agree, and no role cursor is beyond
    the log;
  * `reconcile_live`: afterwards every active Session of no paused Unit with an
    incomplete Goal that does not wait is queued or running;
  * `reconcile_held`, `reconcile_not_expired`: every acquired entry has its run, and
    no run has expired;
  * `reconcile_fixed`: reconciling again at the same time changes nothing at all.
-/
import Aize.Queue

namespace Aize
namespace State

variable {s s' : State} {env : Env}

/-! ## Acquired runs -/

theorem mem_acquiredRuns {r : Nat × DispatchRun} :
    r ∈ s.acquiredRuns ↔ s.dispatchRuns.lookup r.1 = some r.2 ∧ r.2.leaseState = .acquired := by
  obtain ⟨runId, run⟩ := r
  simp only [acquiredRuns, List.mem_filter, List.mem_map, decide_eq_true_eq]
  refine and_congr_left fun _ => ⟨?_, fun h => ⟨⟨runId, run⟩, ?_, rfl⟩⟩
  · rintro ⟨⟨k, v⟩, h, heq⟩
    cases heq
    simpa [← AList.mem_lookup_iff] using h
  · simpa [← AList.mem_lookup_iff] using h

theorem hasAcquiredRoleRun_iff {sessionId : String} {role : Role} :
    s.hasAcquiredRoleRun sessionId role ↔ ∃ r ∈ s.acquiredRuns, r.2.sessionId = sessionId ∧
      (r.2.role = role ∨ r.2.currentPhase = some role) := by
  simp [hasAcquiredRoleRun]

/-- Interrupting runs touches the runs only. -/
theorem foldl_interruptRun (l : List (Nat × DispatchRun)) (s : State) :
    l.foldl (fun s r => s.interruptRun r.1) s =
      { s with dispatchRuns :=
          l.foldl (fun d r => Dict.modify r.1 DispatchRun.interrupted d) s.dispatchRuns } := by
  induction l generalizing s with
  | nil => rfl
  | cons r l ih => rw [List.foldl_cons, List.foldl_cons, ih]; rfl

/-- **The runs that are acquired after some have been interrupted.** -/
theorem mem_acquiredRuns_interrupt {l : List (Nat × DispatchRun)} {r : Nat × DispatchRun} :
    r ∈ (l.foldl (fun s r => s.interruptRun r.1) s).acquiredRuns ↔
      r ∈ s.acquiredRuns ∧ r.1 ∉ l.map Prod.fst := by
  rw [foldl_interruptRun, mem_acquiredRuns, mem_acquiredRuns]
  simp only
  rw [Dict.lookup_foldl_modify (f := DispatchRun.interrupted) fun _ => rfl]
  by_cases hl : r.1 ∈ l.map Prod.fst
  · rw [if_pos hl]
    refine iff_of_false ?_ (fun h => h.2 hl)
    rintro ⟨h, ha⟩
    obtain ⟨x, -, hx⟩ := Option.map_eq_some_iff.1 h
    rw [← hx] at ha
    cases ha
  · rw [if_neg hl]
    exact ⟨fun h => ⟨h, hl⟩, And.left⟩

theorem mem_acquiredRuns_interruptExpired {now : Int} {r : Nat × DispatchRun} :
    r ∈ (s.interruptExpired now).acquiredRuns ↔
      r ∈ s.acquiredRuns ∧ dispatchLeaseExpired r.2 now = false := by
  unfold interruptExpired
  rw [mem_acquiredRuns_interrupt]
  refine and_congr_right fun hr => ?_
  rw [← not_iff_not, not_not]
  simp only [List.mem_map, List.mem_filter]
  constructor
  · rintro ⟨r', ⟨hr', he⟩, hk⟩
    have : r'.2 = r.2 := by
      have h₁ := (mem_acquiredRuns.1 hr').1
      have h₂ := (mem_acquiredRuns.1 hr).1
      rw [hk, h₂] at h₁
      exact (Option.some.inj h₁).symm
    rw [← this]
    simpa using he
  · exact fun he => ⟨r, ⟨hr, by simpa using he⟩, rfl⟩

/-! ## Waits that are over -/

theorem expireGoalWaitingOf_eq {goalId : Nat} (h : s.wakesWaiting env goalId = false) :
    s.expireGoalWaitingOf env goalId = s := by
  unfold wakesWaiting at h
  unfold expireGoalWaitingOf
  cases hg : s.goals.lookup goalId with
  | none => rfl
  | some goal =>
    rw [hg] at h
    dsimp only at h ⊢
    cases hw : goal.waiting with
    | none => rfl
    | some waiting =>
      cases hs : s.sessions.lookup goal.sessionId with
      | none => rfl
      | some session =>
        rw [hw, hs] at h
        dsimp only at h ⊢
        split_ifs with ha
        · rw [ha, Bool.true_and, Option.isSome_eq_false_iff] at h
          rw [Option.isNone_iff_eq_none.1 h]
        · rfl

/-- A signal wakes no wait. -/
theorem goalWaitingWakeReason_congr {sessionId : String} {waiting : Waiting}
    (h : ∃ es, s'.log sessionId = s.log sessionId ++ es ∧ ∀ e ∈ es, e.isSignal) :
    s'.goalWaitingWakeReason env sessionId waiting = s.goalWaitingWakeReason env sessionId waiting := by
  obtain ⟨es, hes, hsig⟩ := h
  have hany : ∀ P : LogEntry → Bool, (∀ e, e.isSignal → P e = false) →
      (s'.sessionLogAfterCursor sessionId waiting.wakeLogSeq).any P =
        (s.sessionLogAfterCursor sessionId waiting.wakeLogSeq).any P := by
    intro P hP
    unfold sessionLogAfterCursor
    rw [hes, List.filter_append, List.any_append]
    have : (es.filter fun e => decide (waiting.wakeLogSeq < e.seq)).any P = false := by
      rw [List.any_eq_false]
      intro e he
      rw [hP e (hsig e (List.mem_filter.1 he).1)]
      exact Bool.false_ne_true
    rw [this, Bool.or_false]
  have hmsg : ∀ e : LogEntry, e.isSignal → e.message? = none := by
    intro e he
    unfold LogEntry.isSignal at he
    unfold LogEntry.message?
    cases hb : e.body <;> simp_all
  unfold goalWaitingWakeReason
  cases waiting.kind with
  | deadline => rfl
  | event name =>
    simp only
    rw [hany _ fun e he => by rw [hmsg e he]; rfl]
  | child c =>
    simp only
    rw [hany _ fun e he => ?_]
    unfold LogEntry.isSignal at he
    cases hb : e.body <;> simp_all

theorem wakesWaiting_congr {goalId : Nat} (hg : s'.goals.lookup goalId = s.goals.lookup goalId)
    (hs : s'.sessions = s.sessions)
    (hl : ∀ sid, ∃ es, s'.log sid = s.log sid ++ es ∧ ∀ e ∈ es, e.isSignal) :
    s'.wakesWaiting env goalId = s.wakesWaiting env goalId := by
  unfold wakesWaiting
  rw [hg, hs]
  cases s.goals.lookup goalId with
  | none => rfl
  | some goal =>
    dsimp only
    cases goal.waiting with
    | none => rfl
    | some waiting =>
      cases s.sessions.lookup goal.sessionId with
      | none => rfl
      | some session =>
        dsimp only
        rw [goalWaitingWakeReason_congr (hl goal.sessionId)]

/-- What ending waits does: some Goals no longer wait, and there are new signals. -/
structure Woken (s s' : State) : Prop where
  frame : ∃ g p n, s' = { s with goals := g, pending := p, nextId := n } ∧ s.nextId ≤ n
  goals : ∃ F : Nat → Goal → Goal, s'.goals = s.goals.mapVals F ∧
    ∀ k g, F k g = g ∨ F k g = { g with waiting := none }
  log : ∀ sid, ∃ es, s'.log sid = s.log sid ++ es ∧ ∀ e ∈ es, e.isSignal
  latest : ∀ sid, s.latestSessionLogSeq sid ≤ s'.latestSessionLogSeq sid
  fresh : s.SignalsFresh → s'.SignalsFresh

namespace Woken

variable {s₁ s₂ : State}

theorem of_signalled (h : Signalled s s') : Woken s s' where
  frame := by
    obtain ⟨p, n, rfl, hn⟩ := h.frame
    exact ⟨s.goals, p, n, rfl, hn⟩
  goals := by
    obtain ⟨p, n, rfl, -⟩ := h.frame
    refine ⟨fun _ g => g, AList.ext ?_, fun _ _ => .inl rfl⟩
    exact (List.map_id s.goals.entries).symm
  log := h.log
  latest := h.latest
  fresh := h.fresh

theorem refl (s : State) : Woken s s := of_signalled (.refl s)

theorem trans (h₁ : Woken s s₁) (h₂ : Woken s₁ s₂) : Woken s s₂ where
  frame := by
    obtain ⟨g₁, p₁, n₁, rfl, hn₁⟩ := h₁.frame
    obtain ⟨g₂, p₂, n₂, rfl, hn₂⟩ := h₂.frame
    exact ⟨g₂, p₂, n₂, rfl, hn₁.trans hn₂⟩
  goals := by
    obtain ⟨F₁, hF₁, hw₁⟩ := h₁.goals
    obtain ⟨F₂, hF₂, hw₂⟩ := h₂.goals
    refine ⟨fun k g => F₂ k (F₁ k g), ?_, fun k g => ?_⟩
    · rw [hF₂, hF₁]
      exact AList.ext (by simp [Dict.mapVals])
    · dsimp only
      rcases hw₁ k g with h | h <;> rw [h]
      · exact hw₂ k g
      · exact .inr ((hw₂ k _).elim id id)
  log sid := by
    obtain ⟨es₁, he₁, hs₁⟩ := h₁.log sid
    obtain ⟨es₂, he₂, hs₂⟩ := h₂.log sid
    refine ⟨es₁ ++ es₂, by rw [he₂, he₁, List.append_assoc], fun e he => ?_⟩
    exact (List.mem_append.1 he).elim (hs₁ e) (hs₂ e)
  latest sid := (h₁.latest sid).trans (h₂.latest sid)
  fresh h := h₂.fresh (h₁.fresh h)

theorem sessions (h : Woken s s') : s'.sessions = s.sessions := by
  obtain ⟨g, p, n, rfl, -⟩ := h.frame; rfl

theorem units (h : Woken s s') : s'.units = s.units := by
  obtain ⟨g, p, n, rfl, -⟩ := h.frame; rfl

theorem acquiredRuns (h : Woken s s') : s'.acquiredRuns = s.acquiredRuns := by
  obtain ⟨g, p, n, rfl, -⟩ := h.frame; rfl

theorem dispatchReadiness (h : Woken s s') : s'.dispatchReadiness = s.dispatchReadiness := by
  obtain ⟨g, p, n, rfl, -⟩ := h.frame; rfl

/-- The current Goals are the same, but for waits that have ended. -/
theorem currentGoal (h : Woken s s') (sid : String) :
    ∃ F : Nat → Goal → Goal,
      s'.currentGoalForSession sid = (s.currentGoalForSession sid).map (fun g => (g.1, F g.1 g.2)) ∧
      ∀ k g, F k g = g ∨ F k g = { g with waiting := none } := by
  obtain ⟨F, hF, hw⟩ := h.goals
  refine ⟨F, currentGoalForSession_mapVals hF (fun k g => ?_) sid, hw⟩
  rcases hw k g with h | h <;> rw [h] <;> exact ⟨rfl, rfl, rfl⟩

/-- A wait that was not over is not over. -/
theorem wakesWaiting (h : Woken s s') {goalId : Nat} (hw : s.wakesWaiting env goalId = false) :
    s'.wakesWaiting env goalId = false := by
  obtain ⟨F, hF, hcases⟩ := h.goals
  have hlook : s'.goals.lookup goalId = (s.goals.lookup goalId).map (F goalId) := by
    rw [hF, Dict.lookup_mapVals]
  cases hg : s.goals.lookup goalId with
  | none =>
    rw [← hw]
    exact wakesWaiting_congr (by rw [hlook, hg]; rfl) h.sessions h.log
  | some goal =>
    rcases hcases goalId goal with h' | h'
    · rw [← hw]
      exact wakesWaiting_congr (by rw [hlook, hg, Option.map_some, h']) h.sessions h.log
    · unfold State.wakesWaiting
      rw [hlook, hg, Option.map_some, h']

end Woken

theorem woken_expireGoalWaitingOf (s : State) (env : Env) (goalId : Nat) :
    Woken s (s.expireGoalWaitingOf env goalId) ∧
      (s.expireGoalWaitingOf env goalId).wakesWaiting env goalId = false := by
  cases hw : s.wakesWaiting env goalId with
  | false =>
    rw [expireGoalWaitingOf_eq hw]
    exact ⟨.refl s, hw⟩
  | true =>
    -- the Goal no longer waits, and its Session gets a signal
    unfold wakesWaiting at hw
    cases hg : s.goals.lookup goalId with
    | none => simp [hg] at hw
    | some goal =>
      cases hwait : goal.waiting with
      | none => simp [hg, hwait] at hw
      | some waiting =>
        cases hs : s.sessions.lookup goal.sessionId with
        | none => simp [hg, hwait, hs] at hw
        | some session =>
          simp only [hg, hwait, hs, Bool.and_eq_true, Option.isSome_iff_exists] at hw
          obtain ⟨ha, reason, hr⟩ := hw
          have heq : s.expireGoalWaitingOf env goalId =
              (s.modifyGoal goalId fun g => { g with waiting := none }).logSystemSignal
                goal.sessionId "GoalWaitingWake" reason [.goalManager] "scheduler"
                env.utcNow.text := by
            unfold expireGoalWaitingOf
            simp [hg, hwait, hs, ha, hr]
          have h₁ : Woken s (s.modifyGoal goalId fun g => { g with waiting := none }) :=
            { frame := ⟨_, s.pending, s.nextId, rfl, le_rfl⟩
              goals := ⟨fun k g => if k = goalId then { g with waiting := none } else g, rfl,
                fun k g => by by_cases hk : k = goalId <;> simp [hk]⟩
              log := fun sid => ⟨[], (List.append_nil _).symm, by simp⟩
              latest := fun _ => le_rfl
              fresh := id }
          have h₂ := Woken.of_signalled (signalled_logSystemSignal
            (s.modifyGoal goalId fun g => { g with waiting := none }) goal.sessionId
            "GoalWaitingWake" reason [.goalManager] "scheduler" env.utcNow.text none .absent)
          rw [heq]
          refine ⟨h₁.trans h₂, h₂.wakesWaiting ?_⟩
          unfold wakesWaiting modifyGoal
          simp [hg]

theorem woken_expireGoalWaiting (s : State) (env : Env) :
    Woken s (s.expireGoalWaiting env).1 ∧
      ∀ goalId ∈ s.currentGoals.map Prod.fst,
        (s.expireGoalWaiting env).1.wakesWaiting env goalId = false := by
  unfold expireGoalWaiting
  suffices ∀ (l : List Nat) (r : State × Bool),
      Woken r.1 (l.foldl (fun r goalId => (r.1.expireGoalWaitingOf env goalId,
        r.2 || r.1.wakesWaiting env goalId)) r).1 ∧
      ∀ goalId ∈ l, (l.foldl (fun r goalId => (r.1.expireGoalWaitingOf env goalId,
        r.2 || r.1.wakesWaiting env goalId)) r).1.wakesWaiting env goalId = false from
    this (s.currentGoals.map Prod.fst) (s, false)
  intro l
  induction l with
  | nil => exact fun r => ⟨.refl _, by simp⟩
  | cons goalId l ih =>
    intro r
    obtain ⟨h₁, h₂⟩ := woken_expireGoalWaitingOf r.1 env goalId
    obtain ⟨h₃, h₄⟩ := ih (r.1.expireGoalWaitingOf env goalId, r.2 || r.1.wakesWaiting env goalId)
    rw [List.foldl_cons]
    refine ⟨h₁.trans h₃, fun x hx => ?_⟩
    rcases List.mem_cons.1 hx with rfl | hx
    · exact h₃.wakesWaiting h₂
    · exact h₄ x hx

/-- Where no wait is over, nothing changes. -/
theorem expireGoalWaiting_eq
    (h : ∀ goalId ∈ s.currentGoals.map Prod.fst, s.wakesWaiting env goalId = false) :
    s.expireGoalWaiting env = (s, false) := by
  unfold expireGoalWaiting
  revert h
  induction s.currentGoals.map Prod.fst with
  | nil => exact fun _ => rfl
  | cons goalId l ih =>
    intro h
    rw [List.foldl_cons, expireGoalWaitingOf_eq (h goalId List.mem_cons_self),
      h goalId List.mem_cons_self, Bool.or_false]
    exact ih fun x hx => h x (List.mem_cons_of_mem _ hx)

/-! ## Coherent states -/

/-- What reconciliation relies on. -/
structure Coherent (s : State) : Prop where
  blank : "" ∉ s.sessions
  run_goal : ∀ r ∈ s.acquiredRuns, ∃ goal, s.currentGoalForSession r.2.sessionId =
    some (r.2.goalId, goal)
  run_entry : ∀ r ∈ s.acquiredRuns, ∀ e ∈ s.dispatchReadiness, e.status = .acquired →
    r.2.readinessId = e.readinessId → r.2.sessionId = e.sessionId ∧ r.2.goalId = e.goalId
  cursor : ∀ sid session, s.sessions.lookup sid = some session →
    session.roleCursors.goalManager ≤ s.latestSessionLogSeq sid
  signals : s.SignalsFresh

/-- Every acquired entry has its run. -/
def Held (s : State) : Prop :=
  ∀ e ∈ s.dispatchReadiness, e.status = .acquired → ∃ r ∈ s.acquiredRuns,
    r.2.readinessId = e.readinessId

/-- No acquired run has expired. -/
def Unexpired (s : State) (now : Int) : Prop :=
  ∀ r ∈ s.acquiredRuns, dispatchLeaseExpired r.2 now = false

/-- No wait is over. -/
def Asleep (s : State) (env : Env) : Prop :=
  ∀ goalId ∈ s.currentGoals.map Prod.fst, s.wakesWaiting env goalId = false

namespace Woken

theorem coherent (h : Woken s s') (hc : s.Coherent) : s'.Coherent where
  blank := h.sessions ▸ hc.blank
  run_goal r hr := by
    rw [h.acquiredRuns] at hr
    obtain ⟨goal, hg⟩ := hc.run_goal r hr
    obtain ⟨F, hF, -⟩ := h.currentGoal r.2.sessionId
    exact ⟨F r.2.goalId goal, by rw [hF, hg]; rfl⟩
  run_entry := by
    rw [h.acquiredRuns, h.dispatchReadiness]
    exact hc.run_entry
  cursor sid session hs := (hc.cursor sid session (h.sessions ▸ hs)).trans (h.latest sid)
  signals := h.fresh hc.signals

theorem held (h : Woken s s') (hh : s.Held) : s'.Held := by
  unfold Held
  rw [h.acquiredRuns, h.dispatchReadiness]
  exact hh

theorem unexpired (h : Woken s s') {now : Int} (hu : s.Unexpired now) : s'.Unexpired now := by
  unfold Unexpired
  rw [h.acquiredRuns]
  exact hu

/-- The Goals that are current are the same ones. -/
theorem currentGoals (h : Woken s s') :
    ∀ goalId ∈ s'.currentGoals.map Prod.fst, goalId ∈ s.currentGoals.map Prod.fst := by
  intro goalId hg
  obtain ⟨g', hg', rfl⟩ := List.mem_map.1 hg
  obtain ⟨hne, hcur⟩ := mem_currentGoals.1 hg'
  obtain ⟨F, hF, -⟩ := h.currentGoal g'.2.sessionId
  rw [hcur] at hF
  obtain ⟨g, hgo, hfst⟩ := Option.map_eq_some_iff.1 hF.symm
  obtain ⟨-, -, hs⟩ := currentGoalForSession_eq_some hgo
  refine List.mem_map.2 ⟨g, mem_currentGoals.2 ⟨hs ▸ hne, hs ▸ hgo⟩, ?_⟩
  rw [← hfst]

theorem asleep (h : Woken s s') (ha : s.Asleep env) : s'.Asleep env :=
  fun goalId hg => h.wakesWaiting (ha goalId (h.currentGoals goalId hg))

end Woken

/-! ## The rebuilt queue -/

/-- The acquired entries of a rebuilt queue were there before. -/
theorem mem_rebuild_acquired {e : Readiness} (he : e ∈ (s.rebuildReadiness env).dispatchReadiness)
    (ha : e.status = .acquired) : e ∈ s.dispatchReadiness := by
  rw [rebuild_eq] at he
  rcases (rebuild_spec s env).mem e he with he | ⟨p, -, hw⟩
  · exact (List.mem_filter.1 (mem_queueBefore he)).1
  · rw [(Readiness.readyFor_iff.1 hw.ready).1] at ha
    cases ha

theorem coherent_rebuild (env : Env) (hc : s.Coherent) : (s.rebuildReadiness env).Coherent where
  blank := by rw [rebuild_eq]; exact hc.blank
  run_goal := by rw [rebuild_eq]; exact hc.run_goal
  run_entry r hr e he ha hid :=
    hc.run_entry r (by rw [rebuild_eq] at hr; exact hr) e (mem_rebuild_acquired he ha) ha hid
  cursor := by rw [rebuild_eq]; exact hc.cursor
  signals sid e he id hid := by
    rw [rebuild_eq] at he ⊢
    exact lt_of_lt_of_le (hc.signals sid e he id hid) (rebuild_spec s env).le

theorem held_rebuild (env : Env) (hh : s.Held) : (s.rebuildReadiness env).Held := by
  intro e he ha
  rw [rebuild_eq]
  exact hh e (mem_rebuild_acquired he ha) ha

theorem unexpired_rebuild (env : Env) {now : Int} (hu : s.Unexpired now) :
    (s.rebuildReadiness env).Unexpired now := by
  rw [rebuild_eq]; exact hu

theorem asleep_rebuild (ha : s.Asleep env) : (s.rebuildReadiness env).Asleep env := by
  rw [rebuild_eq]; exact ha

/-- A queue that a refresh does not change. -/
structure Refreshed (s : State) (env : Env) : Prop where
  rebuilt : s.rebuildReadiness env = s
  asleep : s.Asleep env

namespace Refreshed

theorem queueAfter (h : s.Refreshed env) : (s.queueAfter env).1 = s.dispatchReadiness := by
  have := congrArg State.dispatchReadiness h.rebuilt
  rwa [rebuild_eq] at this

theorem settled (h : s.Refreshed env) {p : Turn} (hp : p ∈ s.turns) :
    Settled s env s.dispatchReadiness p :=
  h.queueAfter ▸ (rebuild_spec s env).settled p hp

theorem live (h : s.Refreshed env) : s.liveEntries = s.dispatchReadiness :=
  List.filter_eq_self.2 fun e he => by
    rw [← h.queueAfter] at he
    simpa using live_queueAfter e he

theorem queueBefore (h : s.Refreshed env) : s.queueBefore.1 = s.dispatchReadiness := by
  have hu : KeyUnique s.dispatchReadiness := h.queueAfter ▸ (rebuild_spec s env).unique
  unfold State.queueBefore
  rw [h.live, deduplicate_eq hu]

theorem refresh_eq (h : s.Refreshed env) : s.refreshDispatchReadiness env = (s, false) := by
  unfold refreshDispatchReadiness
  rw [expireGoalWaiting_eq h.asleep]
  simp [h.rebuilt]

end Refreshed

theorem refresh_fst (s : State) (env : Env) : (s.refreshDispatchReadiness env).1 =
    (s.expireGoalWaiting env).1.rebuildReadiness env := by
  unfold refreshDispatchReadiness
  generalize s.expireGoalWaiting env = r
  cases r
  rfl

/-- **A refresh is complete after one round.** -/
theorem refreshed_refresh (s : State) (env : Env) :
    (s.refreshDispatchReadiness env).1.Refreshed env := by
  obtain ⟨hw, ha⟩ := woken_expireGoalWaiting s env
  rw [refresh_fst]
  generalize (s.expireGoalWaiting env).1 = s₁ at hw ha
  have hasleep : s₁.Asleep env := fun goalId hg => ha goalId (hw.currentGoals goalId hg)
  exact ⟨rebuildReadiness_idem s₁ env, asleep_rebuild hasleep⟩

/-! ## Repairing ownership -/

theorem orphaned_eq_false {acquired : List (Nat × DispatchRun)} {e : Readiness}
    (h : s.orphaned acquired e = false) (he : e.status = .acquired) :
    ∃ r ∈ acquired, r.2.readinessId = e.readinessId ∧ ∃ run, s.dispatchRuns.lookup r.1 = some run ∧
      run.leaseState = .acquired := by
  simp only [orphaned, he, decide_true, Bool.true_and, Bool.not_eq_false'] at h
  obtain ⟨r, hr, hrun⟩ := Option.any_eq_true _ _ |>.1 h
  obtain ⟨run, hlook, ha⟩ := Option.any_eq_true _ _ |>.1 hrun
  have hmem := List.mem_of_find?_eq_some hr
  refine ⟨r, List.mem_reverse.1 hmem, by simpa using List.find?_some hr, run, hlook, by simpa using ha⟩

/-- The states before and after the signals of `repairOwnership`. -/
theorem signalled_repair (s : State) (env : Env) :
    Signalled ((s.interruptExpired env.now).staleOrphans s.acquiredRuns) (s.repairOwnership env) := by
  refine Signalled.foldl (fun s sid => ?_) _ _
  split_ifs
  · exact signalled_logSystemSignal ..
  · exact .refl s

theorem woken_repair (s : State) (env : Env) :
    Woken ((s.interruptExpired env.now).staleOrphans s.acquiredRuns) (s.repairOwnership env) :=
  .of_signalled (signalled_repair s env)

theorem interruptExpired_frame (s : State) (now : Int) :
    ∃ d, s.interruptExpired now = { s with dispatchRuns := d } :=
  ⟨_, foldl_interruptRun _ s⟩

/-- **After the repair no run has expired, and every acquired entry has its run.** -/
theorem repair_spec (s : State) (env : Env) (hc : s.Coherent) :
    (s.repairOwnership env).Coherent ∧ (s.repairOwnership env).Held ∧
      (s.repairOwnership env).Unexpired env.now := by
  obtain ⟨d, hd⟩ := interruptExpired_frame s env.now
  have hruns : ∀ r, r ∈ ((s.interruptExpired env.now).staleOrphans s.acquiredRuns).acquiredRuns ↔
      r ∈ s.acquiredRuns ∧ dispatchLeaseExpired r.2 env.now = false :=
    fun r => mem_acquiredRuns_interruptExpired
  have hentries : ∀ e ∈ ((s.interruptExpired env.now).staleOrphans s.acquiredRuns).dispatchReadiness,
      e.status = .acquired → e ∈ s.dispatchReadiness ∧
        (s.interruptExpired env.now).orphaned s.acquiredRuns e = false := by
    intro e he ha
    obtain ⟨x, hx, rfl⟩ := List.mem_map.1 he
    split_ifs at ha ⊢ with ho
    rw [hd] at hx
    exact ⟨hx, by simpa using ho⟩
  have hw := woken_repair s env
  refine ⟨hw.coherent ⟨?_, fun r hr => ?_, fun r hr e he ha => ?_, ?_, ?_⟩, hw.held fun e he ha => ?_,
    hw.unexpired fun r hr => ((hruns r).1 hr).2⟩
  · rw [hd]; exact hc.blank
  · rw [hd]; exact hc.run_goal r ((hruns r).1 hr).1
  · exact hc.run_entry r ((hruns r).1 hr).1 e (hentries e he ha).1 ha
  · rw [hd]; exact hc.cursor
  · rw [hd]; exact hc.signals
  · -- the holder is still acquired, under the record it had
    obtain ⟨r, hr, hid, run, hlook, hacq⟩ := orphaned_eq_false (hentries e he ha).2 ha
    have hmem : (r.1, run) ∈ (s.interruptExpired env.now).acquiredRuns :=
      mem_acquiredRuns.2 ⟨hlook, hacq⟩
    have hrun : run = r.2 := by
      have h₁ := (mem_acquiredRuns.1 (mem_acquiredRuns_interruptExpired.1 hmem).1).1
      rw [(mem_acquiredRuns.1 hr).1] at h₁
      exact (Option.some.inj h₁).symm
    exact ⟨(r.1, run), (hruns _).2 (mem_acquiredRuns_interruptExpired.1 hmem), hrun ▸ hid⟩

/-- Where nothing is to be repaired, nothing changes. -/
theorem repair_eq (hh : s.Held) (hu : s.Unexpired env.now) :
    s.repairOwnership env = s ∧ s.repairedSessions env.now = [] := by
  have hexp : (s.acquiredRuns.filter fun r => dispatchLeaseExpired r.2 env.now) = [] :=
    List.filter_eq_nil_iff.2 fun r hr => by simp [hu r hr]
  have hint : s.interruptExpired env.now = s := by
    unfold interruptExpired
    rw [hexp]
    rfl
  have horph : ∀ e ∈ s.dispatchReadiness, s.orphaned s.acquiredRuns e = false := by
    intro e he
    unfold orphaned
    by_cases ha : e.status = .acquired
    · obtain ⟨r, hr, hid⟩ := hh e he ha
      have hsome : (holderOf s.acquiredRuns e.readinessId).isSome := by
        unfold holderOf
        rw [List.find?_isSome]
        exact ⟨r, List.mem_reverse.2 hr, by simpa using hid⟩
      obtain ⟨x, hx⟩ := Option.isSome_iff_exists.1 hsome
      have hxm := mem_acquiredRuns.1 (List.mem_reverse.1 (List.mem_of_find?_eq_some hx))
      simp [hx, hxm.1, hxm.2]
    · simp [ha]
  have hrep : s.repairedSessions env.now = [] := by
    unfold repairedSessions
    rw [hexp, hint, List.filter_eq_nil_iff.2 fun e he => by simp [horph e he]]
    rfl
  refine ⟨?_, hrep⟩
  have hmap : (s.dispatchReadiness.map fun e =>
      if s.orphaned s.acquiredRuns e then { e with status := .stale } else e) = s.dispatchReadiness :=
    (List.map_congr_left fun e he => by rw [if_neg (by simp [horph e he])]; rfl).trans (List.map_id _)
  unfold repairOwnership staleOrphans modifyReadiness
  rw [hrep, hint, hmap]
  rfl

/-! ## Goals that are queued or running -/

/-- A role is ready or running for the Goal. -/
def Served (s : State) (goalId : Nat) : Prop :=
  (∃ e ∈ s.dispatchReadiness, e.status = .ready ∧ e.goalId = goalId) ∨
    ∃ r ∈ s.acquiredRuns, r.2.goalId = goalId

theorem mem_liveGoalIds {goalId : Nat} : goalId ∈ s.liveGoalIds ↔
    (∃ e ∈ s.dispatchReadiness, (e.status = .ready ∨ e.status = .acquired) ∧ e.goalId = goalId) ∨
      ∃ r ∈ s.acquiredRuns, r.2.goalId = goalId := by
  simp [liveGoalIds, and_assoc]

theorem Served.mem_liveGoalIds {goalId : Nat} (h : s.Served goalId) : goalId ∈ s.liveGoalIds :=
  State.mem_liveGoalIds.2 (h.imp_left fun ⟨e, he, hr, hg⟩ => ⟨e, he, .inl hr, hg⟩)

theorem served_of_live (hc : s.Coherent) (hh : s.Held) {goalId : Nat}
    (h : goalId ∈ s.liveGoalIds) : s.Served goalId := by
  rcases mem_liveGoalIds.1 h with ⟨e, he, hr | ha, hg⟩ | hr
  · exact .inl ⟨e, he, hr, hg⟩
  · obtain ⟨r, hr, hid⟩ := hh e he ha
    exact .inr ⟨r, hr, (hc.run_entry r hr e he ha hid).2.trans hg⟩
  · exact .inr hr

/-- A busy role of a Session works on its current Goal. -/
theorem live_of_busy (hc : s.Coherent) (hh : s.Held) {p : Turn} {goal : Goal}
    (hcur : s.currentGoalForSession p.sessionId = some (p.goalId, goal))
    (hb : roleBusy s s.dispatchReadiness p) : p.goalId ∈ s.liveGoalIds := by
  have hrun : ∀ r ∈ s.acquiredRuns, r.2.sessionId = p.sessionId → r.2.goalId = p.goalId := by
    intro r hr hs
    obtain ⟨g, hg⟩ := hc.run_goal r hr
    rw [hs, hcur] at hg
    exact (Prod.mk.inj (Option.some.inj hg)).1.symm
  rcases hb with hb | ⟨e, he, ha, hk⟩
  · obtain ⟨r, hr, hs, -⟩ := hasAcquiredRoleRun_iff.1 hb
    exact mem_liveGoalIds.2 (.inr ⟨r, hr, hrun r hr hs⟩)
  · have ha' : e.status = .acquired := by simpa [Readiness.isAcquired] using ha
    obtain ⟨r, hr, hid⟩ := hh e he ha'
    obtain ⟨hs, hg⟩ := hc.run_entry r hr e he ha' hid
    exact mem_liveGoalIds.2 (.inr ⟨r, hr, hrun r hr (hs.trans (congrArg Prod.fst hk))⟩)

/-! ## Signals and the queue -/

theorem derive_eq_none_iff {entries : List LogEntry} {role : Role} {sid : String} {active : Bool} :
    deriveRoleDispatchReadiness entries role sid active = none ↔
      entries.filterMap (wakeReason role sid active) = [] := by
  unfold deriveRoleDispatchReadiness
  dsimp only
  split_ifs with h <;> simp [h]

/-- New signals take no dispatch window away. -/
theorem fields_of_signalled (h : Signalled s s') (sid : String) (role : Role)
    (hf : (s.readinessFieldsFromSessionLog sid role).isSome) :
    (s'.readinessFieldsFromSessionLog sid role).isSome := by
  obtain ⟨es, hes, -⟩ := h.log sid
  obtain ⟨p, n, rfl, -⟩ := h.frame
  rw [← Option.ne_none_iff_isSome] at hf ⊢
  refine fun hn => hf ?_
  unfold readinessFieldsFromSessionLog at hn ⊢
  rw [derive_eq_none_iff] at hn ⊢
  unfold sessionLogAfterCursor at hn ⊢
  rw [hes, List.filter_append, List.filterMap_append, List.append_eq_nil_iff] at hn
  exact hn.1

/-- A signal for the GoalManager, numbered after its cursor, gives it a dispatch window. -/
theorem fields_of_signal {sid : String} {session : Session} (hs : s.sessions.lookup sid = some session)
    {e : LogEntry} (he : e ∈ s.log sid) (hseq : session.roleCursors.goalManager < e.seq)
    {signal : Signal} (hb : e.body = .systemSignal signal) (ht : .goalManager ∈ signal.targetRoles) :
    (s.readinessFieldsFromSessionLog sid .goalManager).isSome := by
  rw [← Option.ne_none_iff_isSome]
  unfold readinessFieldsFromSessionLog
  rw [hs, Ne, derive_eq_none_iff, List.filterMap_eq_nil_iff]
  intro hn
  have := hn e (List.mem_filter.2 ⟨he, decide_eq_true hseq⟩)
  simp [wakeReason, goalManagerWakeReason, systemSignalReason, hb, ht] at this

theorem signalled_signalGaps (s : State) (env : Env) (gaps : List (Nat × Goal)) :
    Signalled s (s.signalGaps env gaps) :=
  Signalled.foldl (fun _ _ => signalled_logSystemSignal ..) _ _

/-- Every gap gets its signal. -/
theorem mem_signalGaps (env : Env) {gaps : List (Nat × Goal)} {g : Nat × Goal} (hg : g ∈ gaps)
    (hf : s.SignalsFresh) : ∃ e ∈ (s.signalGaps env gaps).log g.2.sessionId, ∃ signal,
      e.body = .systemSignal signal ∧ .goalManager ∈ signal.targetRoles ∧
        s.latestSessionLogSeq g.2.sessionId < e.seq := by
  unfold signalGaps
  induction gaps generalizing s with
  | nil => cases hg
  | cons x gaps ih =>
    rw [List.foldl_cons]
    have hstep : Signalled s (s.logSystemSignal x.2.sessionId "SessionLivenessRecovery"
        sessionLivenessRecoveryBody [.goalManager] "dispatcher" env.utcNow.text) :=
      signalled_logSystemSignal ..
    rcases List.mem_cons.1 hg with rfl | hg
    · obtain ⟨e, he⟩ := log_logSystemSignal hf g.2.sessionId "SessionLivenessRecovery"
        sessionLivenessRecoveryBody [.goalManager] "dispatcher" env.utcNow.text none .absent
      obtain ⟨hlog, hb, hseq⟩ := he g.2.sessionId
      obtain ⟨es, hes, -⟩ := (signalled_signalGaps _ env gaps).log g.2.sessionId
      refine ⟨e, ?_, _, hb, by simp [signalOf], by omega⟩
      unfold signalGaps at hes
      rw [hes, hlog, if_pos rfl]
      simp
    · obtain ⟨e, he, signal, hb, ht, hseq⟩ := ih hg (hstep.fresh hf)
      exact ⟨e, he, signal, hb, ht, lt_of_le_of_lt (hstep.latest _) hseq⟩

/-- **A Goal that is queued stays queued**, when the queue is refreshed after some signals. -/
theorem ready_after_signals {u : State} (h : s.Refreshed env) (hsig : Signalled s u) {e : Readiness}
    (he : e ∈ s.dispatchReadiness) (hr : e.status = .ready) :
    ∃ e' ∈ (u.rebuildReadiness env).dispatchReadiness, e'.status = .ready ∧ e'.goalId = e.goalId := by
  have hfields := fun sid role => fields_of_signalled hsig sid role
  obtain ⟨pending, n, rfl, -⟩ := hsig.frame
  set u := { s with pending := pending, nextId := n } with hu
  have hspec := rebuild_spec u env
  have hbefore : u.queueBefore.1 = s.dispatchReadiness := h.queueBefore
  rw [rebuild_eq]
  by_cases hbusy : ∀ p ∈ u.turns, e.readyFor p.sessionId p.role → roleBusy u u.queueBefore.1 p
  · exact ⟨e, hspec.kept e (hbefore ▸ he) hbusy, hr, rfl⟩
  · push Not at hbusy
    obtain ⟨p, hp, hfor, hidle⟩ := hbusy
    -- the turn was idle before the signals, so the entry is as the turn writes it
    have hset := (h.settled (p := p) hp).resolve_left fun hb => hidle (hbefore ▸ hb)
    cases hf : s.readinessFieldsFromSessionLog p.sessionId p.role with
    | none =>
      rw [hf] at hset
      exact absurd hfor (hset e he)
    | some f =>
      rw [hf] at hset
      have hgoal : p.goalId = e.goalId := congrArg Readiness.goalId (hset.2 e he hfor)
      have hset' := (hspec.settled p hp).resolve_left fun hb => hidle (hb.congr
        (hspec.filter _ fun _ _ x hx => isAcquired_of_readyFor hx))
      obtain ⟨f', hf'⟩ := Option.isSome_iff_exists.1 (hfields p.sessionId p.role (by rw [hf]; rfl))
      rw [hf'] at hset'
      obtain ⟨⟨e', he', hfor'⟩, hall⟩ := hset'
      refine ⟨e', he', (Readiness.readyFor_iff.1 hfor').1, ?_⟩
      exact (congrArg Readiness.goalId (hall e' he' hfor')).symm.trans hgoal

/-- The Goal must be queued or running: what a liveness signal is due for. -/
theorem needsLivenessSignal_iff {live : List Nat} {g : Nat × Goal} :
    s.needsLivenessSignal live g ↔ s.needsLivenessSignal [] g ∧ g.1 ∉ live := by
  simp only [needsLivenessSignal, Bool.and_eq_true, decide_eq_true_eq]
  simp only [List.not_mem_nil, not_false_eq_true, and_true]
  tauto

theorem refreshable_of_needs {g : Nat × Goal} (h : s.needsLivenessSignal [] g) :
    s.refreshable g.2 ∧ ∃ session, s.sessions.lookup g.2.sessionId = some session := by
  simp only [needsLivenessSignal, Bool.and_eq_true, decide_eq_true_eq] at h
  obtain ⟨⟨⟨⟨ha, hi⟩, hs⟩, -⟩, hw⟩ := h
  obtain ⟨session, hl, hact⟩ := Option.any_eq_true _ _ |>.1 hs
  rw [Bool.and_eq_true] at hact
  refine ⟨?_, session, hl⟩
  simp [refreshable, ha, hi, hw, hl, hact.1]

/-- **A Goal that is not queued and not running is queued by its signal.** -/
theorem ready_after_signal {u : State} (hc : s.Coherent) (hh : s.Held)
    (h : s.Refreshed env) {g : Nat × Goal} (hg : g ∈ s.livenessGaps)
    (hu : u = s.signalGaps env s.livenessGaps) :
    ∃ e ∈ (u.rebuildReadiness env).dispatchReadiness, e.status = .ready ∧ e.goalId = g.1 := by
  obtain ⟨hcur, hneeds⟩ := List.mem_filter.1 hg
  obtain ⟨hneeds, hlive⟩ := needsLivenessSignal_iff.1 hneeds
  obtain ⟨hrefr, session, hs⟩ := refreshable_of_needs hneeds
  obtain ⟨-, hcurrent⟩ := mem_currentGoals.1 hcur
  obtain ⟨e₀, he₀, signal, hb, ht, hseq⟩ := mem_signalGaps env hg hc.signals
  have hsig : Signalled s u := hu ▸ signalled_signalGaps s env _
  rw [← hu] at he₀
  have hfields : (u.readinessFieldsFromSessionLog g.2.sessionId .goalManager).isSome := by
    obtain ⟨p, n, rfl, -⟩ := hsig.frame
    exact fields_of_signal hs he₀ (lt_of_le_of_lt (hc.cursor _ _ hs) hseq) hb ht
  clear hu
  obtain ⟨pending, n, rfl, -⟩ := hsig.frame
  set u := { s with pending := pending, nextId := n }
  have hspec := rebuild_spec u env
  have hbefore : u.queueBefore.1 = s.dispatchReadiness := h.queueBefore
  let p : Turn := ⟨g.1, g.2.sessionId, .goalManager⟩
  have hp : p ∈ u.turns := mem_turns.2 ⟨g, hcur, hrefr, rfl, rfl⟩
  have hidle : ¬roleBusy u u.queueBefore.1 p := by
    rw [hbefore]
    exact fun hbusy => hlive (live_of_busy hc hh (p := p) hcurrent hbusy)
  have hset := (hspec.settled p hp).resolve_left fun hb => hidle (hb.congr
    (hspec.filter _ fun _ _ x hx => isAcquired_of_readyFor hx))
  obtain ⟨f, hf⟩ := Option.isSome_iff_exists.1 hfields
  rw [hf] at hset
  obtain ⟨⟨e, he, hfor⟩, hall⟩ := hset
  rw [rebuild_eq]
  refine ⟨e, he, (Readiness.readyFor_iff.1 hfor).1, ?_⟩
  exact (congrArg Readiness.goalId (hall e he hfor)).symm

/-! ## Reconciliation -/

/-- What reconciliation establishes. -/
structure Live (s : State) (env : Env) : Prop where
  coherent : s.Coherent
  held : s.Held
  unexpired : s.Unexpired env.now
  refreshed : s.Refreshed env
  served : ∀ g ∈ s.currentGoals, s.needsLivenessSignal [] g → s.Served g.1

theorem live_of_gaps_nil (hc : s.Coherent) (hh : s.Held) (hu : s.Unexpired env.now)
    (hr : s.Refreshed env) (hgaps : s.livenessGaps = []) : s.Live env := by
  refine ⟨hc, hh, hu, hr, fun g hg hn => ?_⟩
  by_contra hserved
  have : g ∈ s.livenessGaps := List.mem_filter.2 ⟨hg, needsLivenessSignal_iff.2 ⟨hn, fun hl =>
    hserved (served_of_live hc hh hl)⟩⟩
  rw [hgaps] at this
  cases this

theorem gaps_nil_of_live (h : s.Live env) : s.livenessGaps = [] := by
  refine List.filter_eq_nil_iff.2 fun g hg hn => ?_
  obtain ⟨hn, hl⟩ := needsLivenessSignal_iff.1 hn
  exact hl (h.served g hg hn).mem_liveGoalIds

theorem live_after_signals (hc : s.Coherent) (hh : s.Held) (hu : s.Unexpired env.now)
    (hr : s.Refreshed env) :
    ((s.signalGaps env s.livenessGaps).refreshDispatchReadiness env).1.Live env := by
  have hsig := signalled_signalGaps s env s.livenessGaps
  have hw := Woken.of_signalled hsig
  have hasleep := hw.asleep hr.asleep
  have href := refreshed_refresh (s.signalGaps env s.livenessGaps) env
  rw [refresh_fst, expireGoalWaiting_eq hasleep] at href ⊢
  refine ⟨coherent_rebuild env (hw.coherent hc), held_rebuild env (hw.held hh),
    unexpired_rebuild env (hw.unexpired hu), href, fun g hg hn => ?_⟩
  have hframe : ∃ q p n, (s.signalGaps env s.livenessGaps).rebuildReadiness env =
      { s with dispatchReadiness := q, pending := p, nextId := n } := by
    obtain ⟨p, n, h, -⟩ := hsig.frame
    rw [h, rebuild_eq]
    exact ⟨_, p, _, rfl⟩
  have hg' : g ∈ s.currentGoals := by
    obtain ⟨q, p, n, h⟩ := hframe
    rw [h] at hg
    exact hg
  have hn' : s.needsLivenessSignal [] g := by
    obtain ⟨q, p, n, h⟩ := hframe
    rw [h] at hn
    exact hn
  by_cases hl : g.1 ∈ s.liveGoalIds
  · rcases served_of_live hc hh hl with ⟨e, he, hre, hge⟩ | ⟨r, hrun, hgr⟩
    · obtain ⟨e', he', hre', hge'⟩ := ready_after_signals hr hsig he hre
      exact .inl ⟨e', he', hre', hge'.trans hge⟩
    · refine .inr ⟨r, ?_, hgr⟩
      obtain ⟨q, p, n, h⟩ := hframe
      rw [h]
      exact hrun
  · exact .inl (ready_after_signal hc hh hr
      (List.mem_filter.2 ⟨hg', needsLivenessSignal_iff.2 ⟨hn', hl⟩⟩) rfl)

theorem reconcile_fst (s : State) (env : Env) : (s.reconcileDispatchLiveness env).1 =
    let s₂ := ((s.repairOwnership env).refreshDispatchReadiness env).1
    if s₂.livenessGaps = [] then s₂
    else ((s₂.signalGaps env s₂.livenessGaps).refreshDispatchReadiness env).1 := by
  unfold reconcileDispatchLiveness
  generalize (s.repairOwnership env).refreshDispatchReadiness env = r
  obtain ⟨s₂, b⟩ := r
  dsimp only
  by_cases h : s₂.livenessGaps = []
  · rw [if_pos h, if_pos h]
  · rw [if_neg h, if_neg h]

/-- **The liveness invariant**: what holds after a reconciliation. -/
theorem reconcile_live (s : State) (env : Env) (hc : s.Coherent) :
    (s.reconcileDispatchLiveness env).1.Live env := by
  obtain ⟨hc₁, hh₁, hu₁⟩ := repair_spec s env hc
  obtain ⟨hw, -⟩ := woken_expireGoalWaiting (s.repairOwnership env) env
  have hc₂ := coherent_rebuild env (hw.coherent hc₁)
  have hh₂ := held_rebuild env (hw.held hh₁)
  have hu₂ := unexpired_rebuild env (hw.unexpired hu₁)
  have hr₂ := refreshed_refresh (s.repairOwnership env) env
  rw [reconcile_fst]
  rw [refresh_fst] at hr₂ ⊢
  dsimp only
  split_ifs with hgaps
  · exact live_of_gaps_nil hc₂ hh₂ hu₂ hr₂ hgaps
  · exact live_after_signals hc₂ hh₂ hu₂ hr₂

/-- **The fixed point**: a reconciliation of a live state changes nothing. -/
theorem reconcile_of_live (h : s.Live env) : s.reconcileDispatchLiveness env = (s, false) := by
  obtain ⟨hrep, hlist⟩ := repair_eq h.held h.unexpired
  unfold reconcileDispatchLiveness
  rw [hrep, hlist, h.refreshed.refresh_eq]
  simp [gaps_nil_of_live h]

end State
end Aize
