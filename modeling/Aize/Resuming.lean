/-
  What the recovery of a runtime leaves behind.

  `Recovers` is what `recoverGoal` does over some Sessions: they hold no lease any more, and
  each of their logs has one entry more, a signal that wakes the GoalManager and every role
  whose run was interrupted (`Resumes`). `recovery_resumes` adds the runs and entries of
  other Goals, and what the next refresh makes of the signals: windows that start at the
  cursors, and so cover what the interrupted runs were given.
-/
import Aize.Rebuildable

namespace Aize
namespace State

variable {s t s₁ s' u : State} {env env' : Env} {sid context : String} {sids : List String}

/-! ## Active Goals -/

/-- An active Session has this incomplete Goal. -/
structure WorksOn (s : State) (sid : String) (goalId : Nat) (goal : Goal) : Prop where
  session : ∃ session, s.sessions.lookup sid = some session ∧ session.active
  current : s.currentGoalForSession sid = some (goalId, goal)
  incomplete : goal.completionState = .incomplete

theorem mem_activeGoals (hw : s.Wf) {g : Nat × Goal} :
    g ∈ s.activeGoals ↔ s.WorksOn g.2.sessionId g.1 g.2 := by
  unfold activeGoals
  rw [List.mem_filter, mem_currentGoals]
  simp only [Bool.and_eq_true, decide_eq_true_eq]
  constructor
  · rintro ⟨⟨-, hc⟩, ⟨hinc, -⟩, hact⟩
    exact ⟨(Option.any_eq_true _ _).1 hact, hc, hinc⟩
  · rintro ⟨⟨session, hs, hact⟩, hc, hinc⟩
    obtain ⟨hl, harch, -⟩ := currentGoalForSession_eq_some hc
    refine ⟨⟨fun hb => hw.blank ?_, hc⟩, ⟨hinc, harch⟩, (Option.any_eq_true _ _).2 ⟨session, hs, hact⟩⟩
    exact hb ▸ (hw.goal _ _ hl).2.1

theorem nodup_activeGoals (s : State) : (s.activeGoals.map fun g => g.2.sessionId).Nodup :=
  (List.filter_sublist.map _).nodup s.nodup_currentGoals

/-- The Sessions that work on something. -/
theorem mem_activeSessions (hw : s.Wf) : sid ∈ s.activeGoals.map (fun g => g.2.sessionId) ↔
    ∃ goalId goal, s.WorksOn sid goalId goal := by
  rw [List.mem_map]
  constructor
  · rintro ⟨g, hg, rfl⟩
    exact ⟨g.1, g.2, (mem_activeGoals hw).1 hg⟩
  · rintro ⟨goalId, goal, h⟩
    have hsid := (currentGoalForSession_eq_some h.current).2.2
    exact ⟨(goalId, goal), (mem_activeGoals hw).2 (hsid.symm ▸ h), hsid⟩

/-! ## One Session -/

/-- The signal that resumes a Session: it wakes the GoalManager and the roles whose runs were
    interrupted, at once. -/
structure Resumes (s : State) (sid : String) (signal : Signal) : Prop where
  type : signal.signalType = "RuntimeRecovered"
  now : signal.availableAfter = .absent
  manager : .goalManager ∈ signal.targetRoles
  runs : ∀ r ∈ s.acquiredRuns, r.2.sessionId = sid → r.2.role ∈ signal.targetRoles

/-- These Sessions have given all leases back, and each was told so once. -/
structure Recovers (s t : State) (sids : List String) : Prop where
  frame : ∃ runs queue p n, t =
    { s with dispatchRuns := runs, dispatchReadiness := queue, pending := p, nextId := n }
  runs : ∀ r, r ∈ t.acquiredRuns ↔ r ∈ s.acquiredRuns ∧ r.2.sessionId ∉ sids
  queue : ∀ e ∈ t.dispatchReadiness, e.status = .acquired →
    e ∈ s.dispatchReadiness ∧ e.sessionId ∉ sids
  fresh : t.SignalsFresh
  silent : ∀ sid, sid ∉ sids → t.log sid = s.log sid
  told : ∀ sid ∈ sids, ∃ e signal, t.log sid = s.log sid ++ [e] ∧ e.body = .systemSignal signal ∧
    s.Resumes sid signal

namespace Recovers

theorem nil (hf : s.SignalsFresh) : Recovers s s [] where
  frame := ⟨_, _, _, _, rfl⟩
  runs r := by simp
  queue e he _ := ⟨he, List.not_mem_nil⟩
  fresh := hf
  silent _ _ := rfl
  told sid h := absurd h List.not_mem_nil

theorem cons (h₁ : Recovers s s₁ [sid]) (h₂ : Recovers s₁ t sids) (hn : sid ∉ sids) :
    Recovers s t (sid :: sids) where
  frame := by
    obtain ⟨r₁, q₁, p₁, n₁, rfl⟩ := h₁.frame
    obtain ⟨r₂, q₂, p₂, n₂, rfl⟩ := h₂.frame
    exact ⟨r₂, q₂, p₂, n₂, rfl⟩
  runs r := by
    rw [h₂.runs, h₁.runs, List.mem_singleton, List.mem_cons, not_or, and_assoc]
  queue e he ha := by
    obtain ⟨he₁, hs₂⟩ := h₂.queue e he ha
    obtain ⟨he₀, hs₁⟩ := h₁.queue e he₁ ha
    exact ⟨he₀, fun hm => (List.mem_cons.1 hm).elim (fun h => hs₁ (h ▸ List.mem_singleton_self _)) hs₂⟩
  fresh := h₂.fresh
  silent x hx := by
    obtain ⟨hne, hx⟩ := not_or.1 (mt List.mem_cons.2 hx)
    exact (h₂.silent x hx).trans (h₁.silent x (by simpa using hne))
  told x hx := by
    by_cases hxs : x = sid
    · subst hxs
      obtain ⟨e, signal, hlog, he⟩ := h₁.told x List.mem_cons_self
      exact ⟨e, signal, (h₂.silent x hn).trans hlog, he⟩
    · obtain ⟨e, signal, hlog, hb, hr⟩ := h₂.told x ((List.mem_cons.1 hx).resolve_left hxs)
      refine ⟨e, signal, ?_, hb, hr.type, hr.now, hr.manager, fun r hr₀ hs => ?_⟩
      · rw [hlog, h₁.silent x (by simpa using hxs)]
      · exact hr.runs r ((h₁.runs r).2 ⟨hr₀, by simpa [hs] using hxs⟩) hs

end Recovers

theorem acquiredRuns_withoutLeases (r : Nat × DispatchRun) :
    r ∈ (s.withoutLeases sid).acquiredRuns ↔ r ∈ s.acquiredRuns ∧ r.2.sessionId ≠ sid := by
  change r ∈ ((s.heldRuns sid).foldl (fun s r => s.interruptRun r.1) s).acquiredRuns ↔ _
  rw [mem_acquiredRuns_interrupt]
  refine and_congr_right fun hr => not_congr ?_
  have hl := mem_acquiredRuns.1 hr
  rw [List.mem_map]
  constructor
  · rintro ⟨x, hx, hid⟩
    obtain ⟨⟨hlx, -⟩, hs⟩ := mem_heldRuns.1 hx
    rw [hid] at hlx
    have hrun : x.2 = r.2 := Option.some.inj (Eq.trans (Eq.symm hlx) hl.1)
    exact hrun ▸ hs
  · exact fun hs => ⟨r, mem_heldRuns.2 ⟨hl, hs⟩, rfl⟩

theorem acquired_withoutLeases {e : Readiness} (he : e ∈ (s.withoutLeases sid).dispatchReadiness)
    (ha : e.status = .acquired) : e ∈ s.dispatchReadiness ∧ e.sessionId ≠ sid := by
  have hq : (s.withoutLeases sid).dispatchReadiness = s.dispatchReadiness.map fun e =>
      if e.sessionId = sid && e.status = .acquired then
        { e with status := if (s.heldRuns sid).any fun r => r.2.readinessId = e.readinessId then .ready
          else .stale }
      else e := by
    unfold withoutLeases
    rw [foldl_interruptRun]
    rfl
  rw [hq] at he
  obtain ⟨x, hx, rfl⟩ := List.mem_map.1 he
  by_cases hc : (decide (x.sessionId = sid) && decide (x.status = .acquired)) = true
  · -- no entry of the Session stays acquired
    rw [if_pos hc] at ha
    dsimp only at ha
    split_ifs at ha
  · rw [if_neg hc] at ha ⊢
    exact ⟨hx, fun hs => hc (by simp [hs, ha])⟩

/-- **The recovery of one Goal.** -/
theorem recovers_recoverGoal (hf : s.SignalsFresh) (g : Nat × Goal) :
    Recovers s (recoverGoal env context s g) [g.2.sessionId] := by
  rw [recoverGoal_eq]
  have hf₁ : (s.withoutLeases g.2.sessionId).SignalsFresh := by
    obtain ⟨runs, queue, h⟩ := s.withoutLeases_frame g.2.sessionId
    rw [h]
    exact hf
  have hlog₁ : (s.withoutLeases g.2.sessionId).log = s.log := by
    obtain ⟨runs, queue, h⟩ := s.withoutLeases_frame g.2.sessionId
    rw [h]
    rfl
  generalize hroles : Role.goalManager :: (((s.heldRuns g.2.sessionId).map fun r =>
    r.2.role).reverse.dedup.reverse).filter (· ≠ .goalManager) = roles
  generalize (if context = "" then runtimeRecoveredBody else context) = body
  have hsig := signalled_logSystemSignal (s.withoutLeases g.2.sessionId) g.2.sessionId
    "RuntimeRecovered" body roles "runtime" env.utcNow.text none .absent
  obtain ⟨e, he⟩ := log_logSystemSignal hf₁ g.2.sessionId "RuntimeRecovered" body roles "runtime"
    env.utcNow.text none .absent
  have hfresh := hsig.fresh hf₁
  obtain ⟨p, n, hframe, -⟩ := hsig.frame
  refine ⟨?_, fun r => ?_, fun x hx ha => ?_, hfresh, fun x hx => ?_, fun x hx => ?_⟩
  · obtain ⟨runs, queue, h⟩ := s.withoutLeases_frame g.2.sessionId
    exact ⟨runs, queue, p, n, by rw [hframe, h]⟩
  · rw [hframe, List.mem_singleton]
    exact acquiredRuns_withoutLeases r
  · rw [hframe] at hx
    obtain ⟨h₁, h₂⟩ := acquired_withoutLeases hx ha
    exact ⟨h₁, by simpa using h₂⟩
  · rw [(he x).1, if_neg (by simpa using hx), List.append_nil, hlog₁]
  · obtain rfl := List.mem_singleton.1 hx
    refine ⟨e, _, by rw [(he _).1, if_pos rfl, hlog₁], (he g.2.sessionId).2.1, rfl, rfl, ?_, ?_⟩
    · rw [← hroles]
      exact List.mem_cons_self
    · intro r hr hs
      rw [← hroles]
      have hheld : r ∈ s.heldRuns g.2.sessionId := mem_heldRuns.2 ⟨mem_acquiredRuns.1 hr, hs⟩
      change r.2.role ∈ Role.goalManager :: _
      rw [List.mem_cons]
      refine or_iff_not_imp_left.2 fun hne => List.mem_filter.2 ⟨?_, by simpa using hne⟩
      rw [List.mem_reverse, List.mem_dedup, List.mem_reverse]
      exact List.mem_map_of_mem hheld

/-- **The recovery of some Goals**, of Sessions of their own. -/
theorem recovers_recoverGoals {goals : List (Nat × Goal)} (hf : s.SignalsFresh)
    (hn : (goals.map fun g => g.2.sessionId).Nodup) :
    Recovers s (goals.foldl (recoverGoal env context) s) (goals.map fun g => g.2.sessionId) := by
  induction goals generalizing s with
  | nil => exact .nil hf
  | cons g goals ih =>
    rw [List.map_cons, List.nodup_cons] at hn
    have h₁ : Recovers s (recoverGoal env context s g) [g.2.sessionId] := recovers_recoverGoal hf g
    exact h₁.cons (ih h₁.fresh hn.2) hn.1

/-! ## The whole recovery -/

/-- The acquired runs and entries of other Goals lose their leases first. -/
def withoutStrays (s : State) : State :=
  ((s.acquiredRuns.filter fun r => r.2.goalId ∉ s.activeGoals.map Prod.fst).foldl
    (fun s r => s.interruptRun r.1) s).modifyReadiness
      (fun e => e.status = .acquired && e.goalId ∉ s.activeGoals.map Prod.fst)
      fun e => { e with status := .stale }

theorem withoutStrays_frame (s : State) : ∃ runs queue,
    s.withoutStrays = { s with dispatchRuns := runs, dispatchReadiness := queue } := by
  unfold withoutStrays
  rw [foldl_interruptRun]
  exact ⟨_, _, rfl⟩

theorem acquiredRuns_withoutStrays (r : Nat × DispatchRun) : r ∈ s.withoutStrays.acquiredRuns ↔
    r ∈ s.acquiredRuns ∧ r.2.goalId ∈ s.activeGoals.map Prod.fst := by
  change r ∈ ((s.acquiredRuns.filter fun r => r.2.goalId ∉ s.activeGoals.map Prod.fst).foldl
    (fun s r => s.interruptRun r.1) s).acquiredRuns ↔ _
  rw [mem_acquiredRuns_interrupt]
  refine and_congr_right fun hr => ?_
  have hl := mem_acquiredRuns.1 hr
  constructor
  · intro hn
    by_contra hg
    exact hn (List.mem_map.2 ⟨r, List.mem_filter.2 ⟨hr, by simpa using hg⟩, rfl⟩)
  · rintro hg hm
    obtain ⟨x, hx, hid⟩ := List.mem_map.1 hm
    obtain ⟨hx, hxg⟩ := List.mem_filter.1 hx
    have hlx := (mem_acquiredRuns.1 hx).1
    rw [hid] at hlx
    rw [Option.some.inj (hlx.symm.trans hl.1)] at hxg
    exact (by simpa using hxg : r.2.goalId ∉ s.activeGoals.map Prod.fst) hg

theorem acquired_withoutStrays {e : Readiness} (he : e ∈ s.withoutStrays.dispatchReadiness)
    (ha : e.status = .acquired) : e ∈ s.dispatchReadiness ∧ e.goalId ∈ s.activeGoals.map Prod.fst := by
  have hq : s.withoutStrays.dispatchReadiness = s.dispatchReadiness.map fun e =>
      if e.status = .acquired && e.goalId ∉ s.activeGoals.map Prod.fst then
        { e with status := .stale }
      else e := by
    unfold withoutStrays
    rw [foldl_interruptRun]
    rfl
  rw [hq] at he
  obtain ⟨x, hx, rfl⟩ := List.mem_map.1 he
  by_cases hc : (decide (x.status = .acquired) &&
      decide (x.goalId ∉ s.activeGoals.map Prod.fst)) = true
  · rw [if_pos hc] at ha
    cases ha
  · rw [if_neg hc] at ha ⊢
    exact ⟨hx, by_contra fun hg => hc (by simpa [ha] using hg)⟩

/-- The work of an active Goal belongs to its Session. -/
theorem activeSession_of_goal (hw : s.Wf) {goalId : Nat} {goal : Goal}
    (hc : s.currentGoalForSession sid = some (goalId, goal))
    (hg : goalId ∈ s.activeGoals.map Prod.fst) : sid ∈ s.activeGoals.map fun g => g.2.sessionId := by
  obtain ⟨g, hm, rfl⟩ := List.mem_map.1 hg
  have hl := (hw.currentGoal.1 ((mem_activeGoals hw).1 hm).current).1
  obtain ⟨hl', hs⟩ := hw.currentGoal.1 hc
  have hgoal : g.2 = goal := Option.some.inj (hl.symm.trans hl')
  refine List.mem_map.2 ⟨g, hm, ?_⟩
  rw [hgoal]
  exact hs

/-- **All leases are taken back**, and every active Goal is resumed once. -/
theorem recovered_spec (hi : s.Intact) (hs : s.ledger.Sound) :
    ∃ t, t = s.activeGoals.foldl (recoverGoal env context) s.withoutStrays ∧
      t.acquiredRuns = [] ∧ (∀ e ∈ t.dispatchReadiness, e.status ≠ .acquired) ∧
      (∃ runs queue p n, t =
        { s with dispatchRuns := runs, dispatchReadiness := queue, pending := p, nextId := n }) ∧
      (∀ sid, (∀ goalId goal, ¬s.WorksOn sid goalId goal) → t.log sid = s.log sid) ∧
      ∀ sid goalId goal, s.WorksOn sid goalId goal → ∃ e signal,
        t.log sid = s.log sid ++ [e] ∧ e.body = .systemSignal signal ∧ s.Resumes sid signal := by
  obtain ⟨runs, queue, hframe⟩ := s.withoutStrays_frame
  have hf : s.withoutStrays.SignalsFresh := by
    rw [hframe]
    exact hi.wf.signalsFresh
  have hlog : s.withoutStrays.log = s.log := by
    rw [hframe]
    rfl
  have hrec := @recovers_recoverGoals _ env context _ hf s.nodup_activeGoals
  refine ⟨_, rfl, ?_, fun e he ha => ?_, ?_, fun sid hsid => ?_, fun sid goalId goal hsid => ?_⟩
  · refine List.eq_nil_iff_forall_not_mem.2 fun r hr => ?_
    obtain ⟨hr, hn⟩ := (hrec.runs r).1 hr
    obtain ⟨hr, hg⟩ := (acquiredRuns_withoutStrays r).1 hr
    obtain ⟨goal, hc⟩ := (coherent_of_sound hi hs).run_goal r hr
    exact hn (activeSession_of_goal hi.wf hc hg)
  · obtain ⟨he, hn⟩ := hrec.queue e he ha
    obtain ⟨he, hg⟩ := acquired_withoutStrays he ha
    obtain ⟨goal, -, -, hc⟩ := goal_of_entry hi.wf hs he
    exact hn (activeSession_of_goal hi.wf hc hg)
  · obtain ⟨runs', queue', p, n, h⟩ := hrec.frame
    exact ⟨runs', queue', p, n, by rw [h, hframe]⟩
  · rw [hrec.silent sid fun hm => ?_, hlog]
    obtain ⟨goalId, goal, h⟩ := (mem_activeSessions hi.wf).1 hm
    exact hsid goalId goal h
  · obtain ⟨e, signal, he, hb, hr⟩ := hrec.told sid ((mem_activeSessions hi.wf).2 ⟨goalId, goal, hsid⟩)
    refine ⟨e, signal, by rw [he, hlog], hb, hr.type, hr.now, hr.manager, fun r hm hrs => ?_⟩
    refine hr.runs r ((acquiredRuns_withoutStrays r).2 ⟨hm, ?_⟩) hrs
    -- a run of the Session is one of its Goal
    obtain ⟨goal', hc⟩ := (coherent_of_sound hi hs).run_goal r hm
    rw [hrs, hsid.current] at hc
    have hsess := (currentGoalForSession_eq_some hsid.current).2.2
    refine List.mem_map.2 ⟨(goalId, goal), (mem_activeGoals hi.wf).2 (hsess.symm ▸ hsid), ?_⟩
    exact congrArg Prod.fst (Option.some.inj hc)

/-! ## The refresh that follows -/

/-- Reasons of which one is due at once are not held back. -/
theorem derive_available {entries : List LogEntry} {role : Role} {active : Bool} {e : LogEntry}
    {reason : WakeReason} (he : e ∈ entries) (hw : wakeReason role sid active e = some reason)
    (ha : reason.availableAfter.isAbsent) : ∃ f,
      deriveRoleDispatchReadiness entries role sid active = some f ∧ f.availableAfter = .absent := by
  have hm : reason ∈ entries.filterMap (wakeReason role sid active) :=
    List.mem_filterMap.2 ⟨e, he, hw⟩
  have hlt : (((entries.filterMap (wakeReason role sid active)).map WakeReason.availableAfter).filter
      fun t => !t.isAbsent).length < (entries.filterMap (wakeReason role sid active)).length := by
    rw [← List.length_map (f := WakeReason.availableAfter), List.length_filter_lt_length_iff_exists]
    exact ⟨_, List.mem_map_of_mem hm, by simp [ha]⟩
  unfold deriveRoleDispatchReadiness
  dsimp only
  rw [if_neg (List.ne_nil_of_mem hm)]
  exact ⟨_, rfl, if_pos hlt.ne⟩

/-- A signal wakes the roles it targets. -/
theorem wakeReason_signal {e : LogEntry} {signal : Signal} {role : Role} (active : Bool)
    (hb : e.body = .systemSignal signal) (ht : role ∈ signal.targetRoles)
    (hnow : signal.availableAfter = .absent) : ∃ reason,
      wakeReason role sid active e = some reason ∧ reason.availableAfter.isAbsent := by
  obtain ⟨text, hs⟩ : ∃ text, systemSignalReason e signal role =
      some (reasonOf e .systemSignal text (.strip .absent)) := by
    unfold systemSignalReason
    rw [if_pos ht, hnow]
    exact ⟨_, rfl⟩
  refine ⟨reasonOf e .systemSignal text (.strip .absent), ?_, ?_⟩
  · cases role with
    | goalManager => simpa [wakeReason, goalManagerWakeReason, hb] using hs
    | workerAgent => simpa [wakeReason, workerWakeReason, hb] using hs
  · show (Stamp.strip .absent).isAbsent
    decide

/-- **A role that an unread signal wakes** is ready after a refresh, from its cursor to the end
    of the log, if nothing is acquired. -/
theorem refresh_signalled (hi : t.Intact) (hs : t.ledger.Sound) (hruns : t.acquiredRuns = [])
    (hqueue : ∀ e ∈ t.dispatchReadiness, e.status ≠ .acquired) {goalId : Nat} {goal : Goal}
    {session : Session} {role : Role} (hsess : t.sessions.lookup sid = some session)
    (hact : session.active) (hcur : t.currentGoalForSession sid = some (goalId, goal))
    (hinc : goal.completionState = .incomplete) {e : LogEntry} {signal : Signal}
    (he : e ∈ t.log sid) (hseq : session.roleCursors.get role < e.seq)
    (hb : e.body = .systemSignal signal) (ht : role ∈ signal.targetRoles)
    (hnow : signal.availableAfter = .absent)
    (hwait : ∀ g, (t.refreshDispatchReadiness env).1.currentGoalForSession sid = some g →
      g.2.waiting = none) :
    ∃ x, (t.refreshDispatchReadiness env).1.Selectable env x ∧ x.key = (sid, role) ∧
      x.goalId = goalId ∧ x.fromLogSeq = session.roleCursors.get role + 1 ∧
      (t.log sid).length ≤ x.observedToSeq := by
  obtain ⟨hwoken, -⟩ := woken_expireGoalWaiting t env
  have hm := moves_refresh (P := fun _ => True) hi trivial env
  have hiw : (t.expireGoalWaiting env).1.Intact :=
    ((effect_expireGoalWaiting (P := fun _ => True) hi trivial env).moves trivial).intact hi
  have hiu := hm.intact hi
  have hsu := hm.sound hs
  rw [refresh_fst] at hwait hiu hsu ⊢
  generalize hw : (t.expireGoalWaiting env).1 = w at *
  have hsessw : w.sessions.lookup sid = some session := hwoken.sessions ▸ hsess
  obtain ⟨es, hes, -⟩ := hwoken.log sid
  obtain ⟨F, hF, hcases⟩ := hwoken.currentGoal sid
  rw [hcur, Option.map_some] at hF
  -- the Goal does not wait, so the refresh takes its turn
  have hwaitw : (F goalId goal).waiting = none := by
    refine hwait (goalId, F goalId goal) ?_
    rw [rebuild_eq]
    exact hF
  have hincw : (F goalId goal).completionState = .incomplete := by
    rcases hcases goalId goal with h | h <;> rw [h] <;> exact hinc
  obtain ⟨-, harch, hsid⟩ := currentGoalForSession_eq_some hF
  dsimp only at harch hsid
  have hne : sid ≠ "" := fun hbl =>
    hi.wf.blank (AList.lookup_isSome.1 (by rw [← hbl, hsess]; rfl))
  let p : Turn := ⟨goalId, sid, role⟩
  have hp : p ∈ w.turns := by
    refine mem_turns.2 ⟨(goalId, F goalId goal), mem_currentGoals.2 ⟨?_, ?_⟩, ?_, rfl, hsid.symm⟩
    · rw [hsid]; exact hne
    · rw [hsid]; exact hF
    · have hany : (w.sessions.lookup (F goalId goal).sessionId).any Session.active := by
        rw [hsid, hsessw]
        exact hact
      simp [refreshable, harch, hincw, hwaitw, hany]
  have hrunsw : w.acquiredRuns = [] := hwoken.acquiredRuns.trans hruns
  have hnb : ¬roleBusy w w.queueBefore.1 p := by
    rintro (hbusy | ⟨x, hx, hacq, -⟩)
    · obtain ⟨r, hr, -⟩ := hasAcquiredRoleRun_iff.1 hbusy
      rw [hrunsw] at hr
      exact absurd hr List.not_mem_nil
    · have hxt := (List.mem_filter.1 (mem_queueBefore hx)).1
      rw [hwoken.dispatchReadiness] at hxt
      exact hqueue x hxt (by simpa [Readiness.isAcquired] using hacq)
  -- the signal is unread
  obtain ⟨reason, hreason, habsent⟩ := wakeReason_signal
    (w.activeWorkerRunForSession sid).isSome hb ht hnow
  have hunread : e ∈ w.sessionLogAfterCursor sid
      ((w.sessions.lookup sid).elim 0 fun session => session.roleCursors.get role) := by
    rw [hsessw]
    refine List.mem_filter.2 ⟨?_, decide_eq_true hseq⟩
    rw [hes]
    exact List.mem_append_left _ he
  obtain ⟨f, hf, hfa⟩ := derive_available hunread hreason habsent
  have hav : readinessIsAvailable (newReadiness env 0 p.goalId p.sessionId p.role f) env.time := by
    unfold readinessIsAvailable newReadiness
    rw [hfa]
    rfl
  obtain ⟨x, hx, hitem⟩ := turn_selectable hiw.wf hp hnb hf hav
  have hkey : x.key = (sid, role) := key_of_turn_item hitem
  obtain ⟨h₁, -, h₃⟩ := window_of_fields (hiw.book.numbered sid) hsessw hf
  refine ⟨x, hx, hkey, ?_, ?_, ?_⟩
  · obtain ⟨g, -, -, hc⟩ := goal_of_entry hiu.wf hsu hx.mem
    rw [show x.sessionId = sid from congrArg Prod.fst hkey, rebuild_eq] at hc
    have hcw : w.currentGoalForSession sid = some (x.goalId, g) := hc
    rw [hF] at hcw
    exact (congrArg Prod.fst (Option.some.inj hcw)).symm
  · exact (congrArg Item.fromLogSeq hitem).trans h₁
  · have : x.observedToSeq = f.observedToSeq := congrArg Item.observedToSeq hitem
    rw [this, h₃, hes, List.length_append]
    omega

/-- The role is ready for the Goal, with everything that its acquired run was given. -/
structure ReadyAgain (s u : State) (env : Env) (sid : String) (role : Role) (goalId : Nat)
    (e : Readiness) : Prop where
  selectable : u.Selectable env e
  key : e.key = (sid, role)
  goal : e.goalId = goalId
  window : ∀ r ∈ s.acquiredRuns, r.2.key = (sid, role) →
    e.fromLogSeq ≤ r.2.fromLogSeq ∧ r.2.observedToSeq ≤ e.observedToSeq

/-- Work belongs to the Sessions that a state with the same Goals keeps. -/
theorem worksOn_congr (hw : s.Wf) (hg : s'.goals = s.goals)
    (hv : ∀ x ∈ s.sessions, s'.view x = s.view x) {goalId : Nat} {goal : Goal} :
    s'.WorksOn sid goalId goal ↔ s.WorksOn sid goalId goal := by
  have hcur : s'.currentGoalForSession sid = s.currentGoalForSession sid :=
    congrFun (currentGoal_congr hg) sid
  have hsess : s.currentGoalForSession sid = some (goalId, goal) →
      ((∃ session, s'.sessions.lookup sid = some session ∧ session.active) ↔
        ∃ session, s.sessions.lookup sid = some session ∧ session.active) := by
    intro hc
    obtain ⟨hl, hs⟩ := hw.currentGoal.1 hc
    have hmem : sid ∈ s.sessions := by
      have := (hw.goal _ _ hl).2.1
      rwa [hs] at this
    obtain ⟨v, h⟩ := exists_view hmem
    obtain ⟨session, h₁, h₂, -⟩ := view_eq_some_iff.1 h
    obtain ⟨session', h₁', h₂', -⟩ := view_eq_some_iff.1 ((hv sid hmem).trans h)
    simp [h₁, h₁', h₂, h₂']
  constructor
  · rintro ⟨ha, hc, hinc⟩
    rw [hcur] at hc
    exact ⟨(hsess hc).1 ha, hc, hinc⟩
  · rintro ⟨ha, hc, hinc⟩
    exact ⟨(hsess hc).2 ha, hcur.trans hc, hinc⟩

/-- What the leases of `s` leave behind once they are recovered. -/
structure Recovered (s s' : State) : Prop where
  goals : s'.goals = s.goals
  view : ∀ sid ∈ s.sessions, s'.view sid = s.view sid
  runs : s'.acquiredRuns = []
  queue : ∀ e ∈ s'.dispatchReadiness, e.status ≠ .acquired
  silent : ∀ sid, (∀ goalId goal, ¬s.WorksOn sid goalId goal) → s'.log sid = s.log sid
  told : ∀ sid goalId goal, s.WorksOn sid goalId goal → ∃ e signal,
    s'.log sid = s.log sid ++ [e] ∧ e.body = .systemSignal signal ∧ s.Resumes sid signal

/-- **What the recovery stores.** -/
theorem Sys.Safe.recovered {sys : Sys} (h : sys.Safe)
    (hok : sys.store.recordRuntimeRecoverySignals env context = .ok s') :
    Recovered sys.store s' := by
  have hstored := h.inv.stored
  unfold recordRuntimeRecoverySignals at hok
  obtain ⟨loaded, hl, hok⟩ := Except.bind_eq_ok.1 hok
  have hr : Repair _ (fun _ => True) sys.store loaded := hstored.load trivial hl
  obtain ⟨hi, hsound, -, -⟩ := h.load hl
  obtain ⟨t₀, ht₀, hruns, hqueue, ⟨runs, queue, p, n, hframe⟩, hsilent, htold⟩ :=
    recovered_spec hi hsound
  have hs' : s' = t₀.save := by
    rw [ht₀]
    exact (Except.pure_eq_ok.1 hok).symm
  subst hs'
  -- the load keeps what is worked on, and its runs and logs
  have hworks : ∀ {sid goalId goal}, loaded.WorksOn sid goalId goal ↔
      sys.store.WorksOn sid goalId goal := worksOn_congr hstored.good.wf hr.goals hr.view
  have hloadlog : loaded.log = sys.store.log := log_congr hr.persisted hr.pending
  have hloadruns : loaded.acquiredRuns = sys.store.acquiredRuns := by
    unfold acquiredRuns
    rw [hr.effect.runs]
  refine ⟨?_, fun sid hsid => ?_, hruns, hqueue, fun sid hsid => ?_, fun sid goalId goal hsid => ?_⟩
  · rw [← hr.goals, hframe]
    rfl
  · rw [← hr.view sid hsid, hframe]
    rfl
  · rw [log_save, hsilent sid fun goalId goal hw => hsid goalId goal (hworks.1 hw), hloadlog]
  · obtain ⟨e, signal, he, hb, hres⟩ := htold sid goalId goal (hworks.2 hsid)
    refine ⟨e, signal, by rw [log_save, he, hloadlog], hb, hres.type, hres.now, hres.manager, ?_⟩
    rw [← hloadruns]
    exact hres.runs

/-- A load keeps what the recovery has left. -/
theorem Recovered.load (h : Recovered s s') (hs : s'.Stored) (hl : s'.load env = .ok t) :
    Recovered s t := by
  have hr : Repair _ (fun _ => True) s' t := hs.load trivial hl
  have hlog : t.log = s'.log := log_congr hr.persisted hr.pending
  refine ⟨hr.goals.trans h.goals, fun sid hsid => ?_, ?_, ?_, ?_, ?_⟩
  · have hmem : sid ∈ s'.sessions := by
      obtain ⟨v, hv⟩ := exists_view hsid
      exact mem_of_view ((h.view sid hsid).trans hv)
    exact (hr.view sid hmem).trans (h.view sid hsid)
  · rw [← h.runs]
    unfold acquiredRuns
    rw [hr.effect.runs]
  · rw [hr.queue]
    exact h.queue
  · rw [hlog]
    exact h.silent
  · rw [hlog]
    exact h.told

/-- **The refresh after a recovery** makes the roles ready that the signal wakes. -/
theorem Recovered.refresh (h : Recovered s t) (hi : t.Intact) (hsound : t.ledger.Sound)
    (hwin : s.ledger.Windowed) {goalId : Nat} {goal : Goal} {role : Role}
    (hworks : s.WorksOn sid goalId goal)
    (hwait : ∀ g, (t.refreshDispatchReadiness env).1.currentGoalForSession sid = some g →
      g.2.waiting = none)
    (hrole : role = .goalManager ∨ ∃ r ∈ s.acquiredRuns, r.2.key = (sid, role)) :
    ∃ e, ReadyAgain s (t.refreshDispatchReadiness env).1 env sid role goalId e := by
  obtain ⟨e, signal, hlog, hb, hres⟩ := h.told sid goalId goal hworks
  obtain ⟨⟨session, hsess, hact⟩, hcur, hinc⟩ := hworks
  -- the Session and its Goal are as they were
  have hv : s.view sid = some ⟨session.active, session.roleCursors,
      some ⟨goalId, goal.completionState, goal.completionReason, goal.body⟩⟩ := by
    unfold State.view
    rw [hsess, hcur]
    rfl
  obtain ⟨session', hsess', hact', hcursors, -⟩ :=
    view_eq_some_iff.1 ((h.view sid (mem_of_view hv)).trans hv)
  have hcur' : t.currentGoalForSession sid = some (goalId, goal) :=
    (congrFun (currentGoal_congr h.goals) sid).trans hcur
  -- the signal is numbered after the cursor
  have hseq : e.seq = (s.log sid).length + 1 := by
    have hn : Numbered 0 (t.log sid) := hi.book.numbered sid
    rw [hlog] at hn
    have := (Numbered.of_append hn).2
    simpa [Numbered] using this
  have hcursor : session'.roleCursors.get role < e.seq := by
    have := hwin.cursor sid _ role hv
    rw [hcursors, hseq]
    exact Nat.lt_succ_of_le this
  have htarget : role ∈ signal.targetRoles := by
    rcases hrole with rfl | ⟨r, hr, hk⟩
    · exact hres.manager
    · have := hres.runs r hr (congrArg Prod.fst hk)
      rwa [show r.2.role = role from congrArg Prod.snd hk] at this
  obtain ⟨x, hx, hkey, hgoal, hfrom, hto⟩ := refresh_signalled hi hsound h.runs h.queue hsess'
    (hact'.trans hact) hcur' hinc (by rw [hlog]; simp) hcursor hb htarget hres.now hwait
  refine ⟨x, hx, hkey, hgoal, fun r hr hk => ?_⟩
  obtain ⟨v, g, hv', -, -, hfrom', -, hto'⟩ := hwin.run r.1 r.2 (mem_acquiredRuns.1 hr)
  rw [hk] at hv' hfrom' hto'
  cases hv.symm.trans hv'
  constructor
  · rw [hfrom, hfrom', hcursors]
  · refine hto'.trans ?_
    rw [hlog, List.length_append] at hto
    exact (Nat.le_add_right _ _).trans hto

/-- **The recovery of a runtime**: no run and no entry stays acquired, each active Session with
    an incomplete Goal is told once, and the next refresh makes its GoalManager and every
    interrupted role ready, unless the Goal waits. -/
theorem recovery_resumes {sys : Sys} (h : storeSystem.Reachable sys)
    (hok : sys.store.recordRuntimeRecoverySignals env context = .ok s') :
    s'.acquiredRuns = [] ∧ (∀ e ∈ s'.dispatchReadiness, e.status ≠ .acquired) ∧
      (∀ sid, (∀ goalId goal, ¬sys.store.WorksOn sid goalId goal) →
        s'.log sid = sys.store.log sid) ∧
      (∀ sid goalId goal, sys.store.WorksOn sid goalId goal → ∃ e signal,
        s'.log sid = sys.store.log sid ++ [e] ∧ e.body = .systemSignal signal ∧
          sys.store.Resumes sid signal) ∧
      ∀ env' t, s'.load env' = .ok t → let u := (t.refreshDispatchReadiness env').1
        ∀ sid goalId goal role, sys.store.WorksOn sid goalId goal →
          (∀ g, u.currentGoalForSession sid = some g → g.2.waiting = none) →
          (role = .goalManager ∨ ∃ r ∈ sys.store.acquiredRuns, r.2.key = (sid, role)) →
            ∃ e, ReadyAgain sys.store u env' sid role goalId e := by
  have hsafe := reachable_safe h
  have hrec := Sys.Safe.recovered hsafe hok
  have hspec : Stores (fun _ => True) sys.store s' := recovery_spec hsafe.inv.stored trivial hok
  refine ⟨hrec.runs, hrec.queue, hrec.silent, hrec.told, fun env' t hl => ?_⟩
  intro u sid goalId goal role hworks hwait hrole
  have hm := (hspec.stored.load (P := fun _ => True) trivial hl).effect.moves trivial
  exact (hrec.load hspec.stored hl).refresh (hm.intact hspec.stored.good)
    (hm.sound (hspec.sound hsafe.inv.sound)) hsafe.windowed hworks hwait hrole

/-- A GoalManager that was at work is ready again. -/
theorem recovery_resumes_started : ∃ s' t u,
    (newStore.nexts started).store.recordRuntimeRecoverySignals (clock 3) "" = .ok s' ∧
      s'.load (clock 4) = .ok t ∧ u = (t.refreshDispatchReadiness (clock 4)).1 ∧
      s'.acquiredRuns = [] ∧
      ∃ e, ReadyAgain (newStore.nexts started).store u (clock 4) "a" .goalManager 0 e := by
  have h₁ := ok_getD (x := (newStore.nexts started).store.recordRuntimeRecoverySignals (clock 3) "")
    (by decide +kernel)
  have h₂ := ok_getD (x := (((newStore.nexts started).store.recordRuntimeRecoverySignals (clock 3)
    "").toOption.getD {}).load (clock 4)) (by decide +kernel)
  obtain ⟨hruns, -, -, -, hready⟩ := recovery_resumes (reachable_nexts started) h₁
  have hworks : (∃ session ∈ (newStore.nexts started).store.sessions.lookup "a", session.active) ∧
      ∃ g ∈ (newStore.nexts started).store.currentGoalForSession "a", g.1 = 0 ∧
        g.2.completionState = .incomplete := by
    decide +kernel
  obtain ⟨hact, ⟨_, goal⟩, hcur, rfl, hinc⟩ := hworks
  have hwait : ∀ g ∈ (((((newStore.nexts started).store.recordRuntimeRecoverySignals (clock 3)
      "").toOption.getD {}).load (clock 4)).toOption.getD {} |>.refreshDispatchReadiness
        (clock 4)).1.currentGoalForSession "a", g.2.waiting = none := by
    decide +kernel
  exact ⟨_, _, _, h₁, h₂, rfl, hruns, hready (clock 4) _ h₂ "a" 0 goal .goalManager
    ⟨hact, hcur, hinc⟩ hwait (.inl rfl)⟩

end State
end Aize
