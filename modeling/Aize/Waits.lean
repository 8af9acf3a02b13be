/-
  Bounded waits in a reconciliation.

  A refresh ends the waits that are over and leaves the entries of a waiting Goal as they
  are. So a reconciliation keeps a wait exactly if its wake reason is not there
  (`goal_reconcile`), and keeps the ready entries of every Session and role whose Goal
  it does not rebuild (`filter_reconcile`).
-/
import Aize.Reconciled

namespace Aize
namespace State

variable {s t : State} {env : Env} {goalId : Nat} {goal : Goal} {sid : String}

/-! ## The waits that a refresh ends -/

/-- The Goal after its wait has ended. -/
def endWait (g : Goal) : Goal := { g with waiting := none }

theorem lookup_expireGoalWaitingOf (s : State) (env : Env) (x : Nat) :
    (s.expireGoalWaitingOf env x).goals.lookup goalId =
      if goalId = x ∧ s.wakesWaiting env x then (s.goals.lookup goalId).map endWait
      else s.goals.lookup goalId := by
  cases hw : s.wakesWaiting env x with
  | false => rw [expireGoalWaitingOf_eq hw, if_neg (by simp)]
  | true =>
    unfold wakesWaiting at hw
    unfold expireGoalWaitingOf
    cases hg : s.goals.lookup x with
    | none => simp [hg] at hw
    | some goal =>
      cases hwait : goal.waiting with
      | none => simp [hg, hwait] at hw
      | some waiting =>
        cases hs : s.sessions.lookup goal.sessionId with
        | none => simp [hg, hwait, hs] at hw
        | some session =>
          simp only [hg, hwait, hs, Bool.and_eq_true, Option.isSome_iff_exists] at hw
          obtain ⟨ha, reason, hr⟩ := hw
          simp only [hwait, hs, ha, hr, if_true]
          rw [goals_logSystemSignal, modifyGoal, Dict.lookup_modify]
          by_cases hx : goalId = x
          · rw [if_pos hx, if_pos ⟨hx, trivial⟩, hx]
            rfl
          · rw [if_neg hx, if_neg fun h => hx h.1]

/-- The end of another Goal's wait does not end this one. -/
theorem wakesWaiting_expireGoalWaitingOf {x : Nat} (h : goalId ≠ x) :
    (s.expireGoalWaitingOf env x).wakesWaiting env goalId = s.wakesWaiting env goalId := by
  obtain ⟨hw, -⟩ := woken_expireGoalWaitingOf s env x
  refine wakesWaiting_congr ?_ hw.sessions hw.log
  rw [lookup_expireGoalWaitingOf, if_neg fun hx => h hx.1]

/-- **The waits that end** are those with a wake reason. -/
theorem lookup_expireGoalWaiting (h : goalId ∈ s.currentGoals.map Prod.fst) :
    (s.expireGoalWaiting env).1.goals.lookup goalId =
      if s.wakesWaiting env goalId then (s.goals.lookup goalId).map endWait
      else s.goals.lookup goalId := by
  have hstay : ∀ (l : List Nat) (r : State × Bool), r.1.wakesWaiting env goalId = false →
      (l.foldl (fun r goalId => (r.1.expireGoalWaitingOf env goalId,
        r.2 || r.1.wakesWaiting env goalId)) r).1.goals.lookup goalId = r.1.goals.lookup goalId := by
    intro l
    induction l with
    | nil => exact fun r _ => rfl
    | cons x l ih =>
      intro r hr
      rw [List.foldl_cons, ih _ ((woken_expireGoalWaitingOf r.1 env x).1.wakesWaiting hr),
        lookup_expireGoalWaitingOf, if_neg]
      rintro ⟨rfl, hx⟩
      rw [hr] at hx
      cases hx
  have hall : ∀ (l : List Nat) (r : State × Bool), goalId ∈ l →
      (l.foldl (fun r goalId => (r.1.expireGoalWaitingOf env goalId,
        r.2 || r.1.wakesWaiting env goalId)) r).1.goals.lookup goalId =
        if r.1.wakesWaiting env goalId then (r.1.goals.lookup goalId).map endWait
        else r.1.goals.lookup goalId := by
    intro l
    induction l with
    | nil => exact fun r h => absurd h List.not_mem_nil
    | cons x l ih =>
      intro r h
      rw [List.foldl_cons]
      by_cases hx : goalId = x
      · subst hx
        rw [hstay l _ (woken_expireGoalWaitingOf r.1 env goalId).2, lookup_expireGoalWaitingOf]
        simp
      · rw [ih _ ((List.mem_cons.1 h).resolve_left hx), wakesWaiting_expireGoalWaitingOf hx,
          lookup_expireGoalWaitingOf,
          if_neg (show ¬(goalId = x ∧ r.1.wakesWaiting env x) from fun h => hx h.1)]
  exact hall _ (s, false) h

/-! ## Through a reconciliation -/

/-- The state that the last rebuilding of a reconciliation starts from. -/
def settledLogs (s : State) (env : Env) : State :=
  let s₂ := ((s.repairOwnership env).refreshDispatchReadiness env).1
  if s₂.livenessGaps = [] then ((s.repairOwnership env).expireGoalWaiting env).1
  else s₂.signalGaps env s₂.livenessGaps

theorem reconcile_eq (s : State) (env : Env) :
    (s.reconcileDispatchLiveness env).1 = (s.settledLogs env).rebuildReadiness env := by
  rw [reconcile_fst]
  unfold settledLogs
  dsimp only
  split_ifs with h
  · exact refresh_fst _ _
  · have href := refreshed_refresh (s.repairOwnership env) env
    rw [refresh_fst]
    have hw := Woken.of_signalled (signalled_signalGaps
      ((s.repairOwnership env).refreshDispatchReadiness env).1 env
      ((s.repairOwnership env).refreshDispatchReadiness env).1.livenessGaps)
    rw [expireGoalWaiting_eq (hw.asleep href.asleep)]

/-- A rebuilding changes the queue and the id counter only. -/
theorem goals_rebuild (s : State) (env : Env) : (s.rebuildReadiness env).goals = s.goals := by
  rw [rebuild_eq]
  rfl

theorem sessions_rebuild (s : State) (env : Env) : (s.rebuildReadiness env).sessions = s.sessions := by
  rw [rebuild_eq]
  rfl

theorem frame_of_signalled (h : Signalled s t) : t.goals = s.goals ∧ t.sessions = s.sessions ∧
    t.dispatchReadiness = s.dispatchReadiness := by
  obtain ⟨p, n, rfl, -⟩ := h.frame
  exact ⟨rfl, rfl, rfl⟩

/-- The state in which no wait is left to end. -/
def endedWaits (s : State) (env : Env) : State := ((s.repairOwnership env).expireGoalWaiting env).1

theorem settledLogs_cases (s : State) (env : Env) : s.settledLogs env = s.endedWaits env ∨
    Signalled ((s.endedWaits env).rebuildReadiness env) (s.settledLogs env) := by
  unfold settledLogs endedWaits
  dsimp only
  rw [refresh_fst]
  split_ifs
  · exact .inl rfl
  · exact .inr (signalled_signalGaps ..)

theorem frame_settledLogs (s : State) (env : Env) :
    (s.settledLogs env).goals = (s.endedWaits env).goals ∧
      (s.settledLogs env).sessions = (s.endedWaits env).sessions := by
  rcases settledLogs_cases s env with h | h
  · rw [h]
    exact ⟨rfl, rfl⟩
  · obtain ⟨hg, hs, -⟩ := frame_of_signalled h
    exact ⟨hg.trans (goals_rebuild _ env), hs.trans (sessions_rebuild _ env)⟩

/-- The repairs before the refresh change runs, entries and logs. -/
theorem repairOwnership_frame (s : State) (env : Env) :
    (s.repairOwnership env).goals = s.goals ∧ (s.repairOwnership env).sessions = s.sessions ∧
      (s.repairOwnership env).units = s.units ∧
      ∀ x, ∃ es, (s.repairOwnership env).log x = s.log x ++ es ∧ ∀ e ∈ es, e.isSignal := by
  have hlog := (signalled_repair s env).log
  obtain ⟨p, n, hf, -⟩ := (signalled_repair s env).frame
  obtain ⟨d, hd⟩ := interruptExpired_frame s env.now
  rw [hd] at hf hlog
  generalize s.repairOwnership env = t at hf hlog ⊢
  subst hf
  exact ⟨rfl, rfl, rfl, hlog⟩

theorem wakesWaiting_repair (s : State) (env : Env) :
    (s.repairOwnership env).wakesWaiting env goalId = s.wakesWaiting env goalId := by
  obtain ⟨hg, hs, -, hl⟩ := repairOwnership_frame s env
  exact wakesWaiting_congr (by rw [hg]) hs hl

/-- **The waits that a reconciliation ends** are those with a wake reason. -/
theorem lookup_reconcile (h : goalId ∈ s.currentGoals.map Prod.fst) :
    (s.reconcileDispatchLiveness env).1.goals.lookup goalId =
      if s.wakesWaiting env goalId then (s.goals.lookup goalId).map endWait
      else s.goals.lookup goalId := by
  obtain ⟨hg, -⟩ := repairOwnership_frame s env
  have hcur : (s.repairOwnership env).currentGoals = s.currentGoals := by
    unfold currentGoals currentGoalForSession openGoals
    rw [hg]
  rw [reconcile_eq, goals_rebuild, (frame_settledLogs s env).1, endedWaits,
    lookup_expireGoalWaiting (hcur ▸ h), wakesWaiting_repair, hg]

/-! ## Entries that a reconciliation leaves alone -/

/-- The entry is ready for a Session and role whose Goal is not rebuilt. -/
def Untouched (s : State) (P : Readiness → Bool) : Prop :=
  ∀ e, P e → e.isReady ∧ ∀ p ∈ s.turns, e.key ≠ p.key

theorem turns_congr {s' : State} (hg : s'.goals = s.goals) (hs : s'.sessions = s.sessions) :
    s'.turns = s.turns := by
  unfold turns currentGoals currentGoalForSession openGoals refreshable
  rw [hg, hs]

/-- **A rebuilding leaves them alone.** -/
theorem filter_rebuild {P : Readiness → Bool} (hP : s.Untouched P)
    (hu : KeyUnique s.dispatchReadiness) :
    (s.rebuildReadiness env).dispatchReadiness.filter P = s.dispatchReadiness.filter P := by
  rw [rebuild_eq]
  have hq : s.queueBefore.1 = s.liveEntries :=
    deduplicate_eq (hu.sublist List.filter_sublist)
  have hf := (rebuild_spec s env).filter P fun p hp e he => by
    by_contra hPe
    exact (hP e (by simpa using hPe)).2 p hp (key_of_readyFor he)
  refine hf.trans ?_
  rw [hq]
  unfold liveEntries
  rw [List.filter_filter]
  refine List.filter_congr fun e _ => ?_
  cases hPe : P e with
  | false => rfl
  | true =>
    have hr : e.status = .ready := by simpa [Readiness.isReady] using (hP e hPe).1
    simp [hr]

theorem keyUnique_rebuild (s : State) (env : Env) :
    KeyUnique (s.rebuildReadiness env).dispatchReadiness := by
  rw [rebuild_eq]
  exact (rebuild_spec s env).unique

theorem filter_map_of_fixed {α : Type} {P : α → Bool} {f : α → α} {l : List α}
    (h : ∀ a ∈ l, f a = a ∨ P a = false ∧ P (f a) = false) : (l.map f).filter P = l.filter P := by
  induction l with
  | nil => rfl
  | cons a l ih =>
    have ih := ih fun x hx => h x (List.mem_cons_of_mem _ hx)
    rcases h a List.mem_cons_self with ha | ⟨h₁, h₂⟩
    · rw [List.map_cons, ha, List.filter_cons, List.filter_cons, ih]
    · rw [List.map_cons, List.filter_cons_of_neg (by simp [h₂]), List.filter_cons_of_neg (by simp [h₁]), ih]

/-- The repairs leave ready entries alone. -/
theorem filter_repair {P : Readiness → Bool} (hP : ∀ e, P e → e.isReady) :
    (s.repairOwnership env).dispatchReadiness.filter P = s.dispatchReadiness.filter P := by
  have hdead : ∀ e : Readiness, e.status ≠ .ready → P e = false := by
    intro e he
    by_contra h
    have := hP e (by simpa using h)
    simp [Readiness.isReady, he] at this
  rw [(woken_repair s env).dispatchReadiness]
  obtain ⟨d, hd⟩ := interruptExpired_frame s env.now
  rw [hd]
  refine filter_map_of_fixed fun e _ => ?_
  split_ifs with ho
  · refine .inr ⟨hdead e fun hr => ?_, hdead _ (by simp)⟩
    unfold orphaned at ho
    simp [hr] at ho
  · exact .inl rfl

/-- **A reconciliation leaves them alone**: the ready entries of the Sessions and roles
    whose Goal is not rebuilt at its end. -/
theorem filter_reconcile {P : Readiness → Bool}
    (hP : (s.reconcileDispatchLiveness env).1.Untouched P) (hu : KeyUnique s.dispatchReadiness) :
    (s.reconcileDispatchLiveness env).1.dispatchReadiness.filter P = s.dispatchReadiness.filter P := by
  have hready : ∀ e, P e → e.isReady := fun e he => (hP e he).1
  have hw : Woken (s.repairOwnership env) (s.endedWaits env) := (woken_expireGoalWaiting _ env).1
  have hu₁ : KeyUnique (s.endedWaits env).dispatchReadiness := by
    unfold KeyUnique
    rw [hw.dispatchReadiness, filter_repair fun e he => he]
    exact hu
  have hq₁ : (s.endedWaits env).dispatchReadiness.filter P = s.dispatchReadiness.filter P := by
    rw [hw.dispatchReadiness]
    exact filter_repair hready
  obtain ⟨hg, hs⟩ := frame_settledLogs s env
  rw [reconcile_eq] at hP ⊢
  -- the Goals that are rebuilt are the same at each refresh
  have hP₁ : (s.endedWaits env).Untouched P := fun e he => ⟨hready e he, fun p hp => (hP e he).2 p (by
    rw [turns_congr (goals_rebuild _ env) (sessions_rebuild _ env), turns_congr hg hs]
    exact hp)⟩
  have hP₂ : (s.settledLogs env).Untouched P := fun e he => ⟨hready e he, fun p hp => (hP e he).2 p (by
    rw [turns_congr (goals_rebuild _ env) (sessions_rebuild _ env)]
    exact hp)⟩
  have h₁ := @filter_rebuild _ env _ hP₁ hu₁
  rcases settledLogs_cases s env with h | h
  · rw [h, h₁, hq₁]
  · have hq := (frame_of_signalled h).2.2
    have hu₂ : KeyUnique (s.settledLogs env).dispatchReadiness := by
      rw [hq]
      exact keyUnique_rebuild _ env
    rw [filter_rebuild hP₂ hu₂, hq, h₁, hq₁]

/-! ## The Goals after a reconciliation -/

/-- A reconciliation changes Goals only by ending their waits. -/
theorem goals_reconcile (s : State) (env : Env) : ∃ F : Nat → Goal → Goal,
    (s.reconcileDispatchLiveness env).1.goals = s.goals.mapVals F ∧
      ∀ k g, F k g = g ∨ F k g = endWait g := by
  obtain ⟨F, hF, hcases⟩ := (woken_expireGoalWaiting (s.repairOwnership env) env).1.goals
  refine ⟨F, ?_, hcases⟩
  rw [reconcile_eq, goals_rebuild, (frame_settledLogs s env).1, endedWaits, hF,
    (repairOwnership_frame s env).1]

theorem sessions_reconcile (s : State) (env : Env) :
    (s.reconcileDispatchLiveness env).1.sessions = s.sessions := by
  rw [reconcile_eq, sessions_rebuild, (frame_settledLogs s env).2, endedWaits,
    (woken_expireGoalWaiting _ env).1.sessions, (repairOwnership_frame s env).2.1]

/-- **The current Goal after a reconciliation.** -/
theorem currentGoal_reconcile (hw : s.Wf)
    (h : (s.reconcileDispatchLiveness env).1.currentGoalForSession sid = some (goalId, goal)) :
    ∃ g, s.currentGoalForSession sid = some (goalId, g) ∧
      goal = if s.wakesWaiting env goalId then endWait g else g := by
  obtain ⟨F, hF, hcases⟩ := goals_reconcile s env
  have hsame : ∀ k g, (F k g).archivedAt = g.archivedAt ∧ (F k g).sessionId = g.sessionId ∧
      (F k g).createdAt = g.createdAt := by
    intro k g
    rcases hcases k g with h | h <;> rw [h] <;> exact ⟨rfl, rfl, rfl⟩
  rw [currentGoalForSession_mapVals hF hsame] at h
  obtain ⟨⟨k, g⟩, hg, heq⟩ := Option.map_eq_some_iff.1 h
  cases heq
  refine ⟨g, hg, ?_⟩
  obtain ⟨hl, -, hsid⟩ := currentGoalForSession_eq_some hg
  have hmem : k ∈ s.currentGoals.map Prod.fst := by
    refine List.mem_map.2 ⟨(k, g), mem_currentGoals.2 ⟨fun hb => ?_, hsid ▸ hg⟩, rfl⟩
    have hin := (hw.goal k g hl).2.1
    rw [hb] at hin
    exact hw.blank hin
  have hlook := @lookup_reconcile _ env _ hmem
  rw [hF, Dict.lookup_mapVals, hl] at hlook
  split_ifs with hwake
  · rw [if_pos hwake] at hlook
    exact Option.some.inj hlook
  · rw [if_neg hwake] at hlook
    exact Option.some.inj hlook

end State

/-- In an exclusive ledger no key is ready twice. -/
theorem Ledger.Exclusive.keyUnique {c : Ledger} (h : c.Exclusive) : KeyUnique c.readiness := by
  have hlive : ∀ e : Readiness, e.isReady → e.live := fun e he => by
    have : e.status = .ready := by simpa [Readiness.isReady] using he
    simp [Readiness.live, this]
  refine List.Nodup.map_on (fun a ha b hb hk => ?_) (List.Nodup.filter _ (List.Nodup.of_map _ h.ids))
  obtain ⟨ha, hra⟩ := List.mem_filter.1 ha
  obtain ⟨hb, hrb⟩ := List.mem_filter.1 hb
  exact h.eq_of_id ha hb (h.live a ha b hb (hlive a hra) (hlive b hrb) hk)

namespace State

variable {s : State} {env : Env} {goalId : Nat} {goal : Goal} {sid : String}

/-! ## Worker requests -/

/-- The entry is a Message of the GoalManager to its Session that asks for Worker work. -/
def isWorkerRequest (sid : String) (e : LogEntry) : Bool :=
  match e.body with
  | .message m =>
    m.payload.workerRequest && m.toEndpoint = sessionEndpoint sid && agentSenderMatches m .goalManager
  | _ => false

/-- The WorkerAgent of an active Session, whose Goal `goalId` is incomplete, has not read
    a request, and does not run. -/
structure Requested (s : State) (sid : String) (goalId : Nat) : Prop where
  active : ∃ session, s.sessions.lookup sid = some session ∧ session.active
  goal : ∃ goal, s.currentGoalForSession sid = some (goalId, goal) ∧ goal.completionState = .incomplete
  request : ∃ e ∈ s.unreadEntries sid .workerAgent, isWorkerRequest sid e
  idle : ∀ r ∈ s.acquiredRuns, r.2.sessionId = sid → r.2.role ≠ .workerAgent

/-- The Goal does not wait, or its wait is over. -/
def FreeToWork (s : State) (env : Env) (goalId : Nat) : Prop :=
  (∀ goal, s.goals.lookup goalId = some goal → goal.waiting = none) ∨ s.wakesWaiting env goalId

theorem wakes_of_request {e : LogEntry} (he : e ∈ s.unreadEntries sid .workerAgent)
    (h : isWorkerRequest sid e) : s.wakesOf sid .workerAgent ≠ [] := by
  intro hnil
  have hnone := List.filterMap_eq_nil_iff.1 hnil e he
  unfold isWorkerRequest at h
  cases hb : e.body with
  | message m =>
    simp only [hb, Bool.and_eq_true, decide_eq_true_eq] at h
    simp [wakeReason, workerWakeReason, hb, h.1.1, h.1.2, h.2] at hnone
  | _ => simp [hb] at h

/-- **A Worker request is stranded behind a wait**: after a reconciliation the WorkerAgent
    is ready for it if and only if its Goal was free to work, or the WorkerAgent was ready
    before. -/
theorem worker_ready_iff (h : s.Loaded) (env : Env)
    (hreq : (s.reconcileDispatchLiveness env).1.Requested sid goalId) :
    (∃ e ∈ (s.reconcileDispatchLiveness env).1.dispatchReadiness, e.readyFor sid .workerAgent) ↔
      s.FreeToWork env goalId ∨ ∃ e ∈ s.dispatchReadiness, e.readyFor sid .workerAgent := by
  obtain ⟨hi, hsound, hx, -⟩ := h.safe
  obtain ⟨session, hs, hact⟩ := hreq.active
  obtain ⟨goal, hg, hinc⟩ := hreq.goal
  obtain ⟨e₀, he₀, hr₀⟩ := hreq.request
  obtain ⟨g, hcur, rfl⟩ := currentGoal_reconcile hi.wf hg
  have hfree : s.FreeToWork env goalId ↔
      (if s.wakesWaiting env goalId then endWait g else g).waiting = none := by
    have hlook := (currentGoalForSession_eq_some hcur).1
    unfold FreeToWork
    rw [hlook]
    by_cases hwake : s.wakesWaiting env goalId
    · simp [hwake, endWait]
    · simp [hwake]
  by_cases hwait : (if s.wakesWaiting env goalId then endWait g else g).waiting = none
  · refine iff_of_true ?_ (.inl (hfree.2 hwait))
    have hlive := reconcile_live s env h.coherent
    have hm := moves_reconcile (P := fun _ => True) hi trivial env
    obtain ⟨e, he⟩ := (hlive.refreshed.ready_iff (hm.intact hi) hlive.held (hm.sound hsound) hs
      hact hg hinc hwait hreq.idle).2 (wakes_of_request he₀ hr₀)
    have hmem : e ∈ [e] := List.mem_singleton_self e
    rw [← he.only] at hmem
    exact ⟨e, (List.mem_filter.1 hmem).1, (List.mem_filter.1 hmem).2⟩
  · rw [or_iff_right fun hf => hwait (hfree.1 hf)]
    have hP : (s.reconcileDispatchLiveness env).1.Untouched (Readiness.readyFor sid .workerAgent) := by
      refine fun e he => ⟨readyFor_isReady he, fun p hp hk => ?_⟩
      obtain ⟨g', hg', hrefr, -, hsid⟩ := mem_turns.1 hp
      have hsid' : g'.2.sessionId = sid := by
        have hp' : p.sessionId = sid :=
          congrArg Prod.fst (hk.symm.trans (Readiness.readyFor_iff.1 he).2)
        rw [← hsid, hp']
      have hcur' := (mem_currentGoals.1 hg').2
      rw [hsid', hg] at hcur'
      cases hcur'
      simp only [refreshable, Bool.and_eq_true, Option.isNone_iff_eq_none] at hrefr
      exact hwait hrefr.1.2
    have hf := filter_reconcile hP hx.keyUnique
    have hmem : ∀ l : List Readiness, (∃ e ∈ l, e.readyFor sid .workerAgent) ↔
        ∃ e, e ∈ l.filter (Readiness.readyFor sid .workerAgent) := fun l => by
      simp only [List.mem_filter]
    rw [hmem, hf, ← hmem]

/-! ## A request that is stranded -/

/-- The GoalManager of a Session at work asks for Worker work. -/
def requested : List Action := started ++ [⟨clock 3, .appendRuntimeMessage "a"
  { sender := "svc-codex", group := "manage", recipient := "Session", body := "do it"
    workerRequest := true, runId := some (newStore.nexts started).firstLease.runId }⟩]

/-- Then it ends its turn with a wait for an event. -/
def requestedThenWaits : List Action :=
  thenCommit (requested ++ [⟨clock 4, .declareWaiting "a" { kind := "event", eventName := "done" }
    "GoalManager" (some (newStore.nexts started).firstLease.runId) "wait for the Worker"⟩])
    (clock 5) (.result ⟨"prompt", "output", "codex", ""⟩)

/-- `Requested`, as it is decided. -/
def requestedNow (s : State) (sid : String) (goalId : Nat) : Bool :=
  (s.sessions.lookup sid).any Session.active &&
    (s.currentGoalForSession sid).any (fun g => g.1 = goalId && g.2.completionState = .incomplete) &&
    (s.unreadEntries sid .workerAgent).any (isWorkerRequest sid) &&
    s.acquiredRuns.all fun r => r.2.sessionId ≠ sid || r.2.role ≠ .workerAgent

theorem requested_of_now (h : s.requestedNow sid goalId) : s.Requested sid goalId := by
  simp only [requestedNow, Bool.and_eq_true, Option.any_eq_true, List.any_eq_true, List.all_eq_true,
    Bool.or_eq_true, decide_eq_true_eq] at h
  obtain ⟨⟨⟨hs, ⟨⟨_, goal⟩, hg, rfl, hinc⟩⟩, he⟩, hr⟩ := h
  exact ⟨hs, ⟨goal, hg, hinc⟩, he, fun r hm hk => (hr r hm).resolve_left fun hne => hne hk⟩

/-- **A request that is never served**: the Session has no Unit, its GoalManager has asked for
    Worker work, and the WorkerAgent is not ready for it. -/
theorem request_stranded : ∃ s : State, s.Loaded ∧ ∃ env sid goalId,
    (s.reconcileDispatchLiveness env).1.Requested sid goalId ∧
    (∃ session, s.sessions.lookup sid = some session ∧ session.unitId = "") ∧
    ¬∃ e ∈ (s.reconcileDispatchLiveness env).1.dispatchReadiness, e.readyFor sid .workerAgent := by
  have hall : ((newStore.nexts requestedThenWaits).store.load (clock 6)).isOk ∧
      (reconciledAfter requestedThenWaits (clock 6)).requestedNow "a" 0 ∧
      (∃ session, (loadedAfter requestedThenWaits (clock 6)).sessions.lookup "a" = some session ∧
        session.unitId = "") ∧
      ¬∃ e ∈ (reconciledAfter requestedThenWaits (clock 6)).dispatchReadiness,
        e.readyFor "a" .workerAgent := by decide +kernel
  obtain ⟨hok, hreq, hs, hnone⟩ := hall
  have hreq := requested_of_now hreq
  unfold reconciledAfter at hreq hnone
  exact ⟨_, loaded_after hok, clock 6, "a", 0, hreq, hs, hnone⟩

/-- While its GoalManager still works, the request is served. -/
theorem worker_ready_iff_requested :
    ∃ e ∈ (reconciledAfter requested (clock 4)).dispatchReadiness, e.readyFor "a" .workerAgent := by
  have hall : (∃ goal, (loadedAfter requested (clock 4)).goals.lookup 0 = some goal ∧
      goal.waiting = none) ∧ (reconciledAfter requested (clock 4)).requestedNow "a" 0 ∧
      ((newStore.nexts requested).store.load (clock 4)).isOk := by
    decide +kernel
  obtain ⟨⟨goal, hl, hw⟩, hreq, hok⟩ := hall
  have hreq := requested_of_now hreq
  have hfree : (loadedAfter requested (clock 4)).FreeToWork (clock 4) 0 := by
    refine .inl fun g h => ?_
    rw [hl] at h
    exact Option.some.inj h ▸ hw
  unfold reconciledAfter at hreq ⊢
  exact (worker_ready_iff (loaded_after hok) (clock 4) hreq).2 (.inl hfree)

end State
end Aize
