/-
  What a reconciliation leaves behind.

  `Reconciled` is the liveness invariant as the dispatcher and its snapshot read it;
  `reconcile_reconciled` says that every loaded state has it after a reconciliation.
  `wake_complete` says which entries are then ready: for every idle role of an active
  Session, one entry over all that the role has not read, if any of it wakes the role.
-/
import Aize.Reachable

namespace Aize

/-- A queue with one ready entry for a key has just that one. -/
theorem KeyUnique.filter_readyFor {l : List Readiness} (h : KeyUnique l) {e : Readiness}
    (he : e ∈ l) {sid : String} {role : Role} (hre : e.readyFor sid role) :
    l.filter (Readiness.readyFor sid role) = [e] := by
  have hall : ∀ x ∈ l.filter (Readiness.readyFor sid role), x = e := by
    intro x hx
    obtain ⟨hx, hrx⟩ := List.mem_filter.1 hx
    obtain ⟨rx, kx⟩ := Readiness.readyFor_iff.1 hrx
    obtain ⟨re, ke⟩ := Readiness.readyFor_iff.1 hre
    exact h.eq hx he (by simp [Readiness.isReady, rx]) (by simp [Readiness.isReady, re])
      (kx.trans ke.symm)
  have hnodup : (l.filter (Readiness.readyFor sid role)).Nodup := by
    refine (List.Nodup.of_map _ h).sublist (List.monotone_filter_right l fun x hx => ?_)
    simp [Readiness.isReady, (Readiness.readyFor_iff.1 hx).1]
  exact hnodup.eq_singleton (List.mem_filter.2 ⟨he, hre⟩) hall

namespace State

variable {s t : State} {env : Env}

/-! ## The liveness invariant -/

/-- Every active Session of no paused Unit whose Goal is incomplete and not waiting has
    work: a ready entry, or a run that has not expired. -/
structure Reconciled (t : State) (env : Env) : Prop where
  served : ∀ sid session goalId goal, t.sessions.lookup sid = some session → session.active →
    t.unitPaused session.unitId = false → t.currentGoalForSession sid = some (goalId, goal) →
    goal.completionState = .incomplete → goal.waiting = none →
    (∃ e ∈ t.dispatchReadiness, e.status = .ready ∧ e.goalId = goalId) ∨
      ∃ r ∈ t.acquiredRuns, r.2.goalId = goalId ∧ dispatchLeaseExpired r.2 env.now = false
  held : ∀ e ∈ t.dispatchReadiness, e.status = .acquired → ∃ r ∈ t.acquiredRuns,
    r.2.readinessId = e.readinessId
  unexpired : ∀ r ∈ t.acquiredRuns, dispatchLeaseExpired r.2 env.now = false
  snapshot : t.dispatchLivenessSnapshot env = ⟨0, 0, 0⟩
  fixed : t.reconcileDispatchLiveness env = (t, false)

theorem Loaded.coherent (h : s.Loaded) : s.Coherent :=
  have ⟨hi, hs, _⟩ := h.safe
  coherent_of_sound hi hs

theorem liveRuns_eq (hu : t.Unexpired env.now) : t.liveRuns env.now = t.acquiredRuns :=
  List.filter_eq_self.2 fun r hr => by simp [hu r hr]

/-- A Goal of the snapshot that does not wait needs work. -/
theorem needs_of_active {g : Nat × Goal} (h : g ∈ t.activeIncompleteGoals)
    (hw : g.2.waiting = none) : g ∈ t.currentGoals ∧ t.needsLivenessSignal [] g := by
  obtain ⟨hg, h⟩ := List.mem_filter.1 h
  refine ⟨hg, ?_⟩
  unfold needsLivenessSignal
  rw [h, hw]
  simp

theorem Live.covered (h : t.Live env) {g : Nat × Goal} (hg : g ∈ t.activeIncompleteGoals) :
    t.covered env.now g := by
  unfold State.covered
  cases hw : g.2.waiting with
  | some => simp
  | none =>
    obtain ⟨hcur, hneeds⟩ := needs_of_active hg hw
    rcases h.served g hcur hneeds with ⟨e, he, hr, hge⟩ | ⟨r, hr, hgr⟩
    · have : (t.dispatchReadiness.any fun e => e.status = .ready && e.goalId = g.1) = true :=
        List.any_eq_true.2 ⟨e, he, by simp [hr, hge]⟩
      rw [this, Bool.true_or, Bool.true_or]
    · have : ((t.liveRuns env.now).any fun r => r.2.goalId = g.1) = true :=
        List.any_eq_true.2 ⟨r, liveRuns_eq h.unexpired ▸ hr, by simp [hgr]⟩
      rw [this, Bool.or_true, Bool.true_or]

/-- The snapshot and the repair use different predicates; they agree on a live state. -/
theorem Live.snapshot (h : t.Live env) : t.dispatchLivenessSnapshot env = ⟨0, 0, 0⟩ := by
  have hgap : (t.activeIncompleteGoals.filter fun g => !t.covered env.now g) = [] :=
    List.filter_eq_nil_iff.2 fun g hg => by simp [h.covered hg]
  have horphan : (t.dispatchReadiness.filter fun e => e.status = .acquired &&
      !((t.liveRuns env.now).any fun r => r.2.readinessId = e.readinessId)) = [] := by
    refine List.filter_eq_nil_iff.2 fun e he hf => ?_
    rw [Bool.and_eq_true, decide_eq_true_eq, liveRuns_eq h.unexpired] at hf
    obtain ⟨r, hr, hid⟩ := h.held e he hf.1
    have hany : (t.acquiredRuns.any fun r => r.2.readinessId = e.readinessId) = true :=
      List.any_eq_true.2 ⟨r, hr, by simp [hid]⟩
    rw [hany] at hf
    cases hf.2
  unfold dispatchLivenessSnapshot
  rw [hgap, horphan, liveRuns_eq h.unexpired]
  simp

theorem Live.reconciled (h : t.Live env) : t.Reconciled env where
  served sid session goalId goal hs ha hp hg hi hw := by
    obtain ⟨hl, harch, hsid⟩ := currentGoalForSession_eq_some hg
    dsimp only at hl harch hsid
    subst hsid
    have hne : goal.sessionId ≠ "" := fun hb =>
      h.coherent.blank (AList.lookup_isSome.1 (by rw [← hb, hs]; rfl))
    have hneeds : t.needsLivenessSignal [] (goalId, goal) := by
      simp [needsLivenessSignal, harch, hi, hs, ha, hp, hw]
    refine (h.served (goalId, goal) (mem_currentGoals.2 ⟨hne, hg⟩) hneeds).imp_right ?_
    rintro ⟨r, hr, hgr⟩
    exact ⟨r, hr, hgr, h.unexpired r hr⟩
  held := h.held
  unexpired := h.unexpired
  snapshot := h.snapshot
  fixed := reconcile_of_live h

/-- **The liveness invariant**: it holds after the reconciliation of every coherent state,
    and every loaded state is coherent. -/
theorem reconcile_reconciled : (∀ s : State, s.Loaded → s.Coherent) ∧
    ∀ (s : State) (env : Env), s.Coherent → (s.reconcileDispatchLiveness env).1.Reconciled env :=
  ⟨fun _ h => h.coherent, fun s env hc => (reconcile_live s env hc).reconciled⟩

/-- A GoalManager waits for a minute, and the one of another Session does not return. -/
def stalled : List Action :=
  thenCommit (started ++ [⟨clock 3, .declareWaiting "a"
      { kind := "deadline", waitUntil := (clock 60).utcNow } "GoalManager"
      (some (newStore.nexts started).firstLease.runId) "wait a minute"⟩])
    (clock 4) (.result ⟨"prompt", "output", "codex", ""⟩) ++
  [⟨clock 5, .startGoalSession "b" "" ["root"] "B" "build it" "root"⟩, ⟨clock 6, .acquire none⟩]

/-- The gap, the orphaned entry and the expired lease are repaired, and the wait is over. -/
theorem reconcile_reconciled_stalled :
    (loadedAfter stalled (clock 700)).dispatchLivenessSnapshot (clock 700) = ⟨1, 1, 1⟩ ∧
    ((loadedAfter stalled (clock 700)).goals.lookup 0).any (·.waiting.isSome) ∧
    ((loadedAfter stalled (clock 700)).reconcileDispatchLiveness (clock 700)).1.Reconciled
      (clock 700) ∧
    ((reconciledAfter stalled (clock 700)).dispatchReadiness.map fun e => (e.sessionId, e.status)) =
      [("a", .ready), ("b", .ready)] := by
  have hall : ((newStore.nexts stalled).store.load (clock 700)).isOk ∧
      (loadedAfter stalled (clock 700)).dispatchLivenessSnapshot (clock 700) = ⟨1, 1, 1⟩ ∧
      ((loadedAfter stalled (clock 700)).goals.lookup 0).any (·.waiting.isSome) ∧
      ((reconciledAfter stalled (clock 700)).dispatchReadiness.map fun e =>
        (e.sessionId, e.status)) = [("a", .ready), ("b", .ready)] := by
    decide +kernel
  obtain ⟨hok, hsnapshot, hwaits, hready⟩ := hall
  exact ⟨hsnapshot, hwaits,
    reconcile_reconciled.2 _ _ (reconcile_reconciled.1 _ (loaded_after hok)), hready⟩

/-! ## Unread entries -/

/-- The entries that a role of a Session has not read. -/
def unreadEntries (s : State) (sid : String) (role : Role) : List LogEntry :=
  s.sessionLogAfterCursor sid
    ((s.sessions.lookup sid).elim 0 fun session => session.roleCursors.get role)

/-- What wakes the role among them. -/
def wakesOf (s : State) (sid : String) (role : Role) : List WakeReason :=
  (s.unreadEntries sid role).filterMap
    (wakeReason role sid (s.activeWorkerRunForSession sid).isSome)

theorem fields_eq_none_iff {sid : String} {role : Role} :
    s.readinessFieldsFromSessionLog sid role = none ↔ s.wakesOf sid role = [] :=
  derive_eq_none_iff

/-- The reasons of a window are those of its entries, in order. -/
theorem derive_wakeReasons {entries : List LogEntry} {role : Role} {sid : String} {active : Bool}
    {f : RoleDispatchReadiness} (hf : deriveRoleDispatchReadiness entries role sid active = some f) :
    f.wakeReasons.Perm (entries.filterMap (wakeReason role sid active)) := by
  unfold deriveRoleDispatchReadiness at hf
  dsimp only at hf
  by_cases hnil : entries.filterMap (wakeReason role sid active) = []
  · rw [if_pos hnil] at hf
    cases hf
  · rw [if_neg hnil] at hf
    cases hf
    exact List.perm_insertionSort _ _

/-- The role is ready for its Goal with everything it has not read. -/
structure ReadyWith (s : State) (sid : String) (role : Role) (goalId : Nat) (e : Readiness) :
    Prop where
  only : s.dispatchReadiness.filter (Readiness.readyFor sid role) = [e]
  goal : e.goalId = goalId
  from_cursor : ∀ session, s.sessions.lookup sid = some session →
    e.fromLogSeq = session.roleCursors.get role + 1
  to_latest : e.observedToSeq = s.latestSessionLogSeq sid
  reasons : e.wakeReasons.Perm (s.wakesOf sid role)

/-- **The ready entry of an idle role**, in a state that a refresh does not change. -/
theorem Refreshed.ready_iff (h : t.Refreshed env) (hi : t.Intact) (hh : t.Held)
    (hsound : t.ledger.Sound) {sid : String} {session : Session} {goalId : Nat} {goal : Goal} {role : Role}
    (hs : t.sessions.lookup sid = some session) (ha : session.active)
    (hg : t.currentGoalForSession sid = some (goalId, goal))
    (hinc : goal.completionState = .incomplete) (hw : goal.waiting = none)
    (hidle : ∀ r ∈ t.acquiredRuns, r.2.sessionId = sid → r.2.role ≠ role) :
    (t.wakesOf sid role = [] → t.dispatchReadiness.filter (Readiness.readyFor sid role) = []) ∧
      (t.wakesOf sid role ≠ [] → ∃ e, t.ReadyWith sid role goalId e) := by
  obtain ⟨hl, harch, hsid⟩ := currentGoalForSession_eq_some hg
  dsimp only at hl harch hsid
  subst hsid
  have hne : goal.sessionId ≠ "" := fun hb =>
    hi.wf.blank (AList.lookup_isSome.1 (by rw [← hb, hs]; rfl))
  let p : Turn := ⟨goalId, goal.sessionId, role⟩
  have hp : p ∈ t.turns := by
    refine mem_turns.2 ⟨(goalId, goal), mem_currentGoals.2 ⟨hne, hg⟩, ?_, rfl, rfl⟩
    simp [refreshable, harch, hinc, hw, hs, ha]
  have hrole : ∀ r ∈ t.acquiredRuns, r.2.sessionId = goal.sessionId → r.2.role ≠ role ∧
      r.2.currentPhase ≠ some role := by
    intro r hr hsr
    obtain ⟨hlook, hacq⟩ := mem_acquiredRuns.1 hr
    rw [(hi.wf.run r.1 r.2 hlook).2.2 hacq]
    exact ⟨hidle r hr hsr, fun h => hidle r hr hsr (Option.some.inj h)⟩
  have hnb : ¬roleBusy t t.dispatchReadiness p := by
    rintro (hb | ⟨e, he, hacq, hk⟩)
    · obtain ⟨r, hr, hsr, hb⟩ := hasAcquiredRoleRun_iff.1 hb
      rcases hb with hb | hb
      · exact (hrole r hr hsr).1 hb
      · exact (hrole r hr hsr).2 hb
    · have hacq' : e.status = .acquired := by simpa [Readiness.isAcquired] using hacq
      obtain ⟨r, hr, hid⟩ := hh e he hacq'
      have hkey : r.2.key = (goal.sessionId, role) :=
        (hsound.held e he r.1 r.2 (mem_acquiredRuns.1 hr).1 hid).trans hk
      exact hidle r hr (congrArg Prod.fst hkey) (congrArg Prod.snd hkey)
  have hset := (h.settled hp).resolve_left hnb
  have hu : KeyUnique t.dispatchReadiness := h.queueAfter ▸ (rebuild_spec t env).unique
  constructor
  · intro hnone
    rw [fields_eq_none_iff.2 hnone] at hset
    exact List.filter_eq_nil_iff.2 hset
  · intro hsome
    cases hf : t.readinessFieldsFromSessionLog p.sessionId p.role with
    | none => exact absurd (fields_eq_none_iff.1 hf) hsome
    | some f =>
      rw [hf] at hset
      obtain ⟨⟨e, he, hre⟩, hall⟩ := hset
      have hfe := hall e he hre
      have hn : Numbered 0 (t.log goal.sessionId) := hi.book.numbered goal.sessionId
      obtain ⟨h₁, -, h₃⟩ := window_of_fields hn hs hf
      refine ⟨e, ?_, ?_, ?_, ?_, ?_⟩
      · exact hu.filter_readyFor he hre
      · rw [← hfe]; rfl
      · intro session' hs'
        rw [hs] at hs'
        cases hs'
        rw [← hfe]
        exact h₁
      · rw [latestSessionLogSeq_eq hn, ← hfe]
        exact h₃
      · rw [← hfe]
        exact derive_wakeReasons hf

/-- **Wake completeness**: after a reconciliation every idle role of an active Session whose
    Goal is incomplete and not waiting is ready with all that it has not read, if something
    there wakes it, and not ready otherwise. -/
theorem wake_complete (h : s.Loaded) (env : Env) : let t := (s.reconcileDispatchLiveness env).1
    ∀ sid session goalId goal role, t.sessions.lookup sid = some session → session.active →
      t.currentGoalForSession sid = some (goalId, goal) → goal.completionState = .incomplete →
      goal.waiting = none → (∀ r ∈ t.acquiredRuns, r.2.sessionId = sid → r.2.role ≠ role) →
      (t.wakesOf sid role = [] → t.dispatchReadiness.filter (Readiness.readyFor sid role) = []) ∧
        (t.wakesOf sid role ≠ [] → ∃ e, t.ReadyWith sid role goalId e) := by
  intro t sid session goalId goal role hs ha hg hinc hw hidle
  obtain ⟨hi, hsound, -⟩ := h.safe
  have hlive := reconcile_live s env h.coherent
  have hm := moves_reconcile (P := fun _ => True) hi trivial env
  exact hlive.refreshed.ready_iff (hm.intact hi) hlive.held (hm.sound hsound) hs ha hg hinc hw hidle

/-- A user input, and the GoalManager that it wakes. -/
theorem wake_complete_user_input :
    let t := ((loadedAfter [⟨clock 1, .startGoalSession "a" "" ["root"] "A" "build it" "root"⟩,
      ⟨clock 2, .appendUserInput "a" "root" "hello" ""⟩] (clock 3)).reconcileDispatchLiveness
        (clock 3)).1
    t.wakesOf "a" .goalManager ≠ [] ∧ ∃ e, t.ReadyWith "a" .goalManager 0 e := by
  intro t
  have hw : t.wakesOf "a" .goalManager ≠ [] := by decide +kernel
  have hs : ∃ session, t.sessions.lookup "a" = some session ∧ session.active := by
    decide +kernel
  have hg : ∃ g, t.currentGoalForSession "a" = some g ∧ g.1 = 0 ∧
      g.2.completionState = .incomplete ∧ g.2.waiting = none := by decide +kernel
  obtain ⟨session, hs, ha⟩ := hs
  obtain ⟨⟨_, goal⟩, hg, rfl, hi, hwait⟩ := hg
  exact ⟨hw, (wake_complete (loaded_after (by decide +kernel)) (clock 3) "a" session 0 goal
    .goalManager hs ha hg hi hwait (by decide +kernel)).2 hw⟩

end State
end Aize
