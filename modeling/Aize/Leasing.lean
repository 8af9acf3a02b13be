/-
  The acquisition of a lease, as steps of the ledger.

  `next_spec` is the choice of an entry: it is ready, its Goal is open, and nothing
  runs for its Session and role. `lease_acquire` turns the chosen entry into a run;
  `acquire_spec` is the whole of `_acquire_dispatch_lease_locked`.
-/
import Aize.Refreshing

namespace Aize

/-! ## The choice -/

/-- A chosen candidate comes from the queue and is eligible. -/
theorem selectRole_spec {sel : Selection} {entries : List Readiness} {c : Candidate}
    (h : (selectRoleDispatchReadiness sel entries).chosen = some c) :
    c.entry ∈ entries ∧ sel.considered c.entry ∧ sel.goalOpen c.entry ∧
      ∃ session, sel.sessions.lookup c.entry.sessionId = some session ∧ session.active ∧
        (c.entry.sessionId, c.entry.role) ∉ sel.acquiredRoles := by
  have hc : c ∈ sel.candidates entries := by
    unfold selectRoleDispatchReadiness at h
    dsimp only at h
    split_ifs at h
    · exact (List.mem_filter.1 (List.argmin_mem h)).1
    · exact List.argmin_mem h
  obtain ⟨⟨e, i⟩, he, hcand⟩ := List.mem_filterMap.1 hc
  unfold Selection.candidate? at hcand
  dsimp only at hcand
  split_ifs at hcand with hopen
  cases hs : sel.sessions.lookup e.sessionId with
  | none => simp [hs] at hcand
  | some session =>
    simp only [hs] at hcand
    split_ifs at hcand with hactive
    cases hcand
    simp only [Bool.and_eq_true, decide_eq_true_eq] at hopen hactive
    have hmem : e ∈ entries := by
      have := List.mem_map_of_mem (f := Prod.fst) he
      rwa [List.zipIdx_map_fst] at this
    exact ⟨hmem, hopen.1, hopen.2, session, hs, hactive⟩

/-- The stale entries, marked one by one. -/
theorem map_staleIndexes (sel : Selection) (entries : List Readiness) :
    (entries.zipIdx.map fun e =>
      if e.2 ∈ (selectRoleDispatchReadiness sel entries).staleIndexes then
        { e.1 with status := .stale }
      else e.1) = entries.map fun e =>
        if sel.considered e && !sel.goalOpen e then { e with status := .stale } else e := by
  have hstale : ∀ e ∈ entries.zipIdx,
      e.2 ∈ (selectRoleDispatchReadiness sel entries).staleIndexes ↔
        (sel.considered e.1 && !sel.goalOpen e.1) = true := by
    rintro ⟨e, i⟩ he
    unfold selectRoleDispatchReadiness
    simp only [List.mem_map, List.mem_filter]
    constructor
    · rintro ⟨⟨e', i'⟩, ⟨he', hp⟩, rfl⟩
      rw [List.mem_zipIdx_iff_getElem?] at he he'
      rw [he] at he'
      cases he'
      exact hp
    · exact fun hp => ⟨(e, i), ⟨he, hp⟩, rfl⟩
  have hmap : (entries.zipIdx.map fun e =>
      if e.2 ∈ (selectRoleDispatchReadiness sel entries).staleIndexes then
        { e.1 with status := .stale }
      else e.1) = entries.zipIdx.map ((fun e : Readiness =>
        if sel.considered e && !sel.goalOpen e then { e with status := .stale } else e) ∘ Prod.fst) := by
    refine List.map_congr_left fun e he => ?_
    simp only [Function.comp_apply, hstale e he]
  rw [hmap, ← List.map_map, List.zipIdx_map_fst]

namespace State

variable {P : Label → Prop} {s s' : State} {env : Env}

/-- What makes an entry eligible for a lease. -/
structure Eligible (s : State) (e : Readiness) : Prop where
  mem : e ∈ s.dispatchReadiness
  ready : e.status = .ready
  idle : ∀ rid r, Holding s.dispatchRuns.lookup rid r → r.key ≠ e.key
  goal : ∃ goal, s.goals.lookup e.goalId = some goal ∧ goal.completionState = .incomplete
  session : ∃ session, s.sessions.lookup e.sessionId = some session ∧ session.active

/-- **The next entry.** -/
theorem next_spec (hi : s.Intact) (hP : P .plain) (env : Env) (filter : Option String) :
    Moves P s (s.nextDispatchReadinessEntry env filter).1 ∧
      ∀ c, (s.nextDispatchReadinessEntry env filter).2 = some c →
        (s.nextDispatchReadinessEntry env filter).1.Eligible c.entry := by
  unfold nextDispatchReadinessEntry
  have h₁ := moves_refresh hi hP env
  have hi₁ := h₁.intact hi
  generalize (s.refreshDispatchReadiness env).1 = s₁ at h₁ hi₁
  dsimp only
  rw [map_staleIndexes]
  set sel := s₁.selection env filter with hsel
  refine ⟨h₁.trans (moves_retire (P := P) hi₁.wf hP (fun e => sel.considered e && !sel.goalOpen e)
    rfl), fun c hc => ?_⟩
  obtain ⟨hmem, hcons, hopen, session, hs, hactive, hidle⟩ := selectRole_spec hc
  have hopen' := hopen
  unfold Selection.goalOpen at hopen'
  obtain ⟨goal, hgl, hinc⟩ : ∃ goal, s₁.goals.lookup c.entry.goalId = some goal ∧
      goal.completionState = .incomplete := by
    cases hg : sel.goals.lookup c.entry.goalId with
    | none => simp [hg] at hopen'
    | some goal =>
      simp only [hg, Bool.and_eq_true, decide_eq_true_eq] at hopen'
      exact ⟨goal, hg, hopen'.2⟩
  refine ⟨?_, ?_, fun rid r hr hk => hidle ?_, ⟨goal, hgl, hinc⟩, ⟨session, hs, hactive⟩⟩
  · refine List.mem_map.2 ⟨c.entry, hmem, ?_⟩
    simp [hopen]
  · unfold Selection.considered at hcons
    simp only [Bool.and_eq_true, decide_eq_true_eq] at hcons
    exact hcons.1.1
  · refine List.mem_flatMap.2 ⟨(rid, r), mem_acquiredRuns.2 hr, ?_⟩
    have : (r.sessionId, r.role) = (c.entry.sessionId, c.entry.role) := hk
    rw [← this]
    exact List.mem_cons_self

/-! ## The lease -/

theorem ensureAgentThread_frame (s : State) (sessionId : String) (role : Role)
    (account provider : String) : ∃ threads n, s.nextId ≤ n ∧
      (s.ensureAgentThread sessionId role account provider).1 =
        { s with agentThreads := threads, nextId := n } := by
  have same : ∃ threads n, s.nextId ≤ n ∧ s = { s with agentThreads := threads, nextId := n } :=
    ⟨s.agentThreads, s.nextId, le_rfl, rfl⟩
  have new : ∀ a key, ∃ threads n, s.nextId ≤ n ∧ (s.newThread sessionId role a key).1 =
      { s with agentThreads := threads, nextId := n } := fun _ _ =>
    ⟨_, _, Nat.le_succ s.nextId, rfl⟩
  unfold ensureAgentThread
  dsimp only
  split_ifs
  · exact same
  · exact new _ _
  · exact same
  · split
    · split_ifs
      · exact ⟨_, _, le_rfl, rfl⟩
      · exact new _ _
    · exact new _ _

/-- The lease that a run gives. -/
structure Lease.Of (lease : Lease) (run : DispatchRun) : Prop where
  goalId : lease.goalId = run.goalId
  sessionId : lease.sessionId = run.sessionId
  role : lease.role = run.role
  readinessId : lease.readinessId = run.readinessId

/-- The run of a chosen entry. -/
structure RunOf (env : Env) (e : Readiness) (goal : Goal) (run : DispatchRun) : Prop where
  goalId : run.goalId = e.goalId
  sessionId : run.sessionId = goal.sessionId
  role : run.role = e.role
  leaseState : run.leaseState = .acquired
  currentPhase : run.currentPhase = some e.role
  readinessId : run.readinessId = e.readinessId
  leaseAcquiredAt : run.leaseAcquiredAt = env.utcNow
  observedGoalBody : run.observedGoalBody = goal.body
  fromLogSeq : run.fromLogSeq = e.fromLogSeq
  observedToSeq : run.observedToSeq = e.observedToSeq
  declaredOutcome : run.declaredOutcome = none


/-- **What a lease changes**: the entry is acquired by a new run. -/
theorem leaseEntry_spec (s : State) (env : Env) (c : Candidate) (goal : Goal) (session : Session) :
    ∃ (F : Session → Session) (threads : Dict String AgentThread) (full : List String) (rid : Nat)
      (run : DispatchRun), s.nextId ≤ rid ∧
      (∀ x, (F x).active = x.active ∧ (F x).roleCursors = x.roleCursors) ∧
      RunOf env c.entry goal run ∧ (s.leaseEntry env c goal session).2.runId = rid ∧
      Lease.Of (s.leaseEntry env c goal session).2 run ∧
      (s.leaseEntry env c goal session).1 =
        { (s.setReadinessStatus c.entry.readinessId .acquired).modifySession goal.sessionId F with
          agentThreads := threads
          fullIds := full
          nextId := rid + 1
          dispatchRuns := s.dispatchRuns.insert rid run } := by
  unfold leaseEntry
  lift_lets
  intro e sid sA queuedAt sB profile appointed profileProvider provider agentUser run
  obtain ⟨threads, n, hn, hth⟩ := sB.ensureAgentThread_frame sid e.role agentUser provider
  generalize sB.ensureAgentThread sid e.role agentUser provider = thread at hth ⊢
  obtain ⟨s₃, key⟩ := thread
  obtain ⟨full, hfull⟩ : ∃ full, s₃.readSessionLog sid = { s₃ with fullIds := full } := by
    unfold readSessionLog
    split_ifs
    · exact ⟨s₃.fullIds, rfl⟩
    · exact ⟨_, rfl⟩
  have hrun : RunOf env e goal run := ⟨rfl, rfl, rfl, rfl, rfl, rfl, rfl, rfl, rfl, rfl, rfl⟩
  clear_value run
  dsimp only at hth ⊢
  rw [hfull, hth]
  exact ⟨fun session => { session with
      scheduleTiming := session.scheduleTiming.map fun t => ScheduleTiming.dispatch t queuedAt env.utcNow },
    threads, full, n, run, hn, fun x => ⟨rfl, rfl⟩, hrun, rfl,
    ⟨hrun.goalId.symm, hrun.sessionId.symm, hrun.role.symm, hrun.readinessId.symm⟩, rfl⟩

theorem Wf.insertRun (hw : s.Wf) {rid : Nat} {run : DispatchRun} (hn : s.nextId ≤ rid)
    (hid : run.readinessId < s.nextId) (hphase : run.currentPhase = some run.role) :
    Wf { s with dispatchRuns := s.dispatchRuns.insert rid run, nextId := rid + 1 } where
  blank := hw.blank
  goal id g hg := by
    obtain ⟨h₁, h₂, h₃⟩ := hw.goal id g hg
    exact ⟨h₁, h₂, h₃.trans_le (hn.trans (Nat.le_succ _))⟩
  unique := hw.unique
  run := by
    refine Dict.forall_lookup_insert (fun id r hr => ?_)
      ⟨Nat.lt_succ_self _, hid.trans_le (hn.trans (Nat.le_succ _)), fun _ => hphase⟩
    obtain ⟨h₁, h₂, h₃⟩ := hw.run id r hr
    exact ⟨h₁.trans_le (hn.trans (Nat.le_succ _)), h₂.trans_le (hn.trans (Nat.le_succ _)), h₃⟩
  entry e he := (hw.entry e he).trans_le (hn.trans (Nat.le_succ _))
  ids := hw.ids
  log x e he := (hw.log x e he).mono (hn.trans (Nat.le_succ _))
  edge := hw.edge
  home := hw.home

/-- The Goal of an entry is that of its Session. -/
theorem goal_of_entry (hw : s.Wf) (hs : s.ledger.Sound) {e : Readiness}
    (he : e ∈ s.dispatchReadiness) : ∃ goal, s.goals.lookup e.goalId = some goal ∧
      goal.sessionId = e.sessionId ∧ s.currentGoalForSession e.sessionId = some (e.goalId, goal) := by
  obtain ⟨⟨v, g, hv, hg, hid⟩, -⟩ := hs.entry e he
  obtain ⟨session, -, -, -, hcur⟩ := view_eq_some_iff.1 hv
  rw [hg] at hcur
  obtain ⟨⟨goalId, goal⟩, hc, rfl⟩ := Option.map_eq_some_iff.1 hcur
  dsimp only at hid
  subst hid
  obtain ⟨hl, hsid⟩ := hw.currentGoal.1 hc
  exact ⟨goal, hl, hsid, hc⟩

/-- **A lease is a step of the ledger.** -/
theorem moves_leaseEntry (hi : s.Intact) (hs : s.ledger.Sound)
    (hP : ∀ rid, s.nextId ≤ rid → P (.acquire rid)) {c : Candidate} (he : s.Eligible c.entry) {goal : Goal} (hg : s.goals.lookup c.entry.goalId = some goal)
    (session : Session) :
    Moves P s (s.leaseEntry env c goal session).1 ∧
      s.nextId ≤ (s.leaseEntry env c goal session).2.runId ∧ ∃ run,
      (s.leaseEntry env c goal session).1.dispatchRuns.lookup
        (s.leaseEntry env c goal session).2.runId = some run ∧
      RunOf env c.entry goal run ∧ Lease.Of (s.leaseEntry env c goal session).2 run := by
  obtain ⟨F, threads, full, rid, run, hn, hF, hrun, hid, hlease, hstate⟩ :=
    s.leaseEntry_spec env c goal session
  have hsid : goal.sessionId = c.entry.sessionId := by
    obtain ⟨goal', hg', hsid, -⟩ := goal_of_entry hi.wf hs he.mem
    rw [hg] at hg'
    cases hg'
    exact hsid
  have hnone : s.dispatchRuns.lookup rid = none := by
    cases hr : s.dispatchRuns.lookup rid with
    | none => rfl
    | some r => exact absurd ((hi.wf.run rid r hr).1.trans_le hn) (lt_irrefl _)
  have hruns : (s.leaseEntry env c goal session).1.dispatchRuns = s.dispatchRuns.insert rid run := by
    rw [hstate]
  have hqueue : (s.leaseEntry env c goal session).1.dispatchReadiness =
      s.dispatchReadiness.map fun x =>
        if x.readinessId = c.entry.readinessId then { x with status := .acquired } else x := by
    rw [hstate]
    refine List.map_congr_left fun x _ => ?_
    simp only [decide_eq_true_eq]
  have hlog : (s.leaseEntry env c goal session).1.log = s.log := by rw [hstate]; rfl
  have hview : (s.leaseEntry env c goal session).1.view = s.view := by
    rw [hstate]
    exact view_modifySession (s := s.setReadinessStatus c.entry.readinessId .acquired) _ hF
  have hledger : (s.leaseEntry env c goal session).1.ledger = (s.ledger.setRun rid run).setReadiness
      (s.dispatchReadiness.map fun x =>
        if x.readinessId = c.entry.readinessId then { x with status := .acquired } else x) := by
    have hlook : (s.dispatchRuns.insert rid run).lookup =
        Function.update s.dispatchRuns.lookup rid (some run) := by
      funext x
      rw [Dict.lookup_insert_of, Function.update_apply]
    unfold ledger book
    rw [hruns, hqueue, hlog, hview, hlook]
    rfl
  have hstep : Ledger.Step s.ledger (.acquire rid) (s.leaseEntry env c goal session).1.ledger := by
    rw [hledger]
    refine .acquire hnone (fun sid e hmem => ⟨fun hst => ?_, fun hst => ?_⟩) he.mem he.ready he.idle hrun.leaseState ?_
      hrun.goalId hrun.readinessId hrun.fromLogSeq hrun.observedToSeq
    · exact absurd (((hi.wf.log sid e hmem).stateRun rid hst).trans_le hn) (lt_irrefl _)
    · exact absurd (((hi.wf.log sid e hmem).inputRun rid hst).trans_le hn) (lt_irrefl _)
    · exact Prod.ext (hrun.sessionId.trans hsid) hrun.role
  have hnext : (s.leaseEntry env c goal session).1.nextId = rid + 1 := by rw [hstate]
  have hwf : (s.leaseEntry env c goal session).1.Wf := by
    have h₁ : (s.setReadinessStatus c.entry.readinessId .acquired).Wf :=
      hi.wf.modifyReadiness _ fun _ => rfl
    have h₂ := h₁.modifySession goal.sessionId F
    have h₃ := h₂.insertRun hn (hrun.readinessId ▸ hi.wf.entry _ he.mem)
      (hrun.currentPhase.trans (congrArg some hrun.role.symm))
    exact h₃.of_frame (fun x => by rw [hstate]) (by rw [hstate]) (by rw [hstate]) (by rw [hstate]; rfl)
      (by rw [hstate]) (by rw [hstate]; rfl) (by rw [hstate]) (by rw [hstate])
  refine ⟨.of_step (hP rid hn) hstep hwf (by rw [hnext]; exact hn.trans (Nat.le_succ _)), ?_, run, ?_, hrun,
    hlease⟩
  · rw [hid]; exact hn
  · rw [hid, hruns, Dict.lookup_insert_of, if_pos rfl]

/-! ## The whole acquisition -/

/-- The state in which `_acquire_dispatch_lease_locked` has made its choice, and the choice. -/
def chosenEntry (s : State) (env : Env) (filter : Option String) : State × Option Candidate :=
  (s.reconcileDispatchLiveness env).1.nextDispatchReadinessEntry env filter

/-- An acquisition that succeeds either finds nothing or leases the entry it chose. -/
theorem acquire_cases {filter : Option String} {lease : Option Lease}
    (h : s.acquireDispatchLease env filter = .ok (s', lease)) :
    ∃ loaded, s.load env = .ok loaded ∧
      ((loaded.chosenEntry env filter).2 = none ∧ lease = none ∧
          (s' = s ∨ s' = (loaded.chosenEntry env filter).1.save) ∨
        ∃ c goal session, (loaded.chosenEntry env filter).2 = some c ∧
          (loaded.chosenEntry env filter).1.checkLease c.entry = .ok (goal, session) ∧
          s' = ((loaded.chosenEntry env filter).1.leaseEntry env c goal session).1.save ∧
          lease = some ((loaded.chosenEntry env filter).1.leaseEntry env c goal session).2) := by
  unfold acquireDispatchLease at h
  obtain ⟨loaded, hl, h⟩ := Except.bind_eq_ok.1 h
  obtain ⟨-, h⟩ := Except.require_bind_eq_ok.1 h
  refine ⟨loaded, hl, ?_⟩
  unfold chosenEntry
  generalize loaded.reconcileDispatchLiveness env = r at h ⊢
  dsimp only at h ⊢
  generalize r.1.nextDispatchReadinessEntry env filter = n at h ⊢
  obtain ⟨next, chosen⟩ := n
  cases chosen with
  | none =>
    cases h
    refine .inl ⟨rfl, rfl, ?_⟩
    split_ifs
    · exact .inr rfl
    · exact .inl rfl
  | some c =>
    obtain ⟨⟨goal, session⟩, hck, h⟩ := Except.bind_eq_ok.1 h
    refine .inr ⟨c, goal, session, rfl, hck, ?_⟩
    dsimp only
    generalize next.leaseEntry env c goal session = leased at h ⊢
    cases h
    exact ⟨rfl, rfl⟩

/-- What `checkLease` lets pass. -/
theorem checkLease_spec {e : Readiness} {goal : Goal} {session : Session}
    (h : s.checkLease e = .ok (goal, session)) : s.goals.lookup e.goalId = some goal ∧
      s.sessions.lookup goal.sessionId = some session ∧ session.active ∧
      (strip session.unitId = "" ∨ strip session.unitId ∈ s.units ∧
        s.unitPaused (strip session.unitId) = false) := by
  unfold checkLease at h
  cases hg : s.goals.lookup e.goalId with
  | none => simp [hg] at h
  | some goal' =>
    simp only [hg] at h
    cases hsess : s.sessions.lookup goal'.sessionId with
    | none => simp [hsess] at h
    | some session' =>
      simp only [hsess] at h
      obtain ⟨hact, h⟩ := Except.require_bind_eq_ok.1 h
      obtain ⟨hunit, h⟩ := Except.require_bind_eq_ok.1 h
      obtain ⟨hpaused, h⟩ := Except.require_bind_eq_ok.1 h
      cases h
      refine ⟨rfl, hsess, hact, ?_⟩
      by_cases hu : strip session.unitId = ""
      · exact .inl hu
      · exact .inr ⟨hunit.resolve_left hu, by simpa using hpaused.resolve_left hu⟩

/-- What an operation makes of the stored state: some steps of the ledger. -/
structure Stores (P : Label → Prop) (s s' : State) : Prop where
  stored : s'.Stored
  steps : Ledger.Steps P s.ledger s'.ledger
  next : s.nextId ≤ s'.nextId

theorem Stores.refl (hs : s.Stored) : Stores P s s := ⟨hs, .refl _, le_rfl⟩

theorem Stores.sound (h : Stores P s s') (hs : s.ledger.Sound) : s'.ledger.Sound :=
  h.steps.invariant (I := Ledger.Sound) hs fun _ _ _ hc _ hs => hs.sound hc

theorem Saved.stores (h : Saved P s s') (hs : s.Stored) (hP : P .plain) : Stores P s s' := by
  refine ⟨h.stored hs, h.steps hP, ?_⟩
  obtain ⟨t, ht, rfl⟩ := h
  exact ht.next

theorem Moves.saved (h : Moves P s s') (hs : s.Stored) : Stores P s s'.save := by
  have hi := h.intact hs.good
  refine ⟨⟨h.wf.save, rfl, rfl, ?_⟩, ?_, h.next⟩
  · rw [book_save]
    exact hi.book
  · rw [ledger_save]
    exact h.steps

/-- **The state in which an acquisition makes its choice.** -/
theorem chosenEntry_spec (hs : s.Stored) (hP : P .plain) {loaded : State}
    (hl : s.load env = .ok loaded) (filter : Option String) :
    Moves P s (loaded.chosenEntry env filter).1 ∧
      ∀ c, (loaded.chosenEntry env filter).2 = some c →
        (loaded.chosenEntry env filter).1.Eligible c.entry := by
  have hr := hs.load hP hl
  have h₀ : Moves P s loaded := hr.effect.moves hP
  have h₁ := moves_reconcile (h₀.intact hs.good) hP env
  have h₂ := next_spec (P := P) ((h₀.trans h₁).intact hs.good) hP env filter
  exact ⟨(h₀.trans h₁).trans h₂.1, h₂.2⟩

/-- **An acquisition is some steps of the ledger**; a lease names a run that is new. -/
theorem acquire_spec (hs : s.Stored) (hsound : s.ledger.Sound) (hP : P .plain)
    (hP' : ∀ rid, s.nextId ≤ rid → P (.acquire rid)) {filter : Option String} {lease : Option Lease}
    (h : s.acquireDispatchLease env filter = .ok (s', lease)) : Stores P s s' ∧
      ∀ l, lease = some l → s.nextId ≤ l.runId ∧
        ∃ run e goal, s'.dispatchRuns.lookup l.runId = some run ∧ RunOf env e goal run ∧
          Lease.Of l run := by
  obtain ⟨loaded, hl, ⟨-, rfl, hs'⟩ | ⟨c, goal, session, hc, hck, rfl, rfl⟩⟩ := acquire_cases h
  · refine ⟨?_, fun l hl => by cases hl⟩
    rcases hs' with rfl | rfl
    · exact .refl hs
    · exact (chosenEntry_spec hs hP hl filter).1.saved hs
  · obtain ⟨hm, helig⟩ := chosenEntry_spec hs hP hl filter
    obtain ⟨hmove, hfresh, run, hlook, hrun, hof⟩ := moves_leaseEntry
      (hm.intact hs.good) (hm.sound hsound) (fun rid hrid => hP' rid (hm.next.trans hrid))
      (helig c hc) (checkLease_spec hck).1 session
    generalize (loaded.chosenEntry env filter).1.leaseEntry env c goal session = r at *
    refine ⟨(hm.trans hmove).saved hs, fun l hl' => ?_⟩
    cases hl'
    exact ⟨hm.next.trans hfresh, run, c.entry, goal, hlook, hrun, hof⟩

end State
end Aize
