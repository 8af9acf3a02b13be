/-
  Which results the fence discards.

  An acquisition leases an entry whose window the refresh has just taken up to the end of the
  log, unless the Goal waits: the entries of a waiting Goal are left as they are
  (`leased_window`). While the log of the Session then gets nothing but what the run itself
  writes and signals, and the run keeps its lease, its result is applied
  (`no_false_fencing`). A Worker whose entry a waiting Goal has left over works for nothing.
-/
import Aize.History
import Aize.Outcomes
import Aize.Rebuildable

namespace Aize
namespace State

variable {s s' t : State} {env : Env} {e : Readiness}

/-! ## The window of a lease -/

/-- The entry that is chosen can be selected, whatever the filter. -/
theorem selectable_of_chosen (hw : t.Wf) {filter : Option String} {c : Candidate}
    (h : (selectRoleDispatchReadiness (t.selection env filter) t.dispatchReadiness).chosen =
      some c) : t.Selectable env c.entry := by
  obtain ⟨hmem, hcons, hopen, session, hs, hactive, hidle⟩ := selectRole_spec h
  unfold Selection.considered at hcons
  simp only [Bool.and_eq_true, decide_eq_true_eq] at hcons
  refine ⟨hmem, hcons.1.1, hcons.2, ?_, ⟨session, hs, hactive⟩, fun r hr hk => ?_⟩
  · unfold Selection.goalOpen at hopen
    cases hg : (t.selection env filter).goals.lookup c.entry.goalId with
    | none => simp [hg] at hopen
    | some goal =>
      simp only [hg, Bool.and_eq_true, decide_eq_true_eq] at hopen
      exact ⟨goal, hg, hopen.2⟩
  · exact hidle ((mem_acquiredRoles hw).2 ⟨r, hr, hk⟩)

/-- **A refreshed entry has read the whole log**, if its Goal does not wait. -/
theorem window_of_selectable (hi : t.Intact) (hs : t.ledger.Sound) (ht : t.Tidy)
    (hr : t.Refreshed env) (he : t.Selectable env e)
    (hw : ∀ g, t.goals.lookup e.goalId = some g → g.waiting = none) :
    e.observedToSeq = (t.log e.sessionId).length := by
  obtain ⟨g, hl, hsid, hcur⟩ := goal_of_entry hi.wf hs he.mem
  obtain ⟨goal, hg, hinc⟩ := he.goal
  obtain rfl := Option.some.inj (hl.symm.trans hg)
  obtain ⟨session, hsess, hact⟩ := he.session
  have hne : g.sessionId ≠ "" := fun hb => hi.wf.blank (hb ▸ (hi.wf.goal _ _ hl).2.1)
  have hp : (⟨e.goalId, e.sessionId, e.role⟩ : Turn) ∈ t.turns := by
    refine mem_turns.2 ⟨(e.goalId, g), mem_currentGoals.2 ⟨hne, hsid ▸ hcur⟩, ?_, rfl, hsid.symm⟩
    have hany : (t.sessions.lookup g.sessionId).any Session.active := by
      rw [hsid, hsess]
      exact hact
    simp [refreshable, (hi.wf.goal _ _ hl).1, hinc, hw g hl, hany]
  have he' : (t.rebuildReadiness env).Selectable env e := by
    rw [hr.rebuilt]
    exact he
  obtain ⟨-, f, hf, hitem⟩ := selectable_turn hi.wf ht hp he' rfl
  have hobs : e.observedToSeq = f.observedToSeq := congrArg Item.observedToSeq hitem
  exact hobs.trans (window_of_fields (hi.book.numbered _) hsess hf).2.2

/-- What an acquisition has leased: the run holds its lease on the Goal as it is, and has
    read the log up to its end. -/
structure LeasedTo (s : State) (lease : Lease) (run : DispatchRun) : Prop where
  record : s.dispatchRuns.lookup lease.runId = some run
  lease : Lease.Of lease run
  acquired : run.leaseState = .acquired
  goal : ∃ g, s.goals.lookup run.goalId = some g ∧ g.sessionId = run.sessionId ∧
    g.body = run.observedGoalBody
  window : run.observedToSeq = (s.log run.sessionId).length

theorem leased_window {sys : Sys} (h : storeSystem.Reachable sys) {filter : Option String}
    {lease : Lease} (hacq : sys.store.acquireDispatchLease env filter = .ok (s', some lease))
    (hw : ∀ g, s'.goals.lookup lease.goalId = some g → g.waiting = none) :
    ∃ run, s'.LeasedTo lease run := by
  obtain ⟨loaded, hl, ⟨-, hnone, -⟩ | ⟨c, goal, session, hc, hck, hs', hlease⟩⟩ :=
    acquire_cases hacq
  · cases hnone
  obtain ⟨hi, hsound, hx, hwin⟩ := (reachable_safe h).load hl
  have hm := moves_reconcile (P := Label.Orderly) hi trivial env
  have hi' := hm.intact hi
  have hsound' := hm.sound hsound
  have ht := tidy_of_exclusive (steps_safe hm.steps (fun _ h => h) hx hwin).1
  have hlive := reconcile_live loaded env (coherent_of_sound hi hsound)
  have hnext : loaded.chosenEntry env filter = _ := next_of_refreshed hlive.refreshed filter
  generalize (loaded.reconcileDispatchLiveness env).1 = t at hi' hsound' ht hlive hnext
  rw [hnext] at hc hck hs' hlease
  dsimp only at hc hck hs' hlease
  have hsel := selectable_of_chosen hi'.wf hc
  obtain ⟨hg, -⟩ := checkLease_spec hck
  obtain ⟨g, hgl, hsid, -⟩ := goal_of_entry hi'.wf hsound' hsel.mem
  obtain rfl := Option.some.inj (hgl.symm.trans hg)
  generalize (t.dispatchReadiness.zipIdx.map fun e : Readiness × Nat => _) = q at hs' hlease
  obtain ⟨F, threads, full, rid, run, -, hF, hrun, hid, hof, hstate⟩ :=
    leaseEntry_spec { t with dispatchReadiness := q } env c g session
  generalize leaseEntry { t with dispatchReadiness := q } env c g session = leased at *
  obtain ⟨leased, lease'⟩ := leased
  obtain rfl := Option.some.inj hlease
  dsimp only at hs' hid hof hstate
  have hgoals : s'.goals = t.goals := by
    rw [hs', hstate]
    rfl
  have hlog : s'.log = t.log := by
    rw [hs', log_save, hstate]
    rfl
  have hruns : s'.dispatchRuns = t.dispatchRuns.insert rid run := by
    rw [hs', hstate]
    rfl
  have hgid : lease.goalId = c.entry.goalId := hof.goalId.trans hrun.goalId
  rw [hgoals, hgid] at hw
  refine ⟨run, ?_, hof, hrun.leaseState,
    ⟨g, ?_, hrun.sessionId.symm, hrun.observedGoalBody.symm⟩, ?_⟩
  · rw [hruns, hid, Dict.lookup_insert_of, if_pos rfl]
  · rw [hgoals, hrun.goalId]
    exact hgl
  · rw [hlog, hrun.observedToSeq, hrun.sessionId, hsid]
    exact window_of_selectable hi' hsound' ht hlive.refreshed hsel hw

end State

open State

/-! ## The result of a lease -/

/-- The entry is a Message of the run itself, or a signal. -/
def LogEntry.Own (rid : Nat) (e : LogEntry) : Prop :=
  e.isSignal ∨ ∃ m ∈ e.message?, m.payload.runId = some rid

instance (rid : Nat) (e : LogEntry) : Decidable (e.Own rid) :=
  inferInstanceAs (Decidable (_ ∨ ∃ m ∈ e.message?, _))

theorem LogEntry.Own.harmless {rid : Nat} {e : LogEntry} (h : e.Own rid) :
    requirementConflict rid e = none ∧ e.isEdit = false := by
  unfold requirementConflict LogEntry.isEdit
  rcases h with hs | ⟨m, hm, hr⟩
  · unfold LogEntry.isSignal at hs
    split at hs
    · next hb => simp [hb]
    · cases hs
  · unfold LogEntry.message? at hm
    split at hm
    · next hb =>
      cases hm
      simp [hb, hr]
    · cases hm

/-- **The commit applies what the agent has returned**: it passes the fence. -/
def State.Applies (t : State) (env : Env) (lease : Lease) (agentEnd : AgentEnd) : Prop :=
  ∃ run goal session, t.dispatchRuns.lookup lease.runId = some run ∧
    t.goals.lookup lease.goalId = some goal ∧ t.sessions.lookup lease.sessionId = some session ∧
    t.staleDispatchFence lease.runId run (commitRole lease run agentEnd) = none ∧
    t.commitLoaded env lease agentEnd = t.applyEnd env lease run goal session agentEnd

/-- **A lease that is not fenced without cause**: its window ends where the log ends, and as
    long as the log gets nothing but what the run writes and signals, and the run keeps its
    lease, a commit applies the result. -/
structure Sys.Honoured (sys : Sys) (lease : Lease) : Prop where
  window : ∀ run, sys.store.dispatchRuns.lookup lease.runId = some run →
    run.observedToSeq = sys.store.latestSessionLogSeq lease.sessionId
  applied : ∀ as es env agentEnd t,
    (sys.nexts as).store.log lease.sessionId = sys.store.log lease.sessionId ++ es →
    (∀ e ∈ es, e.Own lease.runId) →
    (∃ run, (sys.nexts as).store.dispatchRuns.lookup lease.runId = some run ∧
      run.leaseState = .acquired) →
    (sys.nexts as).store.load env = .ok t → t.Applies env lease agentEnd

variable {sys : Sys} {lease : Lease}

/-- A run is there at any later time, with the same work. -/
theorem run_nexts_later (hS : sys.Safe) (as : List Action) {rid : Nat} {r : DispatchRun}
    (hr : sys.store.dispatchRuns.lookup rid = some r) :
    ∃ r', (sys.nexts as).store.dispatchRuns.lookup rid = some r' ∧ Ledger.Later r r' := by
  induction as generalizing sys r with
  | nil => exact ⟨r, hr, .refl r⟩
  | cons a as ih =>
    obtain ⟨r₁, hr₁, hl₁⟩ := (onward_next hS a).run rid r hr
    obtain ⟨r', hr', hl'⟩ := ih (hS.next a) hr₁
    exact ⟨r', hr', hl₁.trans hl'⟩

/-- **The run of a leased entry passes the fence** for what it writes itself. -/
theorem unfenced_of_own (h : storeSystem.Reachable sys) {run run' : DispatchRun}
    (hleased : sys.store.LeasedTo lease run) {as : List Action} {es : List LogEntry}
    (hes : (sys.nexts as).store.log run.sessionId = sys.store.log run.sessionId ++ es)
    (hown : ∀ e ∈ es, e.Own lease.runId) (hl : Ledger.Later run run')
    (hacq : run'.leaseState = .acquired) :
    (sys.nexts as).store.Unfenced lease.runId run' run'.role := by
  have hS := reachable_safe h
  have hkept := kept_nexts hS.inv as
  have hsid : run'.sessionId = run.sessionId := congrArg Prod.fst hl.key
  refine ⟨rfl, hacq, ?_, fun e he hseq => ?_⟩
  · obtain ⟨g, hg, hgs, hbody⟩ := hleased.goal
    obtain ⟨g', hg', -, hsame | ⟨es', hes', e, he, hedit⟩⟩ := hkept.goal run.goalId g hg
    · exact ⟨g', hl.goalId.symm ▸ hg', by rw [hsame, hbody, hl.observedGoalBody]⟩
    · rw [hgs] at hes'
      obtain rfl := List.append_cancel_left (hes.symm.trans hes')
      rw [(hown e he).harmless.2] at hedit
      cases hedit
  · rw [hsid, hes] at he
    rcases List.mem_append.1 he with he | he
    · have hn := hS.inv.stored.book.numbered run.sessionId
      have hmem : e.seq ∈ List.range' (0 + 1) (sys.store.log run.sessionId).length :=
        hn ▸ List.mem_map_of_mem he
      have hle := (List.mem_range'_1.1 hmem).2
      rw [hl.observedToSeq, hleased.window] at hseq
      omega
    · exact (hown e he).harmless.1

/-- A result that passes the fence is applied. -/
theorem State.applies_of_unfenced {t : State} {env : Env} {agentEnd : AgentEnd}
    {run : DispatchRun} (hr : t.dispatchRuns.lookup lease.runId = some run)
    (hof : Lease.Of lease run) (hs : run.sessionId ∈ t.sessions)
    (hu : t.Unfenced lease.runId run run.role) : t.Applies env lease agentEnd := by
  have hrole : commitRole lease run agentEnd = run.role := by
    cases agentEnd with
    | result => exact hof.role
    | failed => rfl
  obtain ⟨goal, hg, -⟩ := hu.goal
  obtain ⟨session, hs⟩ := Dict.mem_iff_lookup.1 hs
  rw [← hof.goalId] at hg
  rw [← hof.sessionId] at hs
  have hfence : t.staleDispatchFence lease.runId run (commitRole lease run agentEnd) = none :=
    fence_eq_none.2 (hrole.symm ▸ hu)
  refine ⟨run, goal, session, hr, hg, hs, hfence, ?_⟩
  unfold commitLoaded
  rw [hr, hg, hs]
  cases agentEnd with
  | result result =>
    unfold commitRole at hfence
    simp only [hfence]
    unfold applyEnd
    cases lease.role <;> rfl
  | failed error =>
    unfold commitRole at hfence
    simp only [hfence]
    rfl

theorem nexts_append (sys : Sys) (as bs : List Action) :
    sys.nexts (as ++ bs) = (sys.nexts as).nexts bs := List.foldl_append

theorem nexts_concat (sys : Sys) (as : List Action) (a : Action) :
    sys.nexts (as ++ [a]) = (sys.nexts as).next a := nexts_append sys as [a]

theorem acquired_of_toOption {x : Except Err (State × Option Lease)} {lease : Lease}
    {P : State → Prop} (h : x.toOption.map Prod.snd = some (some lease))
    (hP : ∀ r ∈ x.toOption, P r.1) : ∃ s', x = .ok (s', some lease) ∧ P s' := by
  cases x with
  | error => cases h
  | ok r =>
    obtain ⟨s', l⟩ := r
    obtain rfl : l = some lease := Option.some.inj h
    exact ⟨s', rfl, hP _ rfl⟩

/-- What the GoalManager writes while it is at work. -/
def reporting : List Action :=
  [⟨clock 3, .appendRuntimeMessage "a"
    { sender := "svc-codex", group := "manage", recipient := "Session", body := "half of it is done"
      runId := some (newStore.nexts started).firstLease.runId }⟩]

/-- A Worker's entry, left over by a Goal that waits, is leased. -/
def leftToWorker : List Action := queuedThenWaits ++ [⟨clock 7, .acquire none⟩]

end Aize
