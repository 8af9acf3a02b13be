/-
  What a commit changes when its result is fenced.

  `Discarded` is the frame that both kinds of discarded results share: users, Units,
  Goals, threads, edges and the other runs stay, and the log of the Session gets one
  signal. A run that had lost its lease changes nothing else; one that still held it
  gives it back, with its entry and its window (`commit_inert`).
-/
import Aize.Reachable

namespace Aize
namespace State

variable {s s' : State} {env : Env} {lease : Lease} {run : DispatchRun} {agentEnd : AgentEnd}

/-- Of the dispatch state only run `runId` may have changed, and the log of the Session `sid`
    has one more entry, a signal. -/
structure Discarded (s s' : State) (runId : Nat) (sid : String) : Prop where
  goals : s'.goals = s.goals
  units : s'.units = s.units
  agentThreads : s'.agentThreads = s.agentThreads
  users : s'.users = s.users
  sessionEdges : s'.sessionEdges = s.sessionEdges
  agentProfiles : s'.agentProfiles = s.agentProfiles
  endpointCursors : s'.endpointCursors = s.endpointCursors
  runs : ∀ x, x ≠ runId → s'.dispatchRuns.lookup x = s.dispatchRuns.lookup x
  log : ∃ e signal, e.body = .systemSignal signal ∧
    ∀ x, s'.log x = s.log x ++ if x = sid then [e] else []

/-- Nothing else has changed, but for the evidence that the run keeps. -/
structure Inert (s s' : State) (runId : Nat) (run : DispatchRun) : Prop where
  frame : Discarded s s' runId run.sessionId
  sessions : s'.sessions = s.sessions
  dispatchReadiness : s'.dispatchReadiness = s.dispatchReadiness
  run : ∃ evidence, s'.dispatchRuns.lookup runId =
    some { run with staleResults := run.staleResults ++ [evidence] }

/-- The run has given its lease back: its acquired entry is stale, and its role has read its
    window. -/
structure GivenBack (s s' : State) (runId : Nat) (run : DispatchRun) (role : Role) : Prop where
  frame : Discarded s s' runId run.sessionId
  sessions : s'.sessions = (s.setRoleCursor run.sessionId role run.observedToSeq).sessions
  dispatchReadiness : s'.dispatchReadiness = s.dispatchReadiness.map fun e =>
    if e.readinessId = run.readinessId && e.status = .acquired then { e with status := .stale } else e
  run : ∃ evidence, s'.dispatchRuns.lookup runId = some
    { run.released with staleResults := run.staleResults ++ [evidence] }

/-- The signal of a discarded result comes after changes that leave the logs alone. -/
theorem discarded_signal {t : State} (hf : s.SignalsFresh) {runId : Nat} {sid : String}
    (hlog : t.log = s.log) (hnext : t.nextId = s.nextId) (hgoals : t.goals = s.goals)
    (hunits : t.units = s.units) (hthreads : t.agentThreads = s.agentThreads)
    (husers : t.users = s.users) (hedges : t.sessionEdges = s.sessionEdges)
    (hprofiles : t.agentProfiles = s.agentProfiles) (hcursors : t.endpointCursors = s.endpointCursors)
    (hruns : ∀ x, x ≠ runId → t.dispatchRuns.lookup x = s.dispatchRuns.lookup x)
    (signalType body actor createdAt : String) (targetRoles : List Role) (r : Option Nat) :
    Discarded s (t.logSystemSignal sid signalType body targetRoles actor createdAt r) runId sid := by
  have hft : t.SignalsFresh := fun x e he id hid => hnext ▸ hf x e (hlog ▸ he) id hid
  obtain ⟨e, he⟩ := log_logSystemSignal hft sid signalType body targetRoles actor createdAt r .absent
  obtain ⟨p, n, h, -⟩ := (signalled_logSystemSignal t sid signalType body targetRoles actor createdAt r
    .absent).frame
  have hlog' : ∀ x, (t.logSystemSignal sid signalType body targetRoles actor createdAt r).log x =
      s.log x ++ if x = sid then [e] else [] := fun x => by rw [← hlog]; exact (he x).1
  refine ⟨?_, ?_, ?_, ?_, ?_, ?_, ?_, ?_, e, _, (he sid).2.1, hlog'⟩ <;> rw [h]
  all_goals assumption

/-- **What discarding a result changes.** -/
theorem discardStaleResult_spec (hf : s.SignalsFresh) {runId : Nat}
    (hr : s.dispatchRuns.lookup runId = some run) (role : Role) (reason output : String) :
    (run.leaseState ≠ .acquired →
      Inert s (s.discardStaleResult env runId run role reason output) runId run) ∧
    (run.leaseState = .acquired →
      GivenBack s (s.discardStaleResult env runId run role reason output) runId run role) := by
  unfold discardStaleResult
  dsimp only
  have hrun : (s.modifyRun runId fun run => { run with
      staleResults := run.staleResults ++ [⟨role, reason, output⟩] }).dispatchRuns.lookup runId =
        some { run with staleResults := run.staleResults ++ [⟨role, reason, output⟩] } :=
    lookup_modifyRun hr
  have hkeep : ∀ x, x ≠ runId → (s.modifyRun runId fun run =>
      { run with staleResults := run.staleResults ++ [⟨role, reason, output⟩] }).dispatchRuns.lookup x =
        s.dispatchRuns.lookup x := fun x hx => Dict.lookup_modify_ne _ _ hx
  generalize hm : (s.modifyRun runId fun run =>
    { run with staleResults := run.staleResults ++ [⟨role, reason, output⟩] }) = m at hrun hkeep ⊢
  obtain ⟨d, rfl⟩ : ∃ d, m = { s with dispatchRuns := d } := ⟨_, hm.symm⟩
  clear hm
  -- a signal leaves the collections alone
  have hruns : ∀ (u : State) (body : String), (u.logSystemSignal run.sessionId
      "StaleDispatchResultDiscarded" body [.goalManager] "dispatcher" env.utcNow.text
      (some runId)).dispatchRuns.lookup runId = u.dispatchRuns.lookup runId :=
    fun u body => congrArg (fun d : Dict Nat DispatchRun => d.lookup runId) dispatchRuns_append
  constructor
  · intro ha
    rw [if_neg ha]
    exact ⟨discarded_signal (t := { s with dispatchRuns := d }) hf rfl rfl rfl rfl rfl rfl rfl rfl rfl
      hkeep .., sessions_append, dispatchReadiness_append, _, (hruns _ _).trans hrun⟩
  · intro ha
    rw [if_pos ha]
    have hreleased := lookup_modifyRun (f := DispatchRun.released) hrun
    have hkeep' : ∀ x, x ≠ runId → (({ s with dispatchRuns := d } : State).releaseRun
        runId).dispatchRuns.lookup x = s.dispatchRuns.lookup x :=
      fun x hx => (Dict.lookup_modify_ne _ _ hx).trans (hkeep x hx)
    generalize hu : (((({ s with dispatchRuns := d } : State).releaseRun runId).modifyReadiness
      (fun e => e.readinessId = run.readinessId && e.status = .acquired)
        fun e => { e with status := .stale }).setRoleCursor run.sessionId role run.observedToSeq) = u
    have hframe : ∀ signalType body actor createdAt targetRoles r, Discarded s
        (u.logSystemSignal run.sessionId signalType body targetRoles actor createdAt r) runId
          run.sessionId := by
      subst hu
      exact discarded_signal hf rfl rfl rfl rfl rfl rfl rfl rfl rfl hkeep'
    have hsessions : u.sessions = (s.setRoleCursor run.sessionId role run.observedToSeq).sessions := by
      rw [← hu]
      rfl
    have hqueue : u.dispatchReadiness = s.dispatchReadiness.map fun e =>
        if e.readinessId = run.readinessId && e.status = .acquired then { e with status := .stale }
        else e := by
      rw [← hu]
      rfl
    have hrun' : u.dispatchRuns.lookup runId = some { run.released with
        staleResults := run.staleResults ++ [⟨role, reason, output⟩] } := by
      rw [← hu]
      exact hreleased
    exact ⟨hframe .., sessions_append.trans hsessions, dispatchReadiness_append.trans hqueue, _,
      (hruns _ _).trans hrun'⟩

/-- A run that has given its lease back is fenced off. -/
theorem fenced_of_released (h : run.leaseState ≠ .acquired) (role : Role) :
    s.staleDispatchFence lease.runId run role ≠ none :=
  fun hfence => h (fence_eq_none.1 hfence).acquired

/-- What becomes of a result that is fenced off. -/
theorem commit_fenced (hf : s.SignalsFresh) (hr : s.dispatchRuns.lookup lease.runId = some run)
    (h : s.commitLoaded env lease agentEnd = .ok s')
    (hfence : s.staleDispatchFence lease.runId run (commitRole lease run agentEnd) ≠ none) :
    (run.leaseState ≠ .acquired → Inert s s' lease.runId run) ∧
      (run.leaseState = .acquired →
        GivenBack s s' lease.runId run (commitRole lease run agentEnd)) := by
  obtain ⟨hnone, -⟩ | ⟨run', goal, session, hr', -, -, hcases⟩ := commitLoaded_cases h
  · rw [hr] at hnone
    cases hnone
  · rw [hr] at hr'
    cases hr'
    rcases hcases with ⟨reason, -, rfl⟩ | ⟨hnone, -⟩
    · exact @discardStaleResult_spec _ env _ hf _ hr (commitRole lease run agentEnd) reason
        agentEnd.output
    · exact absurd hnone hfence

/-- **Fenced commits are inert**: a result whose run has lost its lease changes nothing but the
    evidence of the run and the log; one that still held it only gives back its lease, its entry
    and its window. -/
theorem commit_inert (hf : s.SignalsFresh) (hr : s.dispatchRuns.lookup lease.runId = some run)
    (h : s.commitLoaded env lease agentEnd = .ok s') :
    (run.leaseState ≠ .acquired → Inert s s' lease.runId run) ∧
      (run.leaseState = .acquired →
        s.staleDispatchFence lease.runId run (commitRole lease run agentEnd) ≠ none →
          GivenBack s s' lease.runId run (commitRole lease run agentEnd)) :=
  ⟨fun ha => (commit_fenced hf hr h (fenced_of_released ha _)).1 ha,
    fun ha hfence => (commit_fenced hf hr h hfence).2 ha⟩

/-- A GoalManager that returns after a recovery. -/
theorem commit_inert_recovered : ∃ run s', run.leaseState = .interrupted ∧
    (loadedAfter recovered (clock 4)).commitLoaded (clock 4) (newStore.nexts started).firstLease
      (.failed "late") = .ok s' ∧
    Inert (loadedAfter recovered (clock 4)) s' (newStore.nexts started).firstLease.runId run := by
  obtain ⟨run, hr, ha⟩ : ∃ run, (loadedAfter recovered (clock 4)).dispatchRuns.lookup
      (newStore.nexts started).firstLease.runId = some run ∧ run.leaseState = .interrupted := by
    decide +kernel
  have hok := ok_getD (x := (loadedAfter recovered (clock 4)).commitLoaded (clock 4)
    (newStore.nexts started).firstLease (.failed "late")) (by decide +kernel)
  have hloaded : (loadedAfter recovered (clock 4)).Loaded := loaded_after (by decide +kernel)
  refine ⟨run, _, ha, hok, (commit_inert hloaded.safe.1.wf.signalsFresh hr hok).1 ?_⟩
  rw [ha]
  decide

end State
end Aize
