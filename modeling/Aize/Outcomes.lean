/-
  Declared outcomes, and the waits that they give to Goals.

  A GoalManager run declares its outcome once, while it holds its lease (`declared_once`).
  A Goal waits only as such a run has declared: `Vouches` is what is known of the run. What
  came into the log after the window of the run and before the wake number of its wait
  would have made the result stale, so no wake-up falls between the two (`unseen`).

  * `outcomes_account_for_waits`: both hold in every run of the store.
  * `waits_end_exactly`: a reconciliation ends the waits that are over, and no others; a
    wake-up by others that the run had not seen makes its wait over.
-/
import Aize.Editing
import Aize.Waits
import Aize.References

namespace Aize
namespace State

variable {s s' : State} {env : Env} {sid : String} {goalId rid : Nat}

/-! ## Waits -/

/-- A wait of a Session: it begins in the log, and what it waits for has a name. -/
structure BoundedWait (s : State) (sid : String) (w : Waiting) : Prop where
  wake : w.wakeLogSeq ≤ (s.log sid).length
  event : ∀ name, w.kind = .event name → name ≠ ""
  child : ∀ c, w.kind = .child c → c ≠ "" ∧ c ∈ s.sessions

/-- **What `_normalize_goal_waiting_spec` accepts**: the wait begins at the end of the log. -/
theorem bounded_of_normalize (hn : Numbered 0 (s.log sid)) {spec : WaitSpec} {w : Waiting}
    (h : s.normalizeGoalWaitingSpec env sid spec = .ok w) : s.BoundedWait sid w := by
  have hwake : s.latestSessionLogSeq sid ≤ (s.log sid).length := (latestSessionLogSeq_eq hn).le
  unfold normalizeGoalWaitingSpec at h
  dsimp only at h
  split_ifs at h
  · obtain ⟨-, h⟩ := Except.require_bind_eq_ok.1 h
    cases hinstant : spec.waitUntil.strip.instant with
    | none =>
      rw [hinstant] at h
      cases h
    | some deadline =>
      rw [hinstant] at h
      obtain ⟨-, h⟩ := Except.require_bind_eq_ok.1 h
      obtain rfl := Except.ok.inj h
      refine ⟨hwake, ?_, ?_⟩ <;> rintro _ ⟨⟩
  · obtain ⟨hne, h⟩ := Except.require_bind_eq_ok.1 h
    obtain rfl := Except.ok.inj h
    refine ⟨hwake, ?_, ?_⟩
    · rintro _ ⟨⟩
      exact hne
    · rintro _ ⟨⟩
  · obtain ⟨hne, h⟩ := Except.require_bind_eq_ok.1 h
    obtain ⟨hmem, h⟩ := Except.require_bind_eq_ok.1 h
    obtain rfl := Except.ok.inj h
    refine ⟨hwake, ?_, ?_⟩
    · rintro _ ⟨⟩
    · rintro _ ⟨⟩
      exact ⟨hne, hmem⟩
  · cases h

/-- What a GoalManager run has declared. -/
structure Decided (s : State) (r : DispatchRun) (d : Declaration) : Prop where
  role : r.role = .goalManager
  bounded : ∀ w, d.decision = .waiting w → s.BoundedWait r.sessionId w

/-- The wait of a Goal comes from this run. -/
structure Vouches (s : State) (goalId : Nat) (g : Goal) (w : Waiting) (rid : Nat)
    (r : DispatchRun) : Prop where
  run : s.dispatchRuns.lookup rid = some r
  goalId : r.goalId = goalId
  sessionId : r.sessionId = g.sessionId
  ended : r.leaseState ≠ .acquired
  declared : ∃ wait declaredBy, r.declaredOutcome = some ⟨.waiting wait, w.reason, declaredBy⟩ ∧
    w = { wait with reason := w.reason, declaredRunId := some rid }
  unseen : ∀ e ∈ s.log g.sessionId, r.observedToSeq < e.seq → e.seq ≤ w.wakeLogSeq →
    requirementConflict rid e = none

/-- Every outcome and every wait is accounted for. -/
structure Accountable (s : State) : Prop where
  decided : ∀ rid r d, s.dispatchRuns.lookup rid = some r → r.declaredOutcome = some d →
    s.Decided r d
  waits : ∀ goalId g w, s.goals.lookup goalId = some g → g.waiting = some w →
    ∃ rid r, s.Vouches goalId g w rid r

theorem Vouches.bounded (h : s.Accountable) {g : Goal} {w : Waiting} {r : DispatchRun}
    (hv : s.Vouches goalId g w rid r) : s.BoundedWait g.sessionId w := by
  obtain ⟨wait, declaredBy, hd, hw⟩ := hv.declared
  have hb := (h.decided rid r _ hv.run hd).bounded wait rfl
  rw [hv.sessionId] at hb
  rw [hw]
  exact ⟨hb.wake, hb.event, hb.child⟩

/-! ## What an operation keeps of them -/

/-- What the step of the system from `s` to `s'` does to runs, Sessions and logs. -/
structure Onward (s s' : State) : Prop where
  run : ∀ rid r, s.dispatchRuns.lookup rid = some r →
    ∃ r', s'.dispatchRuns.lookup rid = some r' ∧ Ledger.Later r r'
  log : ∀ x, s.log x <+: s'.log x
  numbered : ∀ x, Numbered 0 (s'.log x)
  sessions : ∀ x ∈ s.sessions, x ∈ s'.sessions

/-- An entry whose number is in the old log is in it. -/
theorem Onward.old (h : Onward s s') {x : String} {e : LogEntry} (he : e ∈ s'.log x)
    (hseq : e.seq ≤ (s.log x).length) : e ∈ s.log x := by
  obtain ⟨es, hes⟩ := h.log x
  have hn := h.numbered x
  rw [← hes] at he hn
  rcases List.mem_append.1 he with he | he
  · exact he
  · have hes' : es.map LogEntry.seq = List.range' (0 + (s.log x).length + 1) es.length :=
      (Numbered.of_append hn).2
    have hmem : e.seq ∈ List.range' (0 + (s.log x).length + 1) es.length :=
      hes' ▸ List.mem_map_of_mem he
    have := List.mem_range'_1.1 hmem
    omega

theorem BoundedWait.onward {w : Waiting} (hb : s.BoundedWait sid w) (h : Onward s s') :
    s'.BoundedWait sid w :=
  ⟨hb.wake.trans (h.log sid).length_le, hb.event, fun c hc =>
    (hb.child c hc).imp_right (h.sessions c)⟩

theorem Decided.onward {r r' : DispatchRun} {d : Declaration} (hd : s.Decided r d)
    (h : Onward s s') (hl : Ledger.Later r r') : s'.Decided r' d where
  role := (congrArg Prod.snd hl.key).trans hd.role
  bounded w hw := by
    have hkey : r'.sessionId = r.sessionId := congrArg Prod.fst hl.key
    rw [hkey]
    exact (hd.bounded w hw).onward h

/-- The same wait is vouched for by the run as it is now. -/
theorem Vouches.onward {g g' : Goal} {w : Waiting} {r r' : DispatchRun}
    (hv : s.Vouches goalId g w rid r) (h : Onward s s') (hb : s.BoundedWait g.sessionId w)
    (hg : g'.sessionId = g.sessionId) (hr' : s'.dispatchRuns.lookup rid = some r')
    (hl : Ledger.Later r r') (hd : r'.declaredOutcome = r.declaredOutcome) :
    s'.Vouches goalId g' w rid r' where
  run := hr'
  goalId := hl.goalId.trans hv.goalId
  sessionId := (congrArg Prod.fst hl.key).trans (hv.sessionId.trans hg.symm)
  ended ha := hv.ended (hl.acquired ha)
  declared := hd ▸ hv.declared
  unseen e he hobs hwake := by
    rw [hg] at he
    rw [hl.observedToSeq] at hobs
    exact hv.unseen e (h.old he (hwake.trans hb.wake)) hobs hwake

end State

/-! ## The end of a run -/

namespace State

variable {s s' : State} {env : Env} {lease : Lease} {r : DispatchRun}

theorem released_finishRun {rid : Nat} {role : Role} {r' : DispatchRun}
    (h : (s.finishRun env lease rid r role).dispatchRuns.lookup rid = some r') :
    r'.leaseState = .released := by
  unfold finishRun touchSession releaseRun modifyRun at h
  dsimp only [State.modifySession] at h
  rw [Dict.lookup_modify_self] at h
  obtain ⟨r₀, -, rfl⟩ := Option.map_eq_some_iff.1 h
  rfl

theorem dispatchRuns_markDelivered (messages : List Message) :
    (s.markSessionMessagesDelivered messages).dispatchRuns = s.dispatchRuns := by
  obtain ⟨cursors, h⟩ := markDelivered_eq s messages
  rw [h]

/-- Whatever an agent has returned, its run gives the lease back. -/
theorem released_applyEnd {goal : Goal} {session : Session} {agentEnd : AgentEnd}
    (hok : s.applyEnd env lease r goal session agentEnd = .ok s') {r' : DispatchRun}
    (h : s'.dispatchRuns.lookup lease.runId = some r') : r'.leaseState = .released := by
  cases agentEnd with
  | failed error =>
    rw [← Except.ok.inj hok] at h
    unfold applyDispatchError at h
    dsimp only at h
    rw [dispatchRuns_markDelivered] at h
    exact released_finishRun h
  | result result =>
    unfold applyEnd at hok
    cases hrole : lease.role with
    | goalManager =>
      rw [hrole] at hok
      obtain ⟨s₁, -, hok⟩ := Except.bind_eq_ok.1 hok
      rw [← Except.pure_eq_ok.1 hok, dispatchRuns_markDelivered] at h
      exact released_finishRun h
    | workerAgent =>
      rw [hrole] at hok
      rw [← Except.ok.inj hok] at h
      unfold applyWorkerRun at h
      dsimp only at h
      exact released_finishRun h

/-- **A commit that applies its result ends the run.** -/
theorem released_commit (hs : s.Stored) {agentEnd : AgentEnd} (hof : Lease.Of lease r)
    (hr : s.dispatchRuns.lookup lease.runId = some r) (hu : s.Unfenced lease.runId r r.role)
    (h : s.commitRun env lease agentEnd = .ok s') {r' : DispatchRun}
    (hr' : s'.dispatchRuns.lookup lease.runId = some r') : r'.leaseState = .released := by
  unfold commitRun at h
  obtain ⟨loaded, hl, h⟩ := Except.bind_eq_ok.1 h
  obtain ⟨t, ht, h⟩ := Except.bind_eq_ok.1 h
  obtain rfl := Except.pure_eq_ok.1 h
  have hrep := hs.load (P := fun _ => True) trivial hl
  have hrl : loaded.dispatchRuns.lookup lease.runId = some r := by
    rw [hrep.effect.runs]
    exact hr
  have hul := hu.congr hrep.goals.symm (log_congr hrep.persisted hrep.pending).symm
  rcases commitLoaded_cases ht with ⟨hnone, -⟩ | ⟨run, goal, session, hrun, -, -, hcases⟩
  · cases hnone.symm.trans hrl
  · obtain rfl := Option.some.inj (hrun.symm.trans hrl)
    have hrole : commitRole lease run agentEnd = run.role := by
      cases agentEnd with
      | result => exact hof.role
      | failed => rfl
    rw [hrole] at hcases
    rcases hcases with ⟨reason, hstale, -⟩ | ⟨-, happly⟩
    · cases (fence_eq_none.2 hul).symm.trans hstale
    · exact released_applyEnd happly hr'

end State

/-! ## What one operation does -/

/-- No step of a ledger loses a Session. -/
theorem Ledger.Step.session_forth {c c' : Ledger} {lb : Label} (h : Ledger.Step c lb c')
    {sid : String} (hv : c.session sid ≠ none) : c'.session sid ≠ none := by
  obtain ⟨v, hv⟩ := Option.ne_none_iff_exists'.1 hv
  cases h with
  | book hb =>
    obtain ⟨v', hv', -⟩ := (hb.session_grows sid).2 v hv
    exact Option.ne_none_iff_exists'.2 ⟨v', hv'⟩
  | clamp =>
    change (Book.setSession _ _ _).session sid ≠ none
    rw [Book.setSession_session]
    split_ifs
    · exact Option.some_ne_none _
    · exact Option.ne_none_iff_exists'.2 ⟨v, hv⟩
  | release =>
    change (if sid = _ then (c.session sid).map _ else c.session sid) ≠ none
    split_ifs <;> rw [hv] <;> exact Option.some_ne_none _
  | _ => exact Option.ne_none_iff_exists'.2 ⟨v, hv⟩

open State

variable {sys : Sys} {env : Env} {op : Op} {rid : Nat}

theorem onward_next (hS : sys.Safe) (a : Action) : Onward sys.store (sys.next a).store := by
  obtain ⟨hI, hst⟩ := next_stores hS.inv a
  refine ⟨fun rid r hr => hst.steps.run_forth (fun h => h) hr,
    ((next_edits hS.inv.stored a).spec hS.inv.stored).1, hI.stored.book.numbered, fun x hx => ?_⟩
  have hv : sys.store.ledger.session x ≠ none := fun h => view_eq_none.1 h hx
  have hv' := hst.steps.invariant (I := fun c => c.session x ≠ none) hv fun _ _ _ hc _ hs =>
    hs.session_forth hc
  by_contra hno
  exact hv' (view_eq_none.2 hno)

/-- Only the declarations give an outcome to a run, and only to a GoalManager run that holds
    its lease and has none. -/
theorem Op.declares_cases {s : State} {d : Option Declaration}
    (h : (op.powers env s).declares rid d) : ∃ sid run, s.Declares sid rid run ∧
      ∀ w reason declaredBy, d = some ⟨.waiting w, reason, declaredBy⟩ →
        ∃ loaded spec, s.load env = .ok loaded ∧
          loaded.normalizeGoalWaitingSpec env sid spec = .ok w := by
  cases op with
  | declareCompletion sessionId =>
    obtain ⟨-, ⟨run, hrun⟩, hne⟩ := h
    exact ⟨sessionId, run, hrun, fun w reason declaredBy hd => absurd hd (hne w reason declaredBy)⟩
  | declareWaiting sessionId spec =>
    obtain ⟨-, ⟨run, hrun⟩, loaded, wait, reason, declaredBy, hl, hw, rfl⟩ := h
    refine ⟨sessionId, run, hrun, ?_⟩
    rintro _ _ _ ⟨⟩
    exact ⟨loaded, spec, hl, hw⟩
  | _ => exact h.elim

/-- Only a commit gives a wait to a Goal. -/
theorem Op.waits_cases {s : State} {goalId : Nat} {w : Waiting}
    (h : (op.powers env s).waits goalId (some w)) : ∃ lease agentEnd, op = .commit lease agentEnd ∧
      (Powers.committing s lease).waits goalId (some w) := by
  cases op with
  | commit lease agentEnd => exact ⟨lease, agentEnd, rfl, h⟩
  | acquire => cases h
  | restart => cases h
  | appendUserInput => cases h
  | _ => exact h.elim

/-- **A run declares once**: no operation changes an outcome. -/
theorem declared_once (hS : sys.Safe) (a : Action) {r : DispatchRun} {d : Declaration}
    (hr : sys.store.dispatchRuns.lookup rid = some r) (hd : r.declaredOutcome = some d) :
    ∃ r', (sys.next a).store.dispatchRuns.lookup rid = some r' ∧ Ledger.Later r r' ∧
      r'.declaredOutcome = r.declaredOutcome := by
  obtain ⟨r', hr', hl⟩ := (onward_next hS a).run rid r hr
  refine ⟨r', hr', hl, ?_⟩
  obtain ⟨-, -, -, hrun⟩ := (next_edits hS.inv.stored a).spec hS.inv.stored
  rcases hrun rid r' hr' with ⟨hnone, -⟩ | hdec | ⟨r₀, hr₀, h⟩
  · cases hnone.symm.trans hr
  · obtain ⟨sid, run, hrun, -⟩ := Op.declares_cases hdec
    obtain rfl := Option.some.inj (hrun.lookup.symm.trans hr)
    cases hrun.undeclared.symm.trans hd
  · obtain rfl := Option.some.inj (hr₀.symm.trans hr)
    exact h

/-- What a run declares, it may declare. -/
theorem decided_next (hS : sys.Safe) (hh : sys.store.Housed) (h : sys.store.Accountable) (a : Action)
    {r' : DispatchRun} {d : Declaration}
    (hr' : (sys.next a).store.dispatchRuns.lookup rid = some r')
    (hd : r'.declaredOutcome = some d) : (sys.next a).store.Decided r' d := by
  have hon := onward_next hS a
  obtain ⟨-, -, -, hrun⟩ := (next_edits hS.inv.stored a).spec hS.inv.stored
  have kept : ∀ {r}, sys.store.dispatchRuns.lookup rid = some r → Ledger.Later r r' := by
    intro r hr
    obtain ⟨r₁, hr₁, hl⟩ := hon.run rid r hr
    exact Option.some.inj (hr₁.symm.trans hr') ▸ hl
  rcases hrun rid r' hr' with ⟨-, hnone⟩ | hdec | ⟨r, hr, hsame⟩
  · cases hnone.symm.trans hd
  · obtain ⟨sid, r, hrun, hwait⟩ := Op.declares_cases hdec
    have hdecided : sys.store.Decided r d := by
      refine ⟨hrun.role, fun w hw => ?_⟩
      obtain ⟨loaded, spec, hl, hnorm⟩ := hwait w d.reason d.declaredBy (by rw [hd, ← hw])
      have hrep := hS.inv.stored.load (P := fun _ => True) trivial hl
      have hlog : loaded.log = sys.store.log := log_congr hrep.persisted hrep.pending
      have hb := bounded_of_normalize (hlog ▸ hS.inv.stored.book.numbered sid) hnorm
      have hwake := hb.wake
      rw [hlog] at hwake
      rw [hrun.sessionId]
      exact ⟨hwake, hb.event, fun c hc =>
        (hb.child c hc).imp_right fun hmem => (hh.same_load hl).mem_sessions.1 hmem⟩
    exact hdecided.onward hon (kept hrun.lookup)
  · exact (h.decided rid r d hr (hsame ▸ hd)).onward hon (kept hr)

/-- A wait that a commit has given to a Goal is the one its run has declared. -/
theorem vouches_commit (hS : sys.Safe) (h : sys.store.Accountable) {sys' : Sys}
    (hok : op.exec env sys = .ok sys') {goalId : Nat} {g' : Goal} {w : Waiting}
    (hp : (op.powers env sys.store).waits goalId (some w))
    (hg' : sys'.store.goals.lookup goalId = some g') :
    ∃ rid r, sys'.store.Vouches goalId g' w rid r := by
  obtain ⟨lease, agentEnd, rfl, rfl, run, wait, reason, declaredBy, hr, hd, hw, hu⟩ :=
    Op.waits_cases hp
  obtain rfl := Option.some.inj hw
  have hnext : sys.next ⟨env, .commit lease agentEnd⟩ = sys' := by
    unfold Sys.next
    rw [hok]
  have hon := onward_next hS ⟨env, .commit lease agentEnd⟩
  obtain ⟨r', hr', hl, hsame⟩ := declared_once hS ⟨env, .commit lease agentEnd⟩ hr hd
  have hI := (next_stores hS.inv ⟨env, .commit lease agentEnd⟩).1
  rw [hnext] at hon hr' hI
  obtain ⟨hmem, hok⟩ := Except.require_bind_eq_ok.1 hok
  obtain ⟨store, hc, hok⟩ := Except.bind_eq_ok.1 hok
  have hof := hS.inv.lease lease hmem run hr
  have hsid : r'.sessionId = g'.sessionId := by
    obtain ⟨-, goal, hgoal⟩ := owned (hI.sound.run lease.runId r' hr').1
    obtain ⟨hlook, hgs⟩ := hI.stored.wf.currentGoal.1 hgoal
    rw [hl.goalId, ← hof.goalId] at hlook
    exact hgs.symm.trans (congrArg Goal.sessionId (Option.some.inj (hlook.symm.trans hg')))
  have hkey : r'.sessionId = run.sessionId := congrArg Prod.fst hl.key
  refine ⟨lease.runId, r', hr', hl.goalId.trans hof.goalId.symm, hsid, ?_,
    ⟨wait, declaredBy, hsame.trans hd, rfl⟩, fun e he hobs hwake => ?_⟩
  · obtain rfl := Except.pure_eq_ok.1 hok
    rw [released_commit hS.inv.stored hof hr hu hc hr']
    exact LeaseState.noConfusion
  · have hb := (h.decided lease.runId run _ hr hd).bounded wait rfl
    rw [← hsid, hkey] at he
    rw [hl.observedToSeq] at hobs
    exact hu.log e (hon.old he (hwake.trans hb.wake)) hobs

theorem accountable_next (hS : sys.Safe) (hh : sys.store.Housed) (h : sys.store.Accountable)
    (a : Action) : (sys.next a).store.Accountable where
  decided _ _ _ hr' hd := decided_next hS hh h a hr' hd
  waits goalId g' w hg' hw := by
    cases hok : a.op.exec a.env sys with
    | error =>
      have hnext : sys.next a = sys := by
        unfold Sys.next
        rw [hok]
      rw [hnext] at hg' ⊢
      exact h.waits goalId g' w hg' hw
    | ok sys' =>
      have hnext : sys.next a = sys' := by
        unfold Sys.next
        rw [hok]
      have new : (a.op.powers a.env sys.store).waits goalId g'.waiting →
          ∃ rid r, (sys.next a).store.Vouches goalId g' w rid r := by
        intro hp
        rw [hnext] at hg' ⊢
        exact vouches_commit hS h hok (hw ▸ hp) hg'
      obtain ⟨-, hgoal, hfresh, -⟩ := (next_edits hS.inv.stored a).spec hS.inv.stored
      rcases hfresh goalId g' hg' with hmem | hnone | hp
      · obtain ⟨g, hg⟩ := Dict.mem_iff_lookup.1 hmem
        obtain ⟨g'', hg'', he⟩ := hgoal goalId g hg
        obtain rfl := Option.some.inj (hg''.symm.trans hg')
        rcases he.waiting with hsame | hp
        · -- the Goal has waited before, and the run that vouches for this stays as it was
          obtain ⟨rid, r, hv⟩ := h.waits goalId g w hg (hsame ▸ hw)
          obtain ⟨_, _, hd, -⟩ := hv.declared
          obtain ⟨r', hr', hl, hd'⟩ := declared_once hS a hv.run hd
          exact ⟨rid, r', hv.onward (onward_next hS a) (hv.bounded h) he.sessionId hr' hl hd'⟩
        · exact new hp
      · cases hnone.symm.trans hw
      · exact new hp

/-! ## Runs of the store -/

theorem accountable_reachable (h : storeSystem.Reachable sys) : sys.store.Accountable := by
  refine (h.of_step (P := fun sys => sys.Safe ∧ sys.store.Housed ∧ sys.store.Accountable)
    ?_ ?_).2.2
  · rintro sys hinit
    obtain ⟨env, hnew, -⟩ := id hinit
    refine ⟨reachable_safe (.init hinit), housed_initNew hnew, ?_⟩
    -- a new store has no runs and no Goals
    obtain ⟨t, ht, hnew⟩ := Except.bind_eq_ok.1 hnew
    have hrep := repair_ensureDefaults (P := fun _ => True) intact_empty trivial ht
    rw [← Except.pure_eq_ok.1 hnew]
    refine ⟨fun rid r d hr => ?_, fun goalId g w hg => ?_⟩
    · change t.dispatchRuns.lookup rid = some r at hr
      rw [hrep.effect.runs] at hr
      cases hr
    · change t.goals.lookup goalId = some g at hg
      rw [hrep.goals] at hg
      cases hg
  · rintro sys a _ - ⟨hS, hh, h⟩ rfl
    exact ⟨hS.next a, housed_next hh a, accountable_next hS hh h a⟩

/-- **Outcomes are declared once and account for every wait.** In every reachable state only
    GoalManager runs have an outcome, a declared wait is bounded, and each Goal that waits does
    so as a run of its own has declared, which has given its lease back. Whatever follows, an
    outcome that has been declared stays with its run. -/
theorem outcomes_account_for_waits (h : storeSystem.Reachable sys) : sys.store.Accountable ∧
    ∀ as rid r d, sys.store.dispatchRuns.lookup rid = some r → r.declaredOutcome = some d →
      ∃ r', (sys.nexts as).store.dispatchRuns.lookup rid = some r' ∧ Ledger.Later r r' ∧
        r'.declaredOutcome = some d := by
  refine ⟨accountable_reachable h, fun as rid r d hr hd => ?_⟩
  have hall : ∀ (as : List Action) (sys : Sys), sys.Safe → ∀ r,
      sys.store.dispatchRuns.lookup rid = some r → r.declaredOutcome = some d →
        ∃ r', (sys.nexts as).store.dispatchRuns.lookup rid = some r' ∧ Ledger.Later r r' ∧
          r'.declaredOutcome = some d := by
    intro as
    induction as with
    | nil => exact fun sys _ r hr hd => ⟨r, hr, .refl r, hd⟩
    | cons a as ih =>
      intro sys hS r hr hd
      obtain ⟨r₁, hr₁, hl₁, hd₁⟩ := declared_once hS a hr hd
      obtain ⟨r', hr', hl', hd'⟩ := ih (sys.next a) (hS.next a) r₁ hr₁ (hd₁.trans hd)
      exact ⟨r', hr', hl₁.trans hl', hd'⟩
  exact hall as sys (reachable_safe h) r hr hd

/-- A Goal that waits for an event, and the run that has declared so. -/
theorem outcomes_account_for_waits_event : ∃ g w rid r,
    (newStore.nexts requestedThenWaits).store.goals.lookup 0 = some g ∧ g.waiting = some w ∧
      w.kind = .event "done" ∧ (newStore.nexts requestedThenWaits).store.Vouches 0 g w rid r := by
  have hall : ∃ g, (newStore.nexts requestedThenWaits).store.goals.lookup 0 = some g ∧
      ∃ w, g.waiting = some w ∧ w.kind = .event "done" := by decide +kernel
  obtain ⟨g, hg, w, hw, hkind⟩ := hall
  obtain ⟨rid, r, hv⟩ := (outcomes_account_for_waits (reachable_nexts requestedThenWaits)).1.waits
    0 g w hg hw
  exact ⟨g, w, rid, r, hg, hw, hkind, hv⟩

/-! ## The end of a wait -/

/-- The child Session whose completion an entry reports. -/
def LogEntry.completedChild? (e : LogEntry) : Option String :=
  match e.body with
  | .childGoalCompleted child .. => some child
  | _ => none

/-- The entry is what the wait waits for. -/
def Waiting.Triggers (w : Waiting) (e : LogEntry) : Prop :=
  match w.kind with
  | .deadline .. => False
  | .event name => ∃ m, e.message? = some m ∧ name ∈ m.payload.wakeEvents
  | .child c => e.completedChild? = some c

/-- The deadline has passed, or the log has what the wait waits for. -/
def Waiting.Over (w : Waiting) (now : Int) (log : List LogEntry) : Prop :=
  (∃ text t, w.kind = .deadline text t ∧ t ≤ now) ∨
    ∃ e ∈ log, w.wakeLogSeq < e.seq ∧ w.Triggers e

namespace State

variable {s s' : State} {sid : String} {goalId : Nat} {goal : Goal} {w : Waiting}

/-- **A wait has a wake reason** exactly if it is over. -/
theorem over_iff (hb : s.BoundedWait sid w) :
    (s.goalWaitingWakeReason env sid w).isSome ↔ w.Over env.now (s.log sid) := by
  unfold goalWaitingWakeReason sessionLogAfterCursor Waiting.Over Waiting.Triggers
  cases hk : w.kind with
  | deadline text t => simp
  | event name => simp [Option.any_eq_true]
  | child c =>
    have hne := (hb.child c hk).1
    dsimp only
    constructor
    · intro h
      split_ifs at h with hany
      · obtain ⟨e, he, hc⟩ := List.any_eq_true.1 hany
        obtain ⟨he, hseq⟩ := List.mem_filter.1 he
        refine .inr ⟨e, he, of_decide_eq_true hseq, ?_⟩
        unfold LogEntry.completedChild?
        cases hbody : e.body <;> simp_all
      · cases h
    · rintro (⟨text, t, ⟨⟩, -⟩ | ⟨e, he, hseq, hc⟩)
      rw [if_pos]
      · rfl
      · refine List.any_eq_true.2 ⟨e, List.mem_filter.2 ⟨he, decide_eq_true hseq⟩, ?_⟩
        unfold LogEntry.completedChild? at hc
        cases hbody : e.body <;> simp_all

/-- The log has a signal for the GoalManager after the number `n`. -/
def Called (s : State) (sid : String) (n : Nat) : Prop :=
  ∃ e ∈ s.log sid, n < e.seq ∧
    ∃ signal, e.body = .systemSignal signal ∧ .goalManager ∈ signal.targetRoles

theorem Called.grows {n : Nat} (h : s.Called sid n) {P : LogEntry → Prop}
    (hl : ∀ x, ∃ es, s'.log x = s.log x ++ es ∧ ∀ e ∈ es, P e) : s'.Called sid n := by
  obtain ⟨e, he, h⟩ := h
  obtain ⟨es, hes, -⟩ := hl sid
  exact ⟨e, hes ▸ List.mem_append_left es he, h⟩

/-- The end of a wait calls the GoalManager. -/
theorem called_expireGoalWaitingOf (hfresh : s.SignalsFresh)
    (hg : s.goals.lookup goalId = some goal) (hw : s.wakesWaiting env goalId) :
    (s.expireGoalWaitingOf env goalId).Called goal.sessionId
      (s.latestSessionLogSeq goal.sessionId) := by
  unfold wakesWaiting at hw
  unfold expireGoalWaitingOf
  cases hwait : goal.waiting with
  | none => simp [hg, hwait] at hw
  | some waiting =>
    cases hs : s.sessions.lookup goal.sessionId with
    | none => simp [hg, hwait, hs] at hw
    | some session =>
      simp only [hg, hwait, hs, Bool.and_eq_true, Option.isSome_iff_exists] at hw
      obtain ⟨ha, reason, hr⟩ := hw
      simp only [hg, hwait, hs, ha, hr, if_true]
      have hfresh' : (s.modifyGoal goalId fun g => { g with waiting := none }).SignalsFresh := hfresh
      obtain ⟨e, he⟩ := log_logSystemSignal hfresh' goal.sessionId "GoalWaitingWake" reason
        [.goalManager] "scheduler" env.utcNow.text none .absent
      obtain ⟨hlog, hbody, hseq⟩ := he goal.sessionId
      rw [if_pos rfl] at hlog
      refine ⟨e, hlog ▸ List.mem_append_right _ (List.mem_singleton_self e), ?_, _, hbody,
        List.mem_singleton_self _⟩
      rw [hseq]
      exact Nat.lt_succ_self _

theorem called_expireGoalWaiting (hfresh : s.SignalsFresh)
    (hcur : goalId ∈ s.currentGoals.map Prod.fst) (hg : s.goals.lookup goalId = some goal)
    (hw : s.wakesWaiting env goalId) :
    (s.expireGoalWaiting env).1.Called goal.sessionId
      (s.latestSessionLogSeq goal.sessionId) := by
  have woken : ∀ (l : List Nat) (r : State × Bool), Woken r.1 (l.foldl (fun r goalId =>
      (r.1.expireGoalWaitingOf env goalId, r.2 || r.1.wakesWaiting env goalId)) r).1 :=
    fun l r => List.foldlRecOn l _ (motive := fun r' : State × Bool => Woken r.1 r'.1) (.refl r.1)
      fun r' h x _ => h.trans (woken_expireGoalWaitingOf r'.1 env x).1
  suffices h : ∀ (l : List Nat) (r : State × Bool), goalId ∈ l → r.1.SignalsFresh →
      r.1.goals.lookup goalId = some goal → r.1.wakesWaiting env goalId →
      s.latestSessionLogSeq goal.sessionId ≤ r.1.latestSessionLogSeq goal.sessionId →
      (l.foldl (fun r goalId => (r.1.expireGoalWaitingOf env goalId,
        r.2 || r.1.wakesWaiting env goalId)) r).1.Called goal.sessionId
          (s.latestSessionLogSeq goal.sessionId) from h _ (s, false) hcur hfresh hg hw le_rfl
  intro l
  induction l with
  | nil => exact fun r h => absurd h List.not_mem_nil
  | cons x l ih =>
    intro r h hfresh hg hw hn
    rw [List.foldl_cons]
    by_cases hx : goalId = x
    · subst hx
      obtain ⟨e, he, hseq, hsignal⟩ := called_expireGoalWaitingOf hfresh hg hw
      exact Called.grows ⟨e, he, hn.trans_lt hseq, hsignal⟩
        (woken l (r.1.expireGoalWaitingOf env goalId, r.2 || r.1.wakesWaiting env goalId)).log
    · have hstep := (woken_expireGoalWaitingOf r.1 env x).1
      refine ih _ ((List.mem_cons.1 h).resolve_left hx) (hstep.fresh hfresh) ?_ ?_
        (hn.trans (hstep.latest _))
      · rw [lookup_expireGoalWaitingOf, if_neg fun hx' => hx hx'.1]
        exact hg
      · rw [wakesWaiting_expireGoalWaitingOf hx]
        exact hw

/-- **The end of a wait calls the GoalManager**, also after the rest of the reconciliation. -/
theorem called_reconcile (hc : s.Coherent) (hcur : goalId ∈ s.currentGoals.map Prod.fst)
    (hg : s.goals.lookup goalId = some goal) (hw : s.wakesWaiting env goalId)
    {session : Session} (hs : s.sessions.lookup goal.sessionId = some session) :
    (s.reconcileDispatchLiveness env).1.Called goal.sessionId
      session.roleCursors.goalManager := by
  obtain ⟨hgoals, hsessions, -⟩ := repairOwnership_frame s env
  have hcr := (repair_spec s env hc).1
  have hcur' : goalId ∈ (s.repairOwnership env).currentGoals.map Prod.fst := by
    unfold currentGoals currentGoalForSession openGoals at hcur ⊢
    rw [hgoals]
    exact hcur
  obtain ⟨e, he, hseq, hsignal⟩ := called_expireGoalWaiting hcr.signals hcur' (hgoals ▸ hg)
    ((wakesWaiting_repair s env).trans hw)
  have hcursor := hcr.cursor goal.sessionId session (hsessions ▸ hs)
  have hcalled : (s.endedWaits env).Called goal.sessionId session.roleCursors.goalManager :=
    ⟨e, he, hcursor.trans_lt hseq, hsignal⟩
  rw [reconcile_eq]
  have hrebuild : ∀ t : State, (t.rebuildReadiness env).log = t.log := fun t => by
    rw [rebuild_eq]
    rfl
  unfold Called
  rw [hrebuild]
  rcases settledLogs_cases s env with h | h
  · rw [h]
    exact hcalled
  · have hcalled' : ((s.endedWaits env).rebuildReadiness env).Called goal.sessionId
        session.roleCursors.goalManager := by
      unfold Called
      rw [hrebuild]
      exact hcalled
    exact hcalled'.grows h.log

/-- The run that vouches for a wait, after the store has been loaded. -/
theorem Vouches.load (hs : s.Stored) (hl : s.load env = .ok s') {g : Goal} {rid : Nat}
    {r : DispatchRun} (h : s.Vouches goalId g w rid r) : s'.Vouches goalId g w rid r := by
  have hrep := hs.load (P := fun _ => True) trivial hl
  refine ⟨?_, h.goalId, h.sessionId, h.ended, h.declared, ?_⟩
  · rw [hrep.effect.runs]
    exact h.run
  · rw [log_congr hrep.persisted hrep.pending]
    exact h.unseen

/-- What comes from others after the window of the run, and triggers the wait, ends it. -/
theorem Vouches.not_missed {g : Goal} {rid : Nat} {r : DispatchRun} (h : s.Vouches goalId g w rid r) {e : LogEntry}
    (he : e ∈ s.log g.sessionId) (hobs : r.observedToSeq < e.seq)
    (hother : requirementConflict rid e ≠ none) (ht : w.Triggers e) :
    w.Over env.now (s.log g.sessionId) := by
  refine .inr ⟨e, he, ?_, ht⟩
  by_contra hle
  exact hother (h.unseen e he hobs (Nat.le_of_not_lt hle))

/-- A role that has been called is ready, or at work. -/
theorem ready_of_called {t : State} (hlive : t.Live env) (hi : t.Intact) (hsound : t.ledger.Sound)
    {session : Session} (hs : t.sessions.lookup sid = some session) (ha : session.active)
    (hg : t.currentGoalForSession sid = some (goalId, goal))
    (hinc : goal.completionState = .incomplete) (hw : goal.waiting = none)
    (hcalled : t.Called sid session.roleCursors.goalManager) :
    (∃ e, t.ReadyWith sid .goalManager goalId e) ∨
      ∃ r ∈ t.acquiredRuns, r.2.key = (sid, .goalManager) := by
  by_cases hbusy : ∃ r ∈ t.acquiredRuns, r.2.key = (sid, .goalManager)
  · exact .inr hbusy
  · refine .inl ((hlive.refreshed.ready_iff hi hlive.held hsound hs ha hg hinc hw
      fun r hr hsid hrole => hbusy ⟨r, hr, Prod.ext hsid hrole⟩).2 ?_)
    obtain ⟨e, he, hseq, signal, hb, ht⟩ := hcalled
    have hfields := fields_of_signal hs he hseq hb ht
    intro hnone
    rw [fields_eq_none_iff.2 hnone] at hfields
    cases hfields

end State

/-- **Waits end when they are over, and only then.** In a loaded state of the store let the
    Goal of an active Session wait. A reconciliation ends the wait if its deadline has passed or
    the log has a trigger after the wake number, and leaves the Goal as it is otherwise. A
    trigger that others have written after the window of the deciding run counts, whenever it
    came. If the Goal is incomplete its GoalManager is then ready for it, or at work. -/
theorem waits_end_exactly (h : storeSystem.Reachable sys) {s : State}
    (hl : sys.store.load env = .ok s) {goalId : Nat} {g : Goal} {w : Waiting} {session : Session}
    (hg : s.goals.lookup goalId = some g) (hw : g.waiting = some w)
    (hs : s.sessions.lookup g.sessionId = some session) (ha : session.active) :
    let t := (s.reconcileDispatchLiveness env).1
    (w.Over env.now (s.log g.sessionId) → t.goals.lookup goalId = some { g with waiting := none } ∧
      (g.completionState = .incomplete → (∃ e, t.ReadyWith g.sessionId .goalManager goalId e) ∨
        ∃ r ∈ t.acquiredRuns, r.2.key = (g.sessionId, .goalManager))) ∧
    (¬w.Over env.now (s.log g.sessionId) → t.goals.lookup goalId = some g) ∧
    ∃ rid r, s.Vouches goalId g w rid r ∧ ∀ e ∈ s.log g.sessionId, r.observedToSeq < e.seq →
      requirementConflict rid e ≠ none → w.Triggers e → w.Over env.now (s.log g.sessionId) := by
  intro t
  have hS := reachable_safe h
  have hrep := hS.inv.stored.load (P := fun _ => True) trivial hl
  obtain ⟨hi, hsound, -⟩ := hS.load hl
  have hacc := accountable_reachable h
  obtain ⟨rid, r, hv⟩ := hacc.waits goalId g w (hrep.goals ▸ hg) hw
  have hvl := hv.load hS.inv.stored hl
  have hbounded : s.BoundedWait g.sessionId w := by
    have hb := hv.bounded hacc
    have hwake := hb.wake
    rw [← log_congr hrep.persisted hrep.pending] at hwake
    exact ⟨hwake, hb.event, fun c hc => (hb.child c hc).imp_right (hrep.sessions c)⟩
  have hcurrent : s.currentGoalForSession g.sessionId = some (goalId, g) :=
    hi.wf.currentGoal.2 ⟨hg, rfl⟩
  have hne : g.sessionId ≠ "" := fun hb => hi.wf.blank (hb ▸ (hi.wf.goal goalId g hg).2.1)
  have hcur : goalId ∈ s.currentGoals.map Prod.fst :=
    List.mem_map.2 ⟨(goalId, g), mem_currentGoals.2 ⟨hne, hcurrent⟩, rfl⟩
  have hwakes : s.wakesWaiting env goalId ↔ w.Over env.now (s.log g.sessionId) := by
    rw [← over_iff hbounded]
    unfold wakesWaiting
    simp [hg, hw, hs, ha]
  have hlook : (s.reconcileDispatchLiveness env).1.goals.lookup goalId =
      if s.wakesWaiting env goalId then (s.goals.lookup goalId).map endWait
      else s.goals.lookup goalId := lookup_reconcile hcur
  refine ⟨fun hover => ?_, fun hno => ?_, rid, r, hvl, fun e he hobs hother ht =>
    hvl.not_missed he hobs hother ht⟩
  · have hgoal : t.goals.lookup goalId = some { g with waiting := none } := by
      rw [hlook, if_pos (hwakes.2 hover), hg]
      rfl
    refine ⟨hgoal, fun hinc => ?_⟩
    have hm := moves_reconcile (P := fun _ => True) hi trivial env
    have hit := hm.intact hi
    have hc : s.Coherent := (State.Loaded.coherent ⟨sys, env, h, hl⟩)
    exact ready_of_called (reconcile_live s env hc) hit (hm.sound hsound)
      ((sessions_reconcile s env).symm ▸ hs) ha (hit.wf.currentGoal.2 ⟨hgoal, rfl⟩) hinc rfl
      (called_reconcile hc hcur hg (hwakes.2 hover) hs)
  · rw [hlook, if_neg fun hw => hno (hwakes.1 hw)]
    exact hg

/-- The event that the Goal waits for is reported to its Session. -/
def requestedThenWoken : List Action := requestedThenWaits ++ [⟨clock 6, .appendRuntimeMessage "a"
  { sender := "svc-codex", group := "manage", recipient := "Session", body := "it is done"
    wakeEvent := "done" }⟩]

/-- The wait for it ends. -/
theorem waits_end_exactly_event : ∃ g, g.waiting.isSome ∧
    (loadedAfter requestedThenWoken (clock 7)).goals.lookup 0 = some g ∧
    (reconciledAfter requestedThenWoken (clock 7)).goals.lookup 0 =
      some { g with waiting := none } := by
  have hall : ((newStore.nexts requestedThenWoken).store.load (clock 7)).isOk ∧
      ∃ g, (loadedAfter requestedThenWoken (clock 7)).goals.lookup 0 = some g ∧
        ∃ w, g.waiting = some w ∧ w.kind = .event "done" ∧
          (∃ session, (loadedAfter requestedThenWoken (clock 7)).sessions.lookup g.sessionId =
            some session ∧ session.active) ∧
          ∃ e ∈ (loadedAfter requestedThenWoken (clock 7)).log g.sessionId, w.wakeLogSeq < e.seq ∧
            e.message?.any fun m => "done" ∈ m.payload.wakeEvents := by decide +kernel
  obtain ⟨hok, g, hg, w, hw, hkind, ⟨session, hs, ha⟩, e, he, hseq, hm⟩ := hall
  have hl : (newStore.nexts requestedThenWoken).store.load (clock 7) =
      .ok (loadedAfter requestedThenWoken (clock 7)) := ok_getD hok
  obtain ⟨hends, -⟩ := waits_end_exactly (reachable_nexts requestedThenWoken) hl hg hw hs ha
  unfold reconciledAfter
  refine ⟨g, Option.isSome_iff_exists.2 ⟨w, hw⟩, hg, (hends (.inr ⟨e, he, hseq, ?_⟩)).1⟩
  obtain ⟨m, hm, hmem⟩ := (Option.any_eq_true _ _).1 hm
  unfold Waiting.Triggers
  rw [hkind]
  exact ⟨m, hm, of_decide_eq_true hmem⟩

end Aize
