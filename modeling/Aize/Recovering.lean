/-
  The declarations of a GoalManager and the recovery of a runtime, as steps of the
  ledger.

  A declaration only amends the record of its run. A recovery takes all leases back:
  `moves_recoverGoal` is one step for each active Goal.
-/
import Aize.Committing

namespace Aize
namespace State

variable {P : Label → Prop} {s s₁ t s' : State} {env : Env} {rid : Nat} {r : DispatchRun}
  {sid : String}

/-! ## Declarations -/

/-- What `checkDeclaration` lets pass. -/
theorem checkDeclaration_spec {actor notAllowed needsLease : String} {run : DispatchRun} {goal : Goal}
    (h : s.checkDeclaration sid actor rid notAllowed needsLease = .ok (run, goal)) :
    s.dispatchRuns.lookup rid = some run ∧ run.sessionId = sid ∧ run.role = .goalManager ∧
      run.leaseState = .acquired ∧ s.currentGoalForSession sid = some (run.goalId, goal) ∧
      run.declaredOutcome = none := by
  unfold checkDeclaration at h
  cases hr : s.dispatchRuns.lookup rid with
  | none => simp [hr] at h
  | some run' =>
    simp only [hr] at h
    obtain ⟨-, h⟩ := Except.require_bind_eq_ok.1 h
    obtain ⟨⟨hsid, hrole, hacq⟩, h⟩ := Except.require_bind_eq_ok.1 h
    cases hc : s.currentGoalForSession sid with
    | none => simp [hc] at h
    | some g =>
      obtain ⟨goalId, goal'⟩ := g
      simp only [hc] at h
      obtain ⟨hid, h⟩ := Except.require_bind_eq_ok.1 h
      obtain ⟨hnone, h⟩ := Except.require_bind_eq_ok.1 h
      cases h
      exact ⟨rfl, hsid, hrole, hacq, hid ▸ rfl, Option.isNone_iff_eq_none.1 hnone⟩

theorem moves_declare (hw : s.Wf) (hP : P .plain) (hr : s.dispatchRuns.lookup rid = some r)
    (decision : Decision) (reason actor : String) :
    Moves P s (s.declare rid decision reason actor) :=
  moves_amend hw hP hr (fun _ => some ⟨decision, reason,
    if strip actor = "" then Role.goalManager.token else strip actor⟩) DispatchRun.staleResults

/-- What a declaration stores. -/
def Declared (s s' : State) (env : Env) (sid : String) (rid : Nat) : Prop :=
  ∃ loaded run goal decision reason actor, s.load env = .ok loaded ∧
    loaded.dispatchRuns.lookup rid = some run ∧ run.sessionId = sid ∧ run.role = .goalManager ∧
    run.leaseState = .acquired ∧ loaded.currentGoalForSession sid = some (run.goalId, goal) ∧
    run.declaredOutcome = none ∧ s' = (loaded.declare rid decision reason actor).save

theorem declaredCompletion {completionState : CompletionState} {reason actor : String}
    {runId : Option Nat} {parameters : CallParameters}
    (h : s.setGoalCompletionStateFromRuntime env sid completionState reason actor runId parameters =
      .ok s') : ∃ rid, runId = some rid ∧ Declared s s' env sid rid := by
  unfold setGoalCompletionStateFromRuntime at h
  cases runId with
  | none => cases h
  | some rid =>
    obtain ⟨loaded, hl, h⟩ := Except.bind_eq_ok.1 h
    obtain ⟨⟨run, goal⟩, hck, h⟩ := Except.bind_eq_ok.1 h
    obtain ⟨-, h⟩ := Except.require_bind_eq_ok.1 h
    obtain ⟨h₁, h₂, h₃, h₄, h₅, h₆⟩ := checkDeclaration_spec hck
    refine ⟨rid, rfl, loaded, run, goal, ?_⟩
    split at h
    · cases h
    · exact ⟨_, _, actor, hl, h₁, h₂, h₃, h₄, h₅, h₆, (Except.pure_eq_ok.1 h).symm⟩

theorem declaredWaiting {spec : WaitSpec} {actor reason : String} {runId : Option Nat}
    (h : s.setGoalWaitingFromRuntime env sid spec actor runId reason = .ok s') :
    ∃ rid, runId = some rid ∧ Declared s s' env sid rid := by
  unfold setGoalWaitingFromRuntime at h
  cases runId with
  | none => cases h
  | some rid =>
    obtain ⟨loaded, hl, h⟩ := Except.bind_eq_ok.1 h
    obtain ⟨⟨⟩, hck, h⟩ := Except.bind_eq_ok.1 h
    obtain ⟨wait, -, h⟩ := Except.bind_eq_ok.1 h
    obtain ⟨⟨run, goal⟩, hck, -⟩ := Except.map_eq_ok.1 hck
    obtain ⟨h₁, h₂, h₃, h₄, h₅, h₆⟩ := checkDeclaration_spec hck
    exact ⟨rid, rfl, loaded, run, goal, _, _, actor, hl, h₁, h₂, h₃, h₄, h₅, h₆,
      (Except.pure_eq_ok.1 h).symm⟩

/-- **A declaration is a step of the ledger.** -/
theorem Declared.spec (h : Declared s s' env sid rid) (hs : s.Stored) (hP : P .plain) :
    Stores P s s' := by
  obtain ⟨loaded, run, goal, decision, reason, actor, hl, hr, -, -, -, -, -, rfl⟩ := h
  have h₀ : Moves P s loaded := (hs.load hP hl).effect.moves hP
  exact (h₀.trans (moves_declare h₀.wf hP hr decision reason actor)).saved hs

/-! ## Runtime recovery -/

theorem lookup_interruptRuns (l : List (Nat × DispatchRun)) (x : Nat) :
    (l.foldl (fun s r => s.interruptRun r.1) s).dispatchRuns.lookup x =
      if x ∈ l.map Prod.fst then (s.dispatchRuns.lookup x).map DispatchRun.interrupted
      else s.dispatchRuns.lookup x := by
  rw [foldl_interruptRun]
  simp only
  rw [Dict.lookup_foldl_modify (f := DispatchRun.interrupted) fun _ => rfl]

/-- The acquired runs of a Session. -/
def heldRuns (s : State) (sid : String) : List (Nat × DispatchRun) :=
  s.acquiredRuns.filter fun r => r.2.sessionId = sid

/-- A Session whose runs have lost their leases, and whose entries are ready again. -/
def withoutLeases (s : State) (sid : String) : State :=
  ((s.heldRuns sid).foldl (fun s r => s.interruptRun r.1) s).modifyReadiness
    (fun e => e.sessionId = sid && e.status = .acquired) fun e =>
      { e with status :=
          if (s.heldRuns sid).any fun r => r.2.readinessId = e.readinessId then .ready else .stale }

theorem recoverGoal_eq (context : String) (g : Nat × Goal) : recoverGoal env context s g =
    (s.withoutLeases g.2.sessionId).logSystemSignal g.2.sessionId "RuntimeRecovered"
      (if context = "" then runtimeRecoveredBody else context)
      (.goalManager :: (((s.heldRuns g.2.sessionId).map fun r => r.2.role).reverse.dedup.reverse).filter
        (· ≠ .goalManager)) "runtime" env.utcNow.text := rfl

theorem withoutLeases_frame (s : State) (sid : String) : ∃ runs queue,
    s.withoutLeases sid = { s with dispatchRuns := runs, dispatchReadiness := queue } := by
  unfold withoutLeases
  rw [foldl_interruptRun]
  exact ⟨_, _, rfl⟩

theorem mem_heldRuns {x : Nat × DispatchRun} : x ∈ s.heldRuns sid ↔
    Holding s.dispatchRuns.lookup x.1 x.2 ∧ x.2.sessionId = sid := by
  unfold heldRuns
  rw [List.mem_filter, mem_acquiredRuns, decide_eq_true_eq]
  rfl

/-- **The recovery of a Session is a step of the ledger.** -/
theorem moves_withoutLeases (hi : s.Intact) (hP : P .plain) (sid : String) :
    Moves P s (s.withoutLeases sid) := by
  have hwf : (s.withoutLeases sid).Wf := by
    have h₁ := (moves_interruptAcquired (P := fun _ => True) hi.wf trivial
      fun r => r.2.sessionId = sid).wf
    exact Wf.modifyReadiness h₁ (fun e => e.sessionId = sid && e.status = .acquired)
      (f := fun e => { e with status :=
          if (s.heldRuns sid).any fun r => r.2.readinessId = e.readinessId then .ready else .stale })
      fun _ => rfl
  obtain ⟨runs, queue, hframe⟩ := s.withoutLeases_frame sid
  refine .of_step hP ?_ hwf (by rw [hframe])
  have hrun : (s.withoutLeases sid).dispatchRuns.lookup = fun rid =>
      (s.dispatchRuns.lookup rid).map fun r =>
        if r.sessionId = sid ∧ r.leaseState = .acquired then r.interrupted else r := by
    funext x
    change ((s.heldRuns sid).foldl (fun s r => s.interruptRun r.1) s).dispatchRuns.lookup x = _
    rw [lookup_interruptRuns]
    cases hx : s.dispatchRuns.lookup x with
    | none => simp
    | some r =>
      have hiff : x ∈ (s.heldRuns sid).map Prod.fst ↔ r.sessionId = sid ∧ r.leaseState = .acquired := by
        rw [List.mem_map]
        constructor
        · rintro ⟨⟨y, r'⟩, hm, rfl⟩
          obtain ⟨⟨hl, ha⟩, hs⟩ := mem_heldRuns.1 hm
          cases hl.symm.trans hx
          exact ⟨hs, ha⟩
        · rintro ⟨hs, ha⟩
          exact ⟨(x, r), mem_heldRuns.2 ⟨⟨hx, ha⟩, hs⟩, rfl⟩
      by_cases hm : x ∈ (s.heldRuns sid).map Prod.fst
      · rw [if_pos hm, Option.map_some, Option.map_some, if_pos (hiff.1 hm)]
      · rw [if_neg hm, Option.map_some, if_neg fun h => hm (hiff.2 h)]
  have hqueue : (s.withoutLeases sid).dispatchReadiness = s.dispatchReadiness.map fun e =>
      if e.sessionId = sid ∧ e.status = .acquired then
        { e with status := if (s.heldRuns sid).any fun r => r.2.readinessId = e.readinessId then .ready
          else .stale }
      else e := by
    have hq : ((s.heldRuns sid).foldl (fun s r => s.interruptRun r.1) s).dispatchReadiness =
        s.dispatchReadiness := by rw [foldl_interruptRun]
    change (((s.heldRuns sid).foldl (fun s r => s.interruptRun r.1) s).dispatchReadiness).map _ = _
    rw [hq]
    refine List.map_congr_left fun e _ => ?_
    simp only [Bool.and_eq_true, decide_eq_true_eq]
  have hbook : (s.withoutLeases sid).book = s.book := by rw [hframe]; rfl
  have hstep := Ledger.Step.recoverSession (c := s.ledger)
    (fun id => (s.heldRuns sid).any fun r => r.2.readinessId = id) fun id => by
      simp only [List.any_eq_true, decide_eq_true_eq]
      constructor
      · rintro ⟨r, hm, rfl⟩
        obtain ⟨hh, hs⟩ := mem_heldRuns.1 hm
        exact ⟨r.1, r.2, hh, hs, rfl⟩
      · rintro ⟨rid, r, hh, hs, rfl⟩
        exact ⟨(rid, r), mem_heldRuns.2 ⟨hh, hs⟩, rfl⟩
  have hledger : (s.withoutLeases sid).ledger =
      { s.ledger with
        run := fun rid => (s.ledger.run rid).map fun r =>
          if r.sessionId = sid ∧ r.leaseState = .acquired then r.interrupted else r
        readiness := s.ledger.readiness.map fun e =>
          if e.sessionId = sid ∧ e.status = .acquired then
            { e with status := if (s.heldRuns sid).any fun r => r.2.readinessId = e.readinessId
              then .ready else .stale }
          else e } := by
    unfold ledger
    rw [hrun, hqueue, hbook]
  rw [hledger]
  exact hstep

theorem moves_recoverGoal (hi : s.Intact) (hP : P .plain) (context : String) {g : Nat × Goal}
    (hs : g.2.sessionId ∈ s.sessions) : Moves P s (recoverGoal env context s g) ∧
      (recoverGoal env context s g).sessions = s.sessions := by
  rw [recoverGoal_eq]
  have h₁ := moves_withoutLeases hi hP g.2.sessionId
  obtain ⟨runs, queue, hframe⟩ := s.withoutLeases_frame g.2.sessionId
  have hsess : (s.withoutLeases g.2.sessionId).sessions = s.sessions := by rw [hframe]
  refine ⟨h₁.trans ((effect_logSystemSignal (h₁.intact hi) (hsess ▸ hs) hP _ _ _ _ _ _ _).moves hP), ?_⟩
  unfold logSystemSignal
  rw [sessions_append]
  exact hsess

theorem mem_activeGoals_session (hw : s.Wf) {g : Nat × Goal} (hg : g ∈ s.activeGoals) :
    g.2.sessionId ∈ s.sessions := by
  obtain ⟨hm, -⟩ := List.mem_filter.1 hg
  obtain ⟨-, hc⟩ := mem_currentGoals.1 hm
  obtain ⟨hl, -⟩ := hw.currentGoal.1 hc
  exact (hw.goal _ _ hl).2.1

/-- **The recovery of a runtime is some steps of the ledger.** -/
theorem recovery_spec (hs : s.Stored) (hP : P .plain) {context : String}
    (h : s.recordRuntimeRecoverySignals env context = .ok s') : Stores P s s' := by
  unfold recordRuntimeRecoverySignals at h
  obtain ⟨loaded, hl, h⟩ := Except.bind_eq_ok.1 h
  rw [← Except.pure_eq_ok.1 h]
  have h₀ : Moves P s loaded := (hs.load hP hl).effect.moves hP
  have hmem : ∀ g ∈ loaded.activeGoals, g.2.sessionId ∈ loaded.sessions :=
    fun g hg => mem_activeGoals_session h₀.wf hg
  generalize loaded.activeGoals = goals at hmem ⊢
  have h₁ := h₀.trans (moves_interruptAcquired h₀.wf hP fun r => r.2.goalId ∉ goals.map Prod.fst)
  have hsess : ((loaded.acquiredRuns.filter fun r => r.2.goalId ∉ goals.map Prod.fst).foldl
      (fun s r => s.interruptRun r.1) loaded).sessions = loaded.sessions := by
    rw [foldl_interruptRun]
  generalize (loaded.acquiredRuns.filter fun r => r.2.goalId ∉ goals.map Prod.fst).foldl
    (fun s r => s.interruptRun r.1) loaded = s₁ at h₁ hsess ⊢
  have h₂ := h₁.trans (@moves_retire P _ h₁.wf hP
    (fun e => e.status = .acquired && e.goalId ∉ goals.map Prod.fst) .stale rfl)
  have hmem₂ : ∀ g ∈ goals, g.2.sessionId ∈ (s₁.modifyReadiness
      (fun e => e.status = .acquired && e.goalId ∉ goals.map Prod.fst)
      fun e => { e with status := .stale }).sessions := by
    intro g hg
    change g.2.sessionId ∈ s₁.sessions
    rw [hsess]
    exact hmem g hg
  generalize s₁.modifyReadiness (fun e => e.status = .acquired && e.goalId ∉ goals.map Prod.fst)
    (fun e => { e with status := .stale }) = s₂ at h₂ hmem₂ ⊢
  -- each active Goal is recovered in turn; the Sessions stay
  have h₃ : Moves P s₂ (goals.foldl (recoverGoal env context) s₂) ∧
      (goals.foldl (recoverGoal env context) s₂).sessions = s₂.sessions :=
    List.foldlRecOn goals _ (motive := fun t => Moves P s₂ t ∧ t.sessions = s₂.sessions)
      ⟨.refl h₂.wf, rfl⟩ fun t ⟨ht, hts⟩ g hg => by
        obtain ⟨hm, hms⟩ := moves_recoverGoal (ht.intact (h₂.intact hs.good)) hP context
          (hts ▸ hmem₂ g hg)
        exact ⟨ht.trans hm, hms.trans hts⟩
  exact (h₂.trans h₃.1).saved hs

end State
end Aize
