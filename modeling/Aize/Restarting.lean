/-
  A restart, as steps of the ledger.

  A restart loads the stored state, replays the log of every Session over the
  metadata (`moves_replaySession`: the cursors are clamped, then the entries are
  replayed), and refreshes the queue.
-/
import Aize.Recovering

namespace Aize
namespace State

variable {P : Label → Prop} {s s₁ t s' : State} {env : Env} {sid : String}

/-! ## The replay of a log -/

theorem replayed_touch (r : Replayed) (createdAt : String) :
    (r.touch createdAt).session.active = r.session.active ∧
      (r.touch createdAt).session.roleCursors = r.session.roleCursors ∧
      (r.touch createdAt).goal = r.goal := by
  unfold Replayed.touch
  split_ifs <;> exact ⟨rfl, rfl, rfl⟩

/-- A Goal with another outcome. -/
def Goal.withOutcome (g : Goal) (r : CompletionState × String) : Goal :=
  { g with completionState := r.1, completionReason := r.2 }

/-- One entry. -/
theorem replayEntry_spec (r : Replayed) (e : LogEntry) :
    (replayEntry r e).session.active = replayActive r.session.active e ∧
      (replayEntry r e).session.roleCursors = r.session.roleCursors ∧
      (replayEntry r e).goal = r.goal.map fun g =>
        Goal.withOutcome g (replayGoal (g.completionState, g.completionReason) e) := by
  have same : ∀ g : Option Goal, g = g.map fun g =>
      Goal.withOutcome g (g.completionState, g.completionReason) := fun g => by cases g <;> rfl
  unfold replayEntry replayActive replayGoal
  obtain ⟨session, goal, changed⟩ := r
  cases hb : e.body with
  | sessionActiveChanged p active a =>
    obtain ⟨h₁, h₂, h₃⟩ := replayed_touch
      ⟨{ session with active := active }, goal, changed || session.active != active⟩ e.createdAt
    exact ⟨h₁, h₂, h₃.trans (same goal)⟩
  | goalStateChanged tr =>
    cases goal with
    | none => exact replayed_touch _ _
    | some g =>
      dsimp only
      cases tr.completionState with
      | waiting => exact ⟨rfl, rfl, rfl⟩
      | complete => exact replayed_touch _ _
      | incomplete => exact replayed_touch _ _
  | message m =>
    cases goal with
    | none => exact replayed_touch _ _
    | some g =>
      dsimp only
      cases hu : m.payload.userInput with
      | false => exact ⟨rfl, rfl, rfl⟩
      | true =>
        by_cases hc : g.completionState = .complete
        · simp only [Bool.not_true, Bool.false_eq_true, if_false, if_pos hc]
          obtain ⟨h₁, h₂, h₃⟩ := replayed_touch (Replayed.setGoal ⟨session, some g, changed⟩ g
            .incomplete (userInputReason m.messageId)) e.createdAt
          exact ⟨h₁, h₂, h₃.trans (by simp [hc, Replayed.setGoal, Goal.withOutcome])⟩
        · simp only [Bool.not_true, Bool.false_eq_true, if_false, if_neg hc]
          obtain ⟨h₁, h₂, h₃⟩ := replayed_touch ⟨session, some g, changed⟩ e.createdAt
          exact ⟨h₁, h₂, h₃.trans (by simp [hc, Goal.withOutcome])⟩
  | _ =>
    obtain ⟨h₁, h₂, h₃⟩ := replayed_touch ⟨session, goal, changed⟩ e.createdAt
    exact ⟨h₁, h₂, h₃.trans (same goal)⟩

/-- **A log.** -/
theorem replayEntries_spec (es : List LogEntry) (r : Replayed) :
    (es.foldl replayEntry r).session.active = es.foldl replayActive r.session.active ∧
      (es.foldl replayEntry r).session.roleCursors = r.session.roleCursors ∧
      (es.foldl replayEntry r).goal = r.goal.map fun g =>
        Goal.withOutcome g (es.foldl replayGoal (g.completionState, g.completionReason)) := by
  induction es generalizing r with
  | nil =>
    obtain ⟨session, goal, changed⟩ := r
    exact ⟨rfl, rfl, by cases goal <;> rfl⟩
  | cons e es ih =>
    obtain ⟨h₁, h₂, h₃⟩ := replayEntry_spec r e
    obtain ⟨i₁, i₂, i₃⟩ := ih (replayEntry r e)
    refine ⟨?_, i₂.trans h₂, ?_⟩
    · rw [List.foldl_cons, List.foldl_cons, i₁, h₁]
    · rw [List.foldl_cons, i₃, h₃, Option.map_map]
      rfl

/-! ## The replay of a Session -/

theorem modifyGoal_congr {goalId : Nat} {goal : Goal} {f g : Goal → Goal}
    (h : s.goals.lookup goalId = some goal) (hfg : f goal = g goal) :
    s.modifyGoal goalId f = s.modifyGoal goalId g :=
  congrArg (fun goals => { s with goals := goals }) (Dict.modify_congr h hfg)

/-- Replacing a Session and the Goal that is its own. -/
theorem view_replaced (hw : s.Wf) {session : Session} {goalId : Nat} {goal : Goal}
    (hs : sid ∈ s.sessions) (hc : s.currentGoalForSession sid = some (goalId, goal)) (f : Goal → Goal)
    (hf : ∀ g, (f g).archivedAt = g.archivedAt ∧ (f g).sessionId = g.sessionId ∧
      (f g).createdAt = g.createdAt) :
    ((s.modifySession sid fun _ => session).modifyGoal goalId f).view =
      Function.update s.view sid (some ⟨session.active, session.roleCursors,
        some ⟨goalId, (f goal).completionState, (f goal).completionReason, (f goal).body⟩⟩) := by
  funext x
  rw [view_modifyGoal (hw.modifySession sid _) hc hf, Function.update_apply]
  split_ifs with hx
  · obtain ⟨session₀, hl⟩ := Dict.mem_iff_lookup.1 hs
    unfold view
    have hcur : (s.modifySession sid fun _ => session).currentGoalForSession sid =
        s.currentGoalForSession sid := rfl
    rw [hcur, State.modifySession, Dict.lookup_modify, if_pos rfl, hl]
    rfl
  · unfold view
    have hcur : (s.modifySession sid fun _ => session).currentGoalForSession x =
        s.currentGoalForSession x := rfl
    rw [hcur, State.modifySession, Dict.lookup_modify, if_neg hx]

theorem view_replacedSession {session : Session} (hs : sid ∈ s.sessions)
    (hc : s.currentGoalForSession sid = none) :
    (s.modifySession sid fun _ => session).view =
      Function.update s.view sid (some ⟨session.active, session.roleCursors, none⟩) := by
  funext x
  have hcur : (s.modifySession sid fun _ => session).currentGoalForSession =
      s.currentGoalForSession := rfl
  rw [Function.update_apply]
  unfold view
  rw [hcur, State.modifySession, Dict.lookup_modify]
  split_ifs with hx
  · subst hx
    obtain ⟨session₀, hl⟩ := Dict.mem_iff_lookup.1 hs
    rw [hl, hc]
    rfl
  · rfl

theorem numbered_lastSeq (h : Numbered 0 (s.log sid)) : lastSeq (s.log sid) = (s.log sid).length := by
  by_cases hnil : s.log sid = []
  · rw [hnil]
    rfl
  · simpa using lastSeq_of_numbered h hnil

theorem moves_readSessionLog (hw : s.Wf) (hP : P .plain) (sid : String) :
    Moves P s (s.readSessionLog sid) ∧ (s.readSessionLog sid).ledger = s.ledger ∧
      (s.readSessionLog sid).sessions = s.sessions ∧ (s.readSessionLog sid).goals = s.goals ∧
      (s.readSessionLog sid).log = s.log := by
  refine ⟨(effect_readSessionLog (P := P) hw sid).moves hP, ?_⟩
  unfold readSessionLog
  split_ifs <;> exact ⟨rfl, rfl, rfl, rfl⟩

/-- **One Session**: its cursors are clamped, then its log is replayed. -/
theorem moves_replaySession (hi : s.Intact) (hP : P .plain) (hP' : P .replay) (changed : Bool)
    (sid : String) : Moves P s (replaySession (s, changed) sid).1 := by
  unfold replaySession
  dsimp only
  cases hl : s.sessions.lookup sid with
  | none => exact .refl hi.wf
  | some session =>
    obtain ⟨h₁, hledger, hsess, hgoals, hlog⟩ := moves_readSessionLog hi.wf hP sid
    dsimp only
    generalize s.readSessionLog sid = s₁ at h₁ hledger hsess hgoals hlog ⊢
    refine h₁.trans ?_
    have hw₁ := h₁.wf
    have hs₁ : sid ∈ s₁.sessions := by
      rw [hsess]
      exact Dict.mem_iff_lookup.2 ⟨session, hl⟩
    have hnum : Numbered 0 (s₁.log sid) := by rw [hlog]; exact hi.book.numbered sid
    rw [numbered_lastSeq hnum]
    obtain ⟨hact, hcur, hgoal⟩ := replayEntries_spec (s₁.log sid)
      { session := { session with
          roleCursors := clampCursors session.roleCursors (s₁.log sid).length }
        goal := (s₁.currentGoalForSession sid).map Prod.snd
        changed := changed || clampCursors session.roleCursors (s₁.log sid).length ≠
          session.roleCursors }
    generalize (s₁.log sid).foldl replayEntry _ = result at hact hcur hgoal ⊢
    dsimp only at hact hcur hgoal
    have hsteps : ∀ (t : State) (v : SessionView), s₁.view sid = some v → t.Wf →
        s₁.nextId ≤ t.nextId → t.dispatchRuns = s₁.dispatchRuns →
        t.dispatchReadiness = s₁.dispatchReadiness → t.log = s₁.log →
        t.view = Function.update s₁.view sid (some (SessionView.replay (s₁.log sid)
          { v with cursors := clampCursors v.cursors (s₁.log sid).length })) → Moves P s₁ t := by
      intro t v hv hw hn hruns hqueue hlog hview
      have c₁ : Ledger.Step s₁.ledger .plain _ := .clamp (c := s₁.ledger) hv
      have c₂ : Ledger.Step (s₁.ledger.setBook (s₁.book.setSession sid
          { v with cursors := clampCursors v.cursors (s₁.log sid).length })) .replay _ :=
        .book (.replay (b := s₁.book.setSession sid
          { v with cursors := clampCursors v.cursors (s₁.log sid).length })
          (by rw [Book.setSession_session, if_pos rfl]))
      refine ⟨(Ledger.Steps.of_step hP c₁).trans ((Ledger.Steps.of_step hP' c₂).trans (.of_eq ?_)),
        hw, hn⟩
      have hlook : t.dispatchRuns.lookup = s₁.dispatchRuns.lookup := by rw [hruns]
      unfold ledger book
      rw [hview, hlook, hqueue, hlog]
      simp only [Ledger.setBook, Book.setSession, Function.update_idem]
    have hsession : s₁.sessions.lookup sid = some session := by rw [hsess]; exact hl
    cases hc : s₁.currentGoalForSession sid with
    | none =>
      rw [hc] at hgoal
      have hnone : result.goal = none := hgoal
      have hc' : (s₁.modifySession sid fun _ => result.session).currentGoalForSession sid = none := hc
      rw [hc', hnone]
      refine hsteps _ ⟨session.active, session.roleCursors, none⟩ ?_ (hw₁.modifySession sid _) le_rfl
        rfl rfl rfl ?_
      · unfold view
        rw [hsession, hc]
        rfl
      · rw [view_replacedSession hs₁ hc, hact, hcur]
        rfl
    | some g =>
      obtain ⟨goalId, goal⟩ := g
      rw [hc] at hgoal
      have hc' : (s₁.modifySession sid fun _ => result.session).currentGoalForSession sid =
          some (goalId, goal) := hc
      have hsome : result.goal = some (Goal.withOutcome goal
          ((s₁.log sid).foldl replayGoal (goal.completionState, goal.completionReason))) := hgoal
      obtain ⟨hgl, hgs⟩ := hw₁.currentGoal.1 hc
      have hmod : (s₁.modifySession sid fun _ => result.session).modifyGoal goalId (fun _ =>
          Goal.withOutcome goal
            ((s₁.log sid).foldl replayGoal (goal.completionState, goal.completionReason))) =
          (s₁.modifySession sid fun _ => result.session).modifyGoal goalId fun g =>
            Goal.withOutcome g
              ((s₁.log sid).foldl replayGoal (goal.completionState, goal.completionReason)) :=
        modifyGoal_congr hgl rfl
      rw [hc', hsome]
      dsimp only
      rw [hmod]
      refine hsteps _ ⟨session.active, session.roleCursors,
        some ⟨goalId, goal.completionState, goal.completionReason, goal.body⟩⟩ ?_
        ((hw₁.modifySession sid _).modifyGoal goalId fun g => ⟨rfl, rfl⟩) le_rfl rfl rfl rfl ?_
      · unfold view
        rw [hsession, hc]
        rfl
      · refine (view_replaced hw₁ hs₁ hc (fun g => Goal.withOutcome g ((s₁.log sid).foldl replayGoal
          (goal.completionState, goal.completionReason))) fun g => ⟨rfl, rfl, rfl⟩).trans ?_
        rw [hact, hcur]
        rfl

/-! ## The restart -/

theorem moves_replay (hi : s.Intact) (hP : P .plain) (hP' : P .replay) :
    Moves P s s.reconcileStateFromSessionLogs.1 := by
  unfold reconcileStateFromSessionLogs
  refine (List.foldlRecOn (motive := fun r : State × Bool => Moves P s r.1) _ _ (.refl hi.wf)
    fun r hr sid _ => ?_)
  exact hr.trans (moves_replaySession (hr.intact hi) hP hP' r.2 sid)

/-- What a restart stores: the refreshed state, or what was there. -/
theorem initExisting_cases {memory : State} (h : s.initExisting env = .ok (memory, s')) :
    ∃ loaded ensured, s.load env = .ok loaded ∧
      loaded.ensureDefaults env.utcNow.text = .ok ensured ∧
      (s' = (ensured.reconcileStateFromSessionLogs.1.refreshDispatchReadiness env).1.save ∨ s' = s) := by
  unfold initExisting at h
  obtain ⟨loaded, hl, h⟩ := Except.bind_eq_ok.1 h
  obtain ⟨ensured, he, h⟩ := Except.bind_eq_ok.1 h
  refine ⟨loaded, ensured, hl, he, ?_⟩
  generalize ensured.reconcileStateFromSessionLogs = replayed at h ⊢
  obtain ⟨replayed, replayChanged⟩ := replayed
  dsimp only at h ⊢
  generalize replayed.refreshDispatchReadiness env = refreshed at h ⊢
  obtain ⟨refreshed, refreshChanged⟩ := refreshed
  dsimp only at h ⊢
  generalize refreshed.save = saved at h ⊢
  by_cases hc : ensured ≠ loaded ∨ replayChanged ∨ refreshChanged
  · rw [if_pos hc] at h
    exact .inl (congrArg Prod.snd (Except.pure_eq_ok.1 h)).symm
  · rw [if_neg hc] at h
    exact .inr (congrArg Prod.snd (Except.pure_eq_ok.1 h)).symm

/-- **A restart is some steps of the ledger.** -/
theorem restart_spec (hs : s.Stored) (hP : P .plain) (hP' : P .replay) {memory : State}
    (h : s.initExisting env = .ok (memory, s')) : Stores P s s' := by
  obtain ⟨loaded, ensured, hl, he, hs'⟩ := initExisting_cases h
  have h₀ : Moves P s loaded := (hs.load hP hl).effect.moves hP
  have hi₀ := h₀.intact hs.good
  have h₁ := h₀.trans ((repair_ensureDefaults (P := P) hi₀ hP he).effect.moves hP)
  have h₂ := h₁.trans (moves_replay (h₁.intact hs.good) hP hP')
  have h₃ := h₂.trans (moves_refresh (h₂.intact hs.good) hP env)
  rcases hs' with rfl | rfl
  · exact h₃.saved hs
  · exact .refl hs

end State
end Aize
