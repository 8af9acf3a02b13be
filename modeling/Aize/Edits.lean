/-
  What an operation may do to a Goal.

  The ledger knows the completion state of a Goal and not its wait. `Edits` is the
  rest: along a transaction every Goal stays with its Session, no Goal begins to wait,
  and where a body changes the transaction has logged it (`isEdit`). Only the branch
  of a declared wait in a commit (`applyWaiting`) lets a Goal wait, and only the two
  declarations give a run an outcome, so these are left to the operations that
  contain them.
-/
import Aize.Reachable

namespace Aize

/-- The entry says that the Goal was edited: a new body, or a state change by no run. -/
def LogEntry.isEdit (e : LogEntry) : Bool :=
  match e.body with
  | .goalBodyUpdated .. => true
  | .goalStateChanged t => t.runId.isNone
  | _ => false

namespace State

/-- What a part of the program may do to Goals and runs, besides editing them. -/
structure Powers where
  /-- it may complete a Goal, and read a log into the cache -/
  settles : Prop := False
  /-- the waits that it may give to a Goal -/
  waits : Nat → Option Waiting → Prop := fun _ _ => False
  /-- the outcomes that it may record in a run -/
  declares : Nat → Option Declaration → Prop := fun _ _ => False

namespace Powers

/-- To complete a Goal and to end its wait. -/
def settling : Powers := { settles := True, waits := fun _ w => w = none }

structure Le (p q : Powers) : Prop where
  settles : p.settles → q.settles
  waits : ∀ goalId w, p.waits goalId w → q.waits goalId w
  declares : ∀ rid d, p.declares rid d → q.declares rid d

theorem Le.refl (p : Powers) : p.Le p := ⟨id, fun _ _ => id, fun _ _ => id⟩

/-- No power at all. -/
theorem Le.bot (q : Powers) : Le {} q := ⟨False.elim, fun _ _ => False.elim, fun _ _ => False.elim⟩

end Powers

variable {run : Nat → Option DispatchRun} {p : Powers} {told : String → Prop}
  {s s' s₁ : State} {sid : String}

/-- What may become of the Goal `goalId`; its body changes only where this is `told`. -/
structure GoalEdit (p : Powers) (told : Prop) (goalId : Nat) (g g' : Goal) : Prop where
  sessionId : g'.sessionId = g.sessionId
  waiting : g'.waiting = g.waiting ∨ p.waits goalId g'.waiting
  incomplete : p.settles ∨ (g.completionState = .incomplete → g'.completionState = .incomplete)
  body : g'.body = g.body ∨ told

theorem GoalEdit.refl (p : Powers) (told : Prop) (goalId : Nat) (g : Goal) :
    GoalEdit p told goalId g g :=
  ⟨rfl, .inl rfl, .inr id, .inl rfl⟩

theorem GoalEdit.trans {told : Prop} {goalId : Nat} {g g₁ g' : Goal}
    (h₁ : GoalEdit p told goalId g g₁) (h₂ : GoalEdit p told goalId g₁ g') :
    GoalEdit p told goalId g g' where
  sessionId := h₂.sessionId.trans h₁.sessionId
  waiting := by
    rcases h₂.waiting with h | h
    · rw [h]
      exact h₁.waiting
    · exact .inr h
  incomplete := by
    rcases h₁.incomplete with h | h
    · exact .inl h
    · exact h₂.incomplete.imp id fun h' hg => h' (h hg)
  body := by
    rcases h₂.body with h | h
    · rw [h]
      exact h₁.body
    · exact .inr h

/-- What may become of the Goals, runs and logs of a state while a transaction goes on.
    `told` are the Sessions in whose log an edit is recorded. -/
structure Edits (p : Powers) (told : String → Prop) (s s' : State) : Prop where
  goal : ∀ goalId g, s.goals.lookup goalId = some g → ∃ g', s'.goals.lookup goalId = some g' ∧
    GoalEdit p (told g.sessionId) goalId g g'
  fresh : ∀ goalId g', s'.goals.lookup goalId = some g' →
    goalId ∈ s.goals ∨ g'.waiting = none ∨ p.waits goalId g'.waiting
  run : ∀ rid r', s'.dispatchRuns.lookup rid = some r' →
    (s.dispatchRuns.lookup rid = none ∧ r'.declaredOutcome = none) ∨
      p.declares rid r'.declaredOutcome ∨
        ∃ r, s.dispatchRuns.lookup rid = some r ∧ r'.declaredOutcome = r.declaredOutcome
  runs : ∀ rid ∈ s.dispatchRuns, rid ∈ s'.dispatchRuns
  pending : ∀ x, s.pendingLog x <+: s'.pendingLog x
  persisted : s'.persisted = s.persisted
  full : p.settles ∨ s'.fullIds = s.fullIds

/-- The Sessions in whose log the transaction has recorded an edit. -/
def Told (s : State) (sid : String) : Prop := ∃ e ∈ s.pendingLog sid, e.isEdit

namespace Edits

theorem refl (p : Powers) (told : String → Prop) (s : State) : Edits p told s s where
  goal _ g hg := ⟨g, hg, .refl _ _ _ g⟩
  fresh _ g' hg := .inl (Dict.mem_iff_lookup.2 ⟨g', hg⟩)
  run _ r' hr := .inr (.inr ⟨r', hr, rfl⟩)
  runs _ h := h
  pending _ := List.prefix_rfl
  persisted := rfl
  full := .inr rfl

theorem trans (h₁ : Edits p told s s₁) (h₂ : Edits p told s₁ s') : Edits p told s s' where
  goal goalId g hg := by
    obtain ⟨g₁, hg₁, he₁⟩ := h₁.goal goalId g hg
    obtain ⟨g', hg', he₂⟩ := h₂.goal goalId g₁ hg₁
    rw [he₁.sessionId] at he₂
    exact ⟨g', hg', he₁.trans he₂⟩
  fresh goalId g' hg := by
    rcases h₂.fresh goalId g' hg with hmem | hw
    · obtain ⟨g₁, hg₁⟩ := Dict.mem_iff_lookup.1 hmem
      obtain ⟨g'', hg'', he⟩ := h₂.goal goalId g₁ hg₁
      rw [hg, Option.some.injEq] at hg''
      subst hg''
      refine (h₁.fresh goalId g₁ hg₁).imp id fun hw => ?_
      rcases he.waiting with h | h
      · rw [h]
        exact hw
      · exact .inr h
    · exact .inr hw
  run rid r' hr := by
    rcases h₂.run rid r' hr with ⟨hnone, h⟩ | h | ⟨r₁, hr₁, h⟩
    · refine .inl ⟨?_, h⟩
      rw [← Option.not_isSome_iff_eq_none, Option.isSome_iff_exists, ← Dict.mem_iff_lookup]
      intro hmem
      obtain ⟨r₁, hr₁⟩ := Dict.mem_iff_lookup.1 (h₁.runs rid hmem)
      cases hnone.symm.trans hr₁
    · exact .inr (.inl h)
    · rw [h]
      exact h₁.run rid r₁ hr₁
  runs rid h := h₂.runs rid (h₁.runs rid h)
  pending x := (h₁.pending x).trans (h₂.pending x)
  persisted := h₂.persisted.trans h₁.persisted
  full := by
    rcases h₁.full with h | h
    · exact .inl h
    · exact h₂.full.imp id fun h' => h'.trans h

theorem mono {q : Powers} {told' : String → Prop} (h : Edits p told s s') (hp : p.Le q)
    (ht : ∀ x, told x → told' x) : Edits q told' s s' where
  goal goalId g hg := by
    obtain ⟨g', hg', he⟩ := h.goal goalId g hg
    exact ⟨g', hg', he.sessionId, he.waiting.imp id (hp.waits _ _), he.incomplete.imp hp.settles id,
      he.body.imp id (ht _)⟩
  fresh goalId g' hg := (h.fresh goalId g' hg).imp id fun h => h.imp id (hp.waits _ _)
  run rid r' hr := (h.run rid r' hr).imp id fun h => h.imp (hp.declares _ _) id
  runs := h.runs
  pending := h.pending
  persisted := h.persisted
  full := h.full.imp hp.settles id

/-- What a transaction has told it goes on telling. -/
theorem told_grows (h : Edits p told s s') (ht : s.Told sid) : s'.Told sid := by
  obtain ⟨e, he, hedit⟩ := ht
  exact ⟨e, (h.pending sid).subset he, hedit⟩

/-- One part of a transaction after another. -/
theorem told_trans (h₁ : Edits p s₁.Told s s₁) (h₂ : Edits p s'.Told s₁ s') :
    Edits p s'.Told s s' :=
  (h₁.mono (.refl p) fun _ => h₂.told_grows).trans h₂

/-- A change of records other than Goals, runs and logs. -/
theorem of_fields (hg : s'.goals = s.goals) (hr : s'.dispatchRuns = s.dispatchRuns)
    (hp : s'.pending = s.pending) (hq : s'.persisted = s.persisted)
    (hf : s'.fullIds = s.fullIds) : Edits p told s s' where
  goal id g h := ⟨g, by rw [hg]; exact h, .refl _ _ _ g⟩
  fresh id g' h := .inl (Dict.mem_iff_lookup.2 ⟨g', by rw [← hg]; exact h⟩)
  run rid r' h := .inr (.inr ⟨r', by rw [← hr]; exact h, rfl⟩)
  runs rid h := hr ▸ h
  pending x := by
    have h : s'.pendingLog x = s.pendingLog x := by simp only [pendingLog, hp]
    exact h ▸ List.prefix_rfl
  persisted := hq
  full := .inr hf

theorem of_repair {P : Label → Prop} (h : Repair run P s s') :
    Edits p told s s' :=
  .of_fields h.goals h.effect.runs h.pending h.persisted h.fullIds

theorem modifySession (h : Edits p told s s₁) (x : String) (f : Session → Session) :
    Edits p told s (s₁.modifySession x f) :=
  h.trans (.of_fields rfl rfl rfl rfl rfl)

/-- Reading a log changes the cache only. -/
theorem readSessionLog (hs : p.settles) : Edits p told s (s.readSessionLog sid) := by
  unfold State.readSessionLog
  split_ifs
  · exact .refl ..
  · exact ⟨fun _ g hg => ⟨g, hg, .refl _ _ _ g⟩, fun _ g' hg => .inl (Dict.mem_iff_lookup.2 ⟨g', hg⟩),
      fun _ r' hr => .inr (.inr ⟨r', hr, rfl⟩), fun _ h => h, fun _ => List.prefix_rfl, rfl, .inl hs⟩

theorem append (body : LogBody) (createdAt : String) (key : Option EventKey) :
    Edits p told s (s.appendSessionLogEntry sid body createdAt key) where
  goal id g h := ⟨g, by rw [goals_append]; exact h, .refl _ _ _ g⟩
  fresh id g' h := .inl (Dict.mem_iff_lookup.2 ⟨g', by rw [← goals_append]; exact h⟩)
  run rid r' h := .inr (.inr ⟨r', by rw [← dispatchRuns_append]; exact h, rfl⟩)
  runs rid h := by
    rw [dispatchRuns_append]
    exact h
  pending x := by
    rw [pendingLog_append]
    exact List.prefix_append _ _
  persisted := persisted_append
  full := .inr fullIds_append

/-- An edit of one Goal. -/
theorem modifyGoal (goalId : Nat) {f : Goal → Goal}
    (hf : ∀ g, s.goals.lookup goalId = some g → GoalEdit p (told g.sessionId) goalId g (f g)) :
    Edits p told s (s.modifyGoal goalId f) where
  goal id g h := by
    unfold State.modifyGoal
    rw [Dict.lookup_modify]
    split_ifs with hid
    · subst hid
      exact ⟨f g, by rw [h]; rfl, hf g h⟩
    · exact ⟨g, h, .refl _ _ _ g⟩
  fresh id g' h := .inl (Dict.mem_modify.1 (Dict.mem_iff_lookup.2 ⟨g', h⟩))
  run _ r' h := .inr (.inr ⟨r', h, rfl⟩)
  runs _ h := h
  pending _ := List.prefix_rfl
  persisted := rfl
  full := .inr rfl

/-- A new Goal does not wait. -/
theorem createGoal (hw : s.Wf) (body createdBy createdAt : String) :
    Edits p told s (s.createGoal sid body createdBy createdAt).1 where
  goal id g h := by
    refine ⟨g, ?_, .refl _ _ _ g⟩
    have hid : id ≠ s.nextId := ne_of_lt (hw.goal id g h).2.2
    unfold State.createGoal newId
    dsimp only
    rw [Dict.lookup_insert_of, if_neg hid]
    exact h
  fresh id g' h := by
    unfold State.createGoal newId at h
    dsimp only at h
    rw [Dict.lookup_insert_of] at h
    split_ifs at h with hid
    · cases h
      exact .inr (.inl rfl)
    · exact .inl (Dict.mem_iff_lookup.2 ⟨g', h⟩)
  run _ r' h := .inr (.inr ⟨r', h, rfl⟩)
  runs _ h := h
  pending _ := List.prefix_rfl
  persisted := rfl
  full := .inr rfl

/-- A change of one run. -/
theorem modifyRun (rid : Nat) {f : DispatchRun → DispatchRun}
    (hf : ∀ r, s.dispatchRuns.lookup rid = some r →
      p.declares rid (f r).declaredOutcome ∨ (f r).declaredOutcome = r.declaredOutcome) :
    Edits p told s (s.modifyRun rid f) where
  goal _ g h := ⟨g, h, .refl _ _ _ g⟩
  fresh _ g' h := .inl (Dict.mem_iff_lookup.2 ⟨g', h⟩)
  run rid' r' h := by
    unfold State.modifyRun at h
    rw [Dict.lookup_modify] at h
    split_ifs at h with hid
    · subst hid
      obtain ⟨r, hr, rfl⟩ := Option.map_eq_some_iff.1 h
      exact .inr ((hf r hr).imp id fun h => ⟨r, hr, h⟩)
    · exact .inr (.inr ⟨r', h, rfl⟩)
  runs _ h := Dict.mem_modify.2 h
  pending _ := List.prefix_rfl
  persisted := rfl
  full := .inr rfl

theorem foldl {α : Type} {f : State → α → State} {l : List α}
    (hf : ∀ s, ∀ a ∈ l, Edits p told s (f s a)) : Edits p told s (l.foldl f s) :=
  List.foldlRecOn l f (motive := Edits p told s) (refl p told s) fun s₁ h a ha =>
    h.trans (hf s₁ a ha)

end Edits

/-! ## Messages, signals and state changes -/

theorem edits_newId : Edits p told s s.newId.2 := .of_fields rfl rfl rfl rfl rfl

theorem edits_logSystemSignal (signalType body : String) (targetRoles : List Role)
    (actor createdAt : String) (runId : Option Nat) (availableAfter : Stamp) :
    Edits p told s (s.logSystemSignal sid signalType body targetRoles actor createdAt runId
      availableAfter) :=
  edits_newId.trans (.append ..)

theorem edits_putSessionMessage (fromEndpoint toEndpoint : String) (payload : Payload)
    (createdAt : String) : Edits p told s
      (s.putSessionMessage sid fromEndpoint toEndpoint payload createdAt).1 :=
  (edits_newId.trans (.append ..)).trans (.of_fields rfl rfl rfl rfl rfl)

theorem edits_logGoalStateTransition (goalId : Nat) (x : String) (t : Transition) :
    Edits p told s (s.logGoalStateTransition goalId x t) := by
  unfold logGoalStateTransition
  split_ifs
  · exact .refl ..
  · exact .append ..

theorem edits_applyGoalCompletionState (goalId : Nat) (goal : Goal)
    {completionState : CompletionState} (hs : completionState = .complete → p.settles)
    (reason actor : String) (runId : Option Nat) (now : String) (deferGoalManager : Bool) :
    Edits p told s (s.applyGoalCompletionState goalId goal completionState reason actor runId
      now deferGoalManager) := by
  have hmod : Edits p told s (s.modifyGoal goalId fun g =>
      { g with completionState := completionState, completionReason := reason }) := by
    refine .modifyGoal goalId fun g _ => ⟨rfl, .inl rfl, ?_, .inl rfl⟩
    cases completionState with
    | complete => exact .inl (hs rfl)
    | incomplete => exact .inr fun _ => rfl
  refine (hmod.trans (.of_fields ?_ ?_ ?_ ?_ ?_)).trans (edits_logGoalStateTransition ..) <;>
    cases completionState <;> rfl

theorem edits_notifyParents (goalId : Nat) (goal : Goal) (t : Transition) :
    Edits p told s (s.notifyParents goalId goal t) := by
  unfold notifyParents
  refine @Edits.trans _ _ _ _ (s.logChildGoalCompletedForParents goalId goal t) ?_ ?_
  · unfold logChildGoalCompletedForParents
    split_ifs
    · exact .refl ..
    · refine .foldl fun s p _ => ?_
      split_ifs
      · exact (Edits.append ..).trans (.of_fields rfl rfl rfl rfl rfl)
      · exact .refl ..
  · unfold reopenCompletedParentGoalsForChild
    refine .foldl fun s p _ => ?_
    split
    · split_ifs
      · exact edits_applyGoalCompletionState _ _ (by simp) ..
      · exact .refl ..
    · exact .refl ..

theorem edits_setGoalCompletionState (goalId : Nat) (goal : Goal)
    {completionState : CompletionState} (hs : completionState = .complete → p.settles)
    (reason actor : String) (runId : Option Nat) (now : String) (deferGoalManager : Bool) :
    Edits p told s (s.setGoalCompletionState goalId goal completionState reason actor runId
      now deferGoalManager) := by
  unfold setGoalCompletionState
  dsimp only
  split_ifs
  · exact (edits_applyGoalCompletionState goalId goal hs ..).trans (edits_notifyParents ..)
  · exact edits_applyGoalCompletionState goalId goal hs ..

/-- A state change by no run is told, also when its entry is dropped. -/
theorem told_setIncomplete (hw : s.Wf) (hf : s.fullIds = []) {goalId : Nat} {goal : Goal}
    (hs : goal.sessionId ≠ "") (reason actor now : String) (deferGoalManager : Bool) :
    (s.setGoalCompletionState goalId goal .incomplete reason actor none now
      deferGoalManager).Told goal.sessionId := by
  generalize ht : transitionOf goal .incomplete reason actor none now deferGoalManager = t
  have hrun : t.runId = none := by rw [← ht]; rfl
  have heq : s.setGoalCompletionState goalId goal .incomplete reason actor none now
      deferGoalManager = (s.withGoalState goalId goal .incomplete reason now).logGoalStateTransition
        goalId goal.sessionId t := by
    rw [← ht, ← applyGoalCompletionState_eq]
    rfl
  rw [heq]
  have hcached : (s.withGoalState goalId goal .incomplete reason now).cachedLog goal.sessionId =
      s.pendingLog goal.sessionId := by
    unfold cachedLog
    rw [if_neg (by rw [show (s.withGoalState goalId goal .incomplete reason now).fullIds = [] from hf]
                   exact List.not_mem_nil)]
    rfl
  unfold Told logGoalStateTransition
  rw [if_neg hs, pendingLog_append, if_pos rfl]
  by_cases hd : isDuplicate ((s.withGoalState goalId goal .incomplete reason now).cachedLog
      goal.sessionId) (.goalStateChanged t) (some (stateKey goalId t)) = true
  · -- the entry with this key is in the transaction, and it is such a state change as well
    rw [hcached] at hd
    simp only [isDuplicate, Bool.false_or, Option.isSome_some, Bool.true_and, List.any_eq_true,
      beq_iff_eq] at hd
    obtain ⟨e, he, hk⟩ := hd
    obtain ⟨tr, hb, -, htr, -⟩ := (hw.log _ e (List.mem_append_right _ he)).key _ _ _ _ _ hk
    refine ⟨e, List.mem_append_left _ he, ?_⟩
    simp [LogEntry.isEdit, hb, htr, hrun]
  · have happ : (s.withGoalState goalId goal .incomplete reason now).appended goal.sessionId
        (.goalStateChanged t) t.createdAt (some (stateKey goalId t)) = [_] := if_neg hd
    refine ⟨_, List.mem_append_right _ (happ ▸ List.mem_singleton_self _), ?_⟩
    simp [LogEntry.isEdit, newEntry, hrun]

/-- What a part of an activation or of a batch does: it edits Goals and tells it, and it
    reads no log. -/
structure Launch (s s' : State) : Prop where
  edits : Edits {} s'.Told s s'
  full : s'.fullIds = []

theorem Launch.refl (hf : s.fullIds = []) : Launch s s := ⟨.refl .., hf⟩

theorem Launch.trans (h₁ : Launch s s₁) (h₂ : Launch s₁ s') : Launch s s' :=
  ⟨h₁.edits.told_trans h₂.edits, h₂.full⟩

theorem Launch.of_repair {P : Label → Prop} (hf : s.fullIds = []) (h : Repair run P s s') :
    Launch s s' :=
  ⟨.of_repair h, h.fullIds.trans hf⟩

/-- Edits of the Goal of one Session, which is then made incomplete by no run. -/
theorem Edits.launch (h : Edits {} (· = sid) s s₁) (hw : s₁.Wf) (hf : s₁.fullIds = [])
    (hne : sid ≠ "") {goalId : Nat} {goal : Goal} (hs : goal.sessionId = sid)
    (reason actor now : String) :
    Launch s (s₁.setGoalCompletionState goalId goal .incomplete reason actor none now) := by
  subst hs
  have hset : Edits {} (fun _ => False) s₁ (s₁.setGoalCompletionState goalId goal .incomplete
      reason actor none now) :=
    edits_setGoalCompletionState goalId goal (by simp) reason actor none now false
  have ht := @told_setIncomplete _ hw hf goalId _ hne reason actor now false
  exact ⟨(h.mono (.refl _) fun x hx => hx ▸ ht).trans (hset.mono (.refl _) fun _ => False.elim),
    (hset.full.resolve_left id).trans hf⟩

/-! ## New requirements -/

/-- `update_goal`. -/
theorem launch_reviseGoal (hg : s.Good run) (hf : s.fullIds = [])
    (hs : sid ∈ s.sessions) (env : Env) (body createdBy : String) :
    Launch s (s.reviseGoal env sid body createdBy) := by
  have hne : sid ≠ "" := fun h => hg.wf.blank (h ▸ hs)
  have h₀ := Work.start run hg.wf hs
  unfold reviseGoal
  cases hc : s.currentGoalForSession sid with
  | some c =>
    obtain ⟨goalId, goal⟩ := c
    obtain ⟨hgl, hgs⟩ := hg.wf.currentGoal.1 hc
    have h₁ := h₀.modifyGoal hc (f := fun g => { g with body := body, createdBy := createdBy })
      fun _ => ⟨rfl, rfl, rfl⟩
    obtain ⟨es, h₂, -⟩ := h₁.logGoalBodyUpdate (hg.book.numbered sid) goalId goal.body body createdBy
      env.utcNow.text
    have e₁ : Edits {} (· = sid) s (s.modifyGoal goalId fun g =>
        { g with body := body, createdBy := createdBy }) := by
      refine .modifyGoal goalId fun g hgl' => ⟨rfl, .inl rfl, .inr id, .inr ?_⟩
      rw [hgl, Option.some.injEq] at hgl'
      exact hgl' ▸ hgs
    have e₂ : Edits {} (· = sid) s ((s.modifyGoal goalId fun g =>
        { g with body := body, createdBy := createdBy }).logGoalBodyUpdate sid goalId goal.body body
          createdBy env.utcNow.text) := e₁.trans (edits_newId.trans (.append ..))
    have hw₃ := h₂.wf.modifySession sid fun session => { session with updatedAt := env.utcNow.text }
    exact (e₂.modifySession sid _).launch hw₃ (fullIds_append.trans hf) hne hgs ..
  | none =>
    have h₁ := h₀.createGoal hc body createdBy env.utcNow.text
    have hw₂ := h₁.wf.modifySession sid fun session => { session with updatedAt := env.utcNow.text }
    have e₁ : Edits {} (· = sid) s (s.createGoal sid body createdBy env.utcNow.text).1 :=
      .createGoal hg.wf body createdBy env.utcNow.text
    exact (e₁.modifySession sid _).launch hw₂ hf hne rfl ..

/-- The end of a wait, with its signal. -/
theorem edits_endWait (hend : ∀ goalId, p.waits goalId none) (goalId : Nat)
    (x signalType body : String) (targetRoles : List Role) (actor createdAt : String) :
    Edits p told s ((s.modifyGoal goalId fun g => { g with waiting := none }).logSystemSignal x
      signalType body targetRoles actor createdAt) :=
  (Edits.modifyGoal goalId (f := fun g => { g with waiting := none }) fun _ _ =>
    ⟨rfl, .inr (hend goalId), .inr id, .inl rfl⟩).trans (edits_logSystemSignal ..)

/-- New user input ends a wait. -/
theorem edits_reprocess (hend : ∀ goalId, p.waits goalId none) (hw : s.Wf) (env : Env) (actor reason createdAt : String)
    (deferGoalManager : Bool) : Edits p told s
      (s.markSessionReprocessNeeded env sid actor reason createdAt deferGoalManager) := by
  unfold markSessionReprocessNeeded
  have hset : ∀ {s : State} (goalId : Nat) (goal : Goal), Edits p told s
      (s.setGoalCompletionState goalId goal .incomplete reason actor none env.utcNow.text
        deferGoalManager) := fun goalId goal => edits_setGoalCompletionState goalId goal (by simp) ..
  cases s.currentGoalForSession sid with
  | some c =>
    dsimp only
    split_ifs
    · exact (edits_endWait hend ..).trans (hset ..)
    · exact hset ..
  | none =>
    dsimp only
    refine (@Edits.createGoal _ _ _ sid hw "Reply to user input sent to this Session." actor
      createdAt).trans ?_
    split_ifs
    · exact (edits_endWait hend ..).trans (hset ..)
    · exact hset ..

/-! ## Activations -/

/-- The existing Session of a singleton Unit is activated, or an error stops this. -/
theorem launch_activate (hg : s.Good run) (hf : s.fullIds = []) (hs : sid ∈ s.sessions) (env : Env)
    (unitId : String) (parents : List String) (body createdBy createdAt : String)
    (trigger : Trigger) :
    (∀ s' started, s.activateSingletonUnitSession env unitId sid parents body createdBy createdAt
        trigger = .ok (s', started) → Launch s s') ∧
    ∀ r, s.activateSingletonUnitSession env unitId sid parents body createdBy createdAt trigger =
        .error r → Launch s r.state := by
  have hne : sid ≠ "" := fun h => hg.wf.blank (h ▸ hs)
  unfold activateSingletonUnitSession
  dsimp only
  generalize hs₁ : s.modifySession sid (fun session =>
    { session with active := true, updatedAt := createdAt }) = s₁
  generalize (parentsOrRoot parents).filter _ = linked
  have hg₁ : s₁.Good run := by
    obtain ⟨session, hsession⟩ := Dict.mem_iff_lookup.1 hs
    rw [← hs₁]
    exact (effect_reactivate (P := fun _ => True) hg hsession trivial createdAt).good hg
  have hmem₁ : sid ∈ s₁.sessions := by
    rw [← hs₁]
    exact Dict.mem_modify.2 hs
  have e₁ : ∀ {edges : List Edge}, Edits {} (· = sid) s { s₁ with sessionEdges := edges } := by
    intro edges
    rw [← hs₁]
    exact .of_fields rfl rfl rfl rfl rfl
  have hf₁ : s₁.fullIds = [] := by rw [← hs₁]; exact hf
  obtain ⟨hok, herr⟩ := linkParents_frame hg₁.wf
  refine ⟨fun s' started h => ?_, fun r h => ?_⟩
  · obtain ⟨s₂, h₂, h⟩ := Except.bind_eq_ok.1 h
    obtain ⟨edges, hedges, rfl⟩ := hok s₂ h₂
    have e₂ := @e₁ edges
    have hg₂ := (repair_edges (P := fun _ => True) hg₁.wf hedges).effect.good hg₁
    have hf₂ : State.fullIds { s₁ with sessionEdges := edges } = [] := hf₁
    have hmem₂ : sid ∈ State.sessions { s₁ with sessionEdges := edges } := hmem₁
    generalize ({ s₁ with sessionEdges := edges } : State) = s₂ at e₂ hg₂ hf₂ hmem₂ h
    have hw := Work.start run hg₂.wf hmem₂
    have hn := hg₂.book.numbered sid
    cases hc : s₂.currentGoalForSession sid with
    | some c =>
      obtain ⟨goalId, goal⟩ := c
      obtain ⟨hgl, hgs⟩ := hg₂.wf.currentGoal.1 hc
      simp only [hc, Except.pure_eq_ok, Prod.mk.injEq] at h
      obtain ⟨rfl, rfl⟩ := h
      have h₃ := hw.modifyGoal hc (f := fun g => { g with body := body }) fun _ => ⟨rfl, rfl, rfl⟩
      obtain ⟨es, h₄, -⟩ := h₃.logSystemSignal hn "UnitActivated"
        s!"Unit {unitId} activated by {trigger.name} trigger." [.goalManager] "system" createdAt none
        .absent
      have e₃ : Edits {} (· = sid) s₂ (s₂.modifyGoal goalId fun g => { g with body := body }) := by
        refine .modifyGoal goalId fun g hgl' => ⟨rfl, .inl rfl, .inr id, .inr ?_⟩
        rw [hgl, Option.some.injEq] at hgl'
        exact hgl' ▸ hgs
      exact ((e₂.trans e₃).trans (edits_logSystemSignal ..)).launch h₄.wf (fullIds_append.trans hf₂)
        hne hgs ..
    | none =>
      simp only [hc, Except.pure_eq_ok, Prod.mk.injEq] at h
      obtain ⟨rfl, rfl⟩ := h
      have h₃ := hw.createGoal hc body createdBy createdAt
      obtain ⟨es, h₄, -⟩ := h₃.logSystemSignal hn "UnitActivated"
        s!"Unit {unitId} activated by {trigger.name} trigger." [.goalManager] "system" createdAt none
        .absent
      have e₃ : Edits {} (· = sid) s₂ (s₂.createGoal sid body createdBy createdAt).1 :=
        .createGoal hg₂.wf body createdBy createdAt
      exact ((e₂.trans e₃).trans (edits_logSystemSignal ..)).launch h₄.wf (fullIds_append.trans hf₂)
        hne rfl ..
  · cases h₂ : linkParents sid linked s₁ with
    | error raised =>
      rw [h₂, Except.error_bind] at h
      cases h
      obtain ⟨edges, -, hr⟩ := herr r h₂
      rw [hr]
      refine ⟨?_, hf₁⟩
      rw [← hs₁]
      exact .of_fields rfl rfl rfl rfl rfl
    | ok s₂ => rw [h₂, Except.ok_bind] at h; cases h

/-- `_start_goal_session`. -/
theorem launch_start (hg : s.Good run) (hf : s.fullIds = []) (env : Env) {unitId : String}
    (parents : List String) (label body createdBy createdAt : String) (trigger : Trigger) :
    (∀ s' started, s.startGoalSessionInState env sid unitId parents label body createdBy createdAt
        trigger = .ok (s', started) → Launch s s') ∧
    (sid ≠ "" → ∀ r, s.startGoalSessionInState env sid unitId parents label body createdBy createdAt
        trigger = .error r → Launch s r.state) := by
  unfold startGoalSessionInState
  dsimp only
  generalize (if strip body = "" then strip label else strip body) = body
  have unchanged : ∀ {r : Raised}, r.state = s → Launch s r.state := by
    rintro r h
    rw [h]
    exact .refl hf
  cases hsing : (s.units.lookup (strip unitId)).bind s.singletonSession? with
  | some existing =>
    have hmem : existing ∈ s.sessions := by
      obtain ⟨unit, -, h⟩ := Option.bind_eq_some_iff.1 hsing
      unfold singletonSession? at h
      split_ifs at h with hif
      cases h
      exact hif.2.2
    obtain ⟨hok, herr⟩ := launch_activate hg hf hmem env (strip unitId) parents body createdBy
      createdAt trigger
    refine ⟨fun s' started h => ?_, fun _ r h => ?_⟩
    · obtain ⟨-, -, h⟩ := check_bind_ok.1 h
      obtain ⟨-, -, h⟩ := check_bind_ok.1 h
      obtain ⟨-, -, h⟩ := check_bind_ok.1 h
      exact hok s' started h
    · rcases check_bind_error.1 h with ⟨-, h⟩ | ⟨-, -, h⟩
      · exact unchanged h
      rcases check_bind_error.1 h with ⟨-, h⟩ | ⟨-, -, h⟩
      · exact unchanged h
      rcases check_bind_error.1 h with ⟨-, h⟩ | ⟨-, -, h⟩
      · exact unchanged h
      exact herr r h
  | none =>
    generalize parentsOrRoot parents = ps
    have inserted : sid ∉ s.sessions → sid ≠ "" →
        Repair run (fun _ => True) s (s.insertSession sid (strip unitId) createdAt) :=
      fun hnew hne => repair_insertSession hg trivial hnew hne rfl rfl
    have recorded : sid ∉ s.sessions → sid ≠ "" → Repair run (fun _ => True) s
        ((s.insertSession sid (strip unitId) createdAt).recordSingletonSession sid (strip unitId)) :=
      fun hnew hne => (inserted hnew hne).trans
        (repair_recordSingletonSession (inserted hnew hne).effect.wf _)
    refine ⟨fun s' started h => ?_, fun hne r h => ?_⟩
    · obtain ⟨-, -, h⟩ := check_bind_ok.1 h
      obtain ⟨-, -, h⟩ := check_bind_ok.1 h
      obtain ⟨⟨⟩, hnew, h⟩ := check_bind_ok.1 h
      obtain ⟨-, -, h⟩ := check_bind_ok.1 h
      obtain ⟨⟨⟩, hstrip, h⟩ := check_bind_ok.1 h
      have hnew := Except.require_eq_ok.1 hnew
      have hne : sid ≠ "" := by
        rintro rfl
        exact Except.require_eq_ok.1 hstrip (by decide)
      obtain ⟨s₂, h₂, h⟩ := Except.bind_eq_ok.1 h
      have r₁ := recorded hnew hne
      obtain ⟨edges, hedges, rfl⟩ := (linkParents_frame r₁.effect.wf).1 s₂ h₂
      have r₂ := r₁.trans (repair_edges (P := fun _ => True) r₁.effect.wf hedges)
      rw [Except.pure_eq_ok, Prod.mk.injEq] at h
      obtain ⟨rfl, rfl⟩ := h
      have hmem : sid ∈ ((s.insertSession sid (strip unitId) createdAt).recordSingletonSession sid
          (strip unitId)).sessions :=
        sessions_recordSingletonSession.2 ((AList.mem_insert _).2 (.inl rfl))
      have hg₂ := r₂.effect.good hg
      have hc := currentGoal_congr r₂.goals ▸ hg.currentGoal hnew
      have hw := ((Work.start run hg₂.wf hmem).createGoal hc body createdBy createdAt).wf
      have e₃ : Edits {} (· = sid) s _ := (Edits.of_repair r₂).trans
        (@Edits.createGoal _ _ _ sid hg₂.wf body createdBy createdAt)
      exact e₃.launch hw (r₂.fullIds.trans hf) hne rfl ..
    · rcases check_bind_error.1 h with ⟨-, h⟩ | ⟨-, -, h⟩
      · exact unchanged h
      rcases check_bind_error.1 h with ⟨-, h⟩ | ⟨-, -, h⟩
      · exact unchanged h
      rcases check_bind_error.1 h with ⟨-, h⟩ | ⟨⟨⟩, hnew, h⟩
      · exact unchanged h
      have hnew := Except.require_eq_ok.1 hnew
      rcases check_bind_error.1 h with ⟨-, h⟩ | ⟨-, -, h⟩
      · exact unchanged h
      rcases check_bind_error.1 h with ⟨-, h⟩ | ⟨-, -, h⟩
      · rw [h]
        exact .of_repair hf (inserted hnew hne)
      have r₁ := recorded hnew hne
      cases h₂ : linkParents sid ps ((s.insertSession sid (strip unitId) createdAt
          ).recordSingletonSession sid (strip unitId)) with
      | error raised =>
        rw [h₂, Except.error_bind] at h
        cases h
        obtain ⟨edges, hedges, hr⟩ := (linkParents_frame r₁.effect.wf).2 r h₂
        rw [hr]
        exact .of_repair hf (r₁.trans (repair_edges r₁.effect.wf hedges))
      | ok s₂ => rw [h₂, Except.ok_bind] at h; cases h

/-! ## Batches -/

/-- The initial prompt of a Unit. -/
theorem launch_prompt (hf : s.fullIds = []) {env : Env} {prompt createdBy kind : String}
    {goalId : Nat} {nowText : Stamp}
    (h : s.sendInitialPrompt env prompt sid goalId createdBy kind nowText = .ok s') :
    Launch s s' := by
  unfold sendInitialPrompt appendSessionMessage at h
  split_ifs at h with hs
  · rw [Except.ok_bind] at h
    have e₁ : Edits {} (fun _ => False) s (s.putSessionMessage sid (userEndpoint createdBy)
        (sessionEndpoint sid) { body := prompt, userInput := true } nowText.text).1 :=
      edits_putSessionMessage ..
    generalize s.putSessionMessage sid (userEndpoint createdBy) (sessionEndpoint sid)
      { body := prompt, userInput := true } nowText.text = sent at h e₁
    obtain ⟨s₂, message⟩ := sent
    cases hgl : s₂.goals.lookup goalId with
    | none => simp only [hgl] at h; cases h
    | some goal =>
      simp only [hgl, Except.pure_eq_ok] at h
      have e₂ : Edits {} (fun _ => False) s s' :=
        e₁.trans (h ▸ edits_setGoalCompletionState goalId goal (by simp) ..)
      exact ⟨e₂.mono (.refl _) fun _ => False.elim, (e₂.full.resolve_left id).trans hf⟩
  · cases h

/-- One round of a batch. -/
theorem launch_runUnit (hg : s.Good run) (hf : s.fullIds = []) {env : Env} {trigger : Trigger}
    {parent createdBy unitId : String} {nowText : Stamp} {now : Int} {results : List UnitResult}
    {r' : State × List UnitResult}
    (h : runUnit env trigger parent createdBy nowText now (s, results) unitId = .ok r') :
    Launch s r'.1 := by
  unfold runUnit at h
  dsimp only at h
  cases hunit : s.units.lookup unitId with
  | none =>
    simp only [hunit, Except.ok.injEq] at h
    rw [← h]; exact .refl hf
  | some unit =>
    simp only [hunit] at h
    obtain ⟨selected, -, h⟩ := Except.bind_eq_ok.1 h
    cases selected with
    | false =>
      simp only [Bool.not_false, if_true, Except.ok.injEq] at h
      rw [← h]; exact .refl hf
    | true =>
      simp only [Bool.not_true, Bool.false_eq_true, if_false] at h
      obtain ⟨⟨launchParent, launchUser⟩, -, h⟩ := Except.bind_eq_ok.1 h
      have hne := s.triggeredSessionId_ne unitId trigger nowText.text
      generalize s.triggeredSessionId unitId trigger nowText.text = sessionId at h hne
      obtain ⟨hok, herr⟩ := launch_start hg hf env [launchParent]
        (strip (if unit.displayName = "" then unitId else unit.displayName))
        (strip (if unit.goalText = "" then
          strip (if unit.displayName = "" then unitId else unit.displayName) else unit.goalText))
        launchUser nowText.text trigger
      unfold launchUnit at h
      dsimp only at h
      cases hstart : s.startGoalSessionInState env sessionId unitId [launchParent]
        (strip (if unit.displayName = "" then unitId else unit.displayName))
        (strip (if unit.goalText = "" then
          strip (if unit.displayName = "" then unitId else unit.displayName) else unit.goalText))
        launchUser nowText.text trigger with
      | error raised =>
        obtain ⟨err, s₁⟩ := raised
        cases err with
        | storeError reason =>
          simp only [hstart, Except.ok.injEq] at h
          rw [← h]
          exact herr hne _ hstart
        | keyError _ | overflowError => simp only [hstart] at h; cases h
      | ok result =>
        obtain ⟨s₁, started⟩ := result
        simp only [hstart] at h
        have h₁ := hok s₁ started hstart
        have startup : ∀ {s₂ : State}, s₁.finishStartupUnit env unit launchUser nowText started =
            .ok s₂ → Launch s₁ s₂ := by
          intro s₂ h₂
          unfold finishStartupUnit at h₂
          dsimp only at h₂
          split_ifs at h₂
          · cases h₂; exact .refl h₁.full
          · exact launch_prompt h₁.full h₂
        cases trigger with
        | scheduled =>
          obtain ⟨s₂, h₂, h⟩ := Except.bind_eq_ok.1 h
          rw [← Except.pure_eq_ok.1 h]
          unfold finishScheduledUnit at h₂
          obtain ⟨-, h₂⟩ := Except.require_bind_eq_ok.1 h₂
          dsimp only at h₂
          generalize hs₃ : s₁.modifySession sessionId _ = s₃ at h₂
          have h₃ : Launch s₁ s₃ := by
            rw [← hs₃]
            exact ⟨.of_fields rfl rfl rfl rfl rfl, h₁.full⟩
          have marked : ∀ {s₄ : State}, Launch s₃ s₄ →
              Launch s (s₄.markScheduledRun unitId sessionId nowText) := fun h₄ =>
            ((h₁.trans h₃).trans h₄).trans ⟨.of_fields rfl rfl rfl rfl rfl, h₄.full⟩
          split_ifs at h₂
          · rw [Except.ok_bind] at h₂
            rw [← Except.pure_eq_ok.1 h₂]
            exact marked (.refl h₃.full)
          · obtain ⟨s₄, h₄, h₂⟩ := Except.bind_eq_ok.1 h₂
            rw [← Except.pure_eq_ok.1 h₂]
            exact marked (launch_prompt h₃.full h₄)
        | startup =>
          obtain ⟨s₂, h₂, h⟩ := Except.bind_eq_ok.1 h
          rw [← Except.pure_eq_ok.1 h]
          exact h₁.trans (startup h₂)
        | manual =>
          obtain ⟨s₂, h₂, h⟩ := Except.bind_eq_ok.1 h
          rw [← Except.pure_eq_ok.1 h]
          exact h₁.trans (startup h₂)

/-- **A batch.** -/
theorem launch_batch (hg : s.Good run) (hf : s.fullIds = []) (hcalm : s.Calm) {env : Env}
    {trigger : Trigger} {parent createdBy : String} {nowText : Stamp} {now : Int} {l : List String}
    {r' : State × List UnitResult}
    (h : l.foldlM (runUnit env trigger parent createdBy nowText now) (s, []) = .ok r') :
    Launch s r'.1 := by
  refine (Except.foldlM_invariant (P := fun r : State × List UnitResult =>
    Launch s r.1 ∧ Effect run (fun _ => True) s r.1 ∧ r.1.Calm) h
    ⟨.refl hf, .refl hg.wf, hcalm⟩ ?_).1
  rintro unitId - ⟨s₁, results⟩ r₂ ⟨hl, he, hc⟩ h₂
  have hall := allows_of_all (P := fun _ => True) (fun _ => trivial) trivial s₁ parent createdBy unitId
  obtain ⟨he', hc'⟩ := effect_runUnit (he.good hg) trivial hc hall h₂
  exact ⟨hl.trans (launch_runUnit (he.good hg) hl.full h₂), he.trans he', hc'⟩

end State
end Aize
