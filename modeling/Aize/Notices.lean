/-
  What the completion of a Goal does to the other Sessions.

  `_set_goal_completion_state` tells each direct parent of the Goal's Session of the
  completion, and reopens the parents' Goals that are complete. The notice is an
  entry with a key of the parent, the Goal and the second; it is dropped when the
  transaction already holds an entry with this key, and only then
  (`complete_notifies`). Nothing else of another Session changes, and a Goal that
  is complete already tells nobody (`complete_again`).
-/
import Aize.Reachable
import Aize.SessionGraph

namespace Aize

/-- The entry tells of the completion of a child. -/
def LogEntry.isNotice (e : LogEntry) : Bool :=
  match e.body with
  | .childGoalCompleted .. => true
  | _ => false

namespace State

variable {s s' : State} {goalId : Nat} {goal : Goal} {t : Transition} {p x : String}

/-! ## Entries without notices -/

/-- What `s'` adds to the logs is no notice; the Sessions of `xs` get nothing. -/
structure Unnoticed (s s' : State) (xs : Set String) : Prop where
  log : ∀ x, ∃ es, s'.log x = s.log x ++ es ∧ (∀ e ∈ es, e.isNotice = false) ∧ (x ∈ xs → es = [])
  cached : ∀ x ∈ xs, s'.cachedLog x = s.cachedLog x
  latest : ∀ x ∈ xs, s'.latestSessionLogSeq x = s.latestSessionLogSeq x
  edges : s'.sessionEdges = s.sessionEdges
  sessions : ∀ x, x ∈ s'.sessions ↔ x ∈ s.sessions

theorem latestSessionLogSeq_append_ne {sid : String} {body : LogBody} {createdAt : String}
    {eventKey : Option EventKey} (h : x ≠ sid) :
    (s.appendSessionLogEntry sid body createdAt eventKey).latestSessionLogSeq x =
      s.latestSessionLogSeq x := by
  unfold latestSessionLogSeq
  rw [cachedLog_append, if_neg h, List.append_nil]
  unfold persistedLog
  rw [persisted_append]

theorem Unnoticed.refl (s : State) (xs : Set String) : Unnoticed s s xs :=
  ⟨fun x => ⟨[], by simp⟩, fun _ _ => rfl, fun _ _ => rfl, rfl, fun _ => .rfl⟩

theorem Unnoticed.trans {s₁ : State} {xs : Set String} (h : Unnoticed s s₁ xs)
    (h' : Unnoticed s₁ s' xs) : Unnoticed s s' xs where
  log x := by
    obtain ⟨es, h₁, h₂, h₃⟩ := h.log x
    obtain ⟨es', h₁', h₂', h₃'⟩ := h'.log x
    refine ⟨es ++ es', by rw [h₁', h₁, List.append_assoc], fun e he => ?_, fun hx => ?_⟩
    · exact (List.mem_append.1 he).elim (h₂ e) (h₂' e)
    · rw [h₃ hx, h₃' hx]; rfl
  cached x hx := (h'.cached x hx).trans (h.cached x hx)
  latest x hx := (h'.latest x hx).trans (h.latest x hx)
  edges := h'.edges.trans h.edges
  sessions x := (h'.sessions x).trans (h.sessions x)

theorem Unnoticed.mono {xs ys : Set String} (h : Unnoticed s s' xs) (hsub : ys ⊆ xs) :
    Unnoticed s s' ys :=
  ⟨fun x => (h.log x).imp fun _ hes => ⟨hes.1, hes.2.1, fun hx => hes.2.2 (hsub hx)⟩,
    fun x hx => h.cached x (hsub hx), fun x hx => h.latest x (hsub hx), h.edges, h.sessions⟩

theorem unnoticed_append (s : State) (sid : String) {body : LogBody} (createdAt : String)
    (eventKey : Option EventKey) (hb : ∀ c g b r a rid, body ≠ .childGoalCompleted c g b r a rid) :
    Unnoticed s (s.appendSessionLogEntry sid body createdAt eventKey) {x | x ≠ sid} where
  log x := by
    refine ⟨_, log_append, fun e he => ?_, fun hx => if_neg hx⟩
    have hbody : e.body = body := by rw [mem_ite_appended he]; rfl
    unfold LogEntry.isNotice
    rw [hbody]
    cases body with
    | childGoalCompleted c g b r a rid => exact absurd rfl (hb c g b r a rid)
    | _ => rfl
  cached x hx := by rw [cachedLog_append, if_neg hx, List.append_nil]
  latest x hx := latestSessionLogSeq_append_ne hx
  edges := sessionEdges_append
  sessions x := by rw [sessions_append]

theorem unnoticed_withGoalState (s : State) (goalId : Nat) (goal : Goal)
    (completionState : CompletionState) (reason now : String) (xs : Set String) :
    Unnoticed s (s.withGoalState goalId goal completionState reason now) xs := by
  cases completionState <;>
    exact ⟨fun x => ⟨[], (List.append_nil _).symm, by simp⟩, fun _ _ => rfl, fun _ _ => rfl, rfl,
      fun _ => Dict.mem_modify⟩

/-- A change of a completion state, with its entry in the Goal's Session. -/
theorem unnoticed_apply (s : State) (goalId : Nat) (goal : Goal) (completionState : CompletionState)
    (reason actor : String) (runId : Option Nat) (now : String) (deferGoalManager : Bool) :
    Unnoticed s (s.applyGoalCompletionState goalId goal completionState reason actor runId now
      deferGoalManager) {x | x ≠ goal.sessionId} := by
  rw [applyGoalCompletionState_eq]
  refine (unnoticed_withGoalState s goalId goal completionState reason now _).trans ?_
  unfold logGoalStateTransition
  split_ifs
  · exact .refl _ _
  · exact unnoticed_append _ _ _ _ fun _ _ _ _ _ _ h => by cases h

/-! ## The reopened parents -/

theorem unnoticed_reopenParent (goal : Goal) (t : Transition) (s : State) (p : String) :
    Unnoticed s (reopenParent goal t s p) {x | x ≠ p} := by
  unfold reopenParent
  cases hc : s.currentGoalForSession p with
  | none => exact .refl _ _
  | some g =>
    dsimp only
    split_ifs
    · have hp := (currentGoalForSession_eq_some hc).2.2
      exact hp ▸ unnoticed_apply s g.1 g.2 _ _ _ _ _ _
    · exact .refl _ _

/-- The second loop writes no notice. -/
theorem unnoticed_reopenParents (goal : Goal) (t : Transition) :
    ∀ (ps : List String) (s : State), Unnoticed s (ps.foldl (reopenParent goal t) s) {x | x ∉ ps}
  | [], s => .refl _ _
  | p :: ps, s => by
    have hhead : Unnoticed s (reopenParent goal t s p) {x | x ∉ p :: ps} :=
      (unnoticed_reopenParent goal t s p).mono fun x hx hxp => hx (hxp ▸ List.mem_cons_self)
    refine hhead.trans ((unnoticed_reopenParents goal t ps _).mono fun x hx hxp => ?_)
    exact hx (List.mem_cons_of_mem _ hxp)

/-- The Goal of a parent that a completed child reopens. -/
def reopening (goal g : Goal) : Goal :=
  { g with completionState := .incomplete, completionReason := reviewReason goal.sessionId }

/-- One round of the second loop: the parent's Goal, if it is complete, is set to
    incomplete. -/
theorem reopenParent_cases (goal : Goal) (t : Transition) (s : State) (p : String) :
    (reopenParent goal t s p = s ∧
      ∀ g, s.currentGoalForSession p = some g → g.2.completionState = .incomplete) ∨
    ∃ g, s.currentGoalForSession p = some g ∧
      (reopenParent goal t s p).goals = (s.modifyGoal g.1 (reopening goal)).goals := by
  unfold reopenParent
  cases hc : s.currentGoalForSession p with
  | none => exact .inl ⟨rfl, fun g hg => by cases hg⟩
  | some g =>
    dsimp only
    split_ifs with hst
    · exact .inr ⟨g, rfl, goals_applyGoalCompletionState⟩
    · refine .inl ⟨rfl, fun g' hg => ?_⟩
      cases hg
      cases hcs : g.2.completionState with
      | incomplete => rfl
      | complete => exact absurd hcs hst

theorem lookup_reopenParent {id : Nat}
    (h : ∀ g, s.goals.lookup id = some g → g.sessionId ≠ p) :
    (reopenParent goal t s p).goals.lookup id = s.goals.lookup id := by
  rcases reopenParent_cases goal t s p with ⟨heq, -⟩ | ⟨g, hc, hgoals⟩
  · rw [heq]
  · rw [hgoals]
    refine Dict.lookup_modify_ne _ _ ?_
    rintro rfl
    obtain ⟨hl, -, hs⟩ := currentGoalForSession_eq_some hc
    exact h g.2 hl hs

/-- A current Goal after a round is incomplete, or it was the current Goal before and
    belongs to another Session. -/
theorem currentGoal_reopenParent {g : Nat × Goal}
    (hg : (reopenParent goal t s p).currentGoalForSession x = some g) :
    g.2.completionState = .incomplete ∨ x ≠ p ∧ s.currentGoalForSession x = some g := by
  rcases reopenParent_cases goal t s p with ⟨heq, hinc⟩ | ⟨g₀, hc, hgoals⟩
  · rw [heq] at hg
    by_cases hx : x = p
    · exact .inl (hinc g (hx ▸ hg))
    · exact .inr ⟨hx, hg⟩
  · rw [currentGoal_congr hgoals, currentGoalForSession_modifyGoal s g₀.1 (f := reopening goal)
      fun _ => ⟨rfl, rfl, rfl⟩] at hg
    obtain ⟨g₁, hg₁, rfl⟩ := Option.map_eq_some_iff.1 hg
    by_cases hid : g₁.1 = g₀.1
    · left; rw [if_pos hid]; rfl
    · rw [if_neg hid]
      refine .inr ⟨?_, hg₁⟩
      rintro rfl
      rw [hc] at hg₁
      exact hid (congrArg Prod.fst (Option.some.inj hg₁)).symm

/-- **The second loop** changes Goals of the parents only, and leaves each parent with an
    incomplete Goal, if it has one. -/
theorem reopenParents_spec (goal : Goal) (t : Transition) : ∀ (ps : List String) (s : State),
    (∀ id g, s.goals.lookup id = some g → g.sessionId ∉ ps →
      (ps.foldl (reopenParent goal t) s).goals.lookup id = some g) ∧
    ∀ x g, (ps.foldl (reopenParent goal t) s).currentGoalForSession x = some g →
      g.2.completionState = .incomplete ∨ x ∉ ps ∧ s.currentGoalForSession x = some g
  | [], s => ⟨fun _ _ h _ => h, fun _ _ h => .inr ⟨List.not_mem_nil, h⟩⟩
  | p :: ps, s => by
    obtain ⟨hlookup, hcurrent⟩ := reopenParents_spec goal t ps (reopenParent goal t s p)
    rw [List.foldl_cons]
    refine ⟨fun id g hg hs => ?_, fun x g hg => ?_⟩
    · refine hlookup id g ?_ fun h => hs (List.mem_cons_of_mem _ h)
      rw [lookup_reopenParent fun g' hg' => ?_, hg]
      rw [hg] at hg'
      rw [← Option.some.inj hg']
      exact fun h => hs (h ▸ List.mem_cons_self)
    · rcases hcurrent x g hg with hinc | ⟨hx, hg'⟩
      · exact .inl hinc
      · refine (currentGoal_reopenParent hg').imp_right fun h => ⟨fun hmem => ?_, h.2⟩
        exact (List.mem_cons.1 hmem).elim h.1 hx

/-! ## The parents that are told -/

/-- The transaction holds an entry with the key of this notice. -/
def HasNotice (s : State) (p : String) (goalId : Nat) (completedAt : String) : Prop :=
  ∃ e ∈ s.cachedLog p, e.eventKey = some (.childGoalCompleted p goalId completedAt)

/-- The log of the parent gets the notice, and nothing else. -/
def GivesNotice (s s' : State) (goalId : Nat) (goal : Goal) (t : Transition) (p : String) : Prop :=
  ∃ e, s'.log p = s.log p ++ [e] ∧ tellsOf goalId goal t e ∧ e.seq = s.latestSessionLogSeq p + 1

theorem isDuplicate_notice_iff {childSessionId body reason actor : String} {runId : Option Nat} :
    isDuplicate (s.cachedLog p) (.childGoalCompleted childSessionId goalId body reason actor runId)
      (some (.childGoalCompleted p goalId t.createdAt)) = true ↔
        s.HasNotice p goalId t.createdAt := by
  simp [isDuplicate, HasNotice]

/-- One round of the first loop changes nothing of the other Sessions. -/
theorem logChild_ne (goalId : Nat) (goal : Goal) (t : Transition) (h : x ≠ p) :
    (logChild goalId goal t s p).log x = s.log x ∧
    (logChild goalId goal t s p).cachedLog x = s.cachedLog x ∧
    (logChild goalId goal t s p).latestSessionLogSeq x = s.latestSessionLogSeq x := by
  unfold logChild
  split_ifs with hp
  · refine ⟨?_, ?_, latestSessionLogSeq_append_ne h⟩
    · change (s.appendSessionLogEntry p _ _ _).log x = _
      rw [log_append, if_neg h, List.append_nil]
    · change (s.appendSessionLogEntry p _ _ _).cachedLog x = _
      rw [cachedLog_append, if_neg h, List.append_nil]
  · exact ⟨rfl, rfl, rfl⟩

theorem logChild_told (hp : p ∈ s.sessions) (h : ¬s.HasNotice p goalId t.createdAt) :
    GivesNotice s (logChild goalId goal t s p) goalId goal t p := by
  unfold logChild
  rw [if_pos hp]
  refine ⟨s.newEntry p (.childGoalCompleted goal.sessionId goalId goal.body t.reason t.actor
    t.runId) t.createdAt (some (.childGoalCompleted p goalId t.createdAt)), ?_, rfl, rfl⟩
  change (s.appendSessionLogEntry p _ _ _).log p = _
  rw [log_append, if_pos rfl, appended, if_neg fun hd => h (isDuplicate_notice_iff.1 hd)]

theorem logChild_dropped (h : p ∈ s.sessions → s.HasNotice p goalId t.createdAt) :
    (logChild goalId goal t s p).log p = s.log p := by
  unfold logChild
  split_ifs with hp
  · change (s.appendSessionLogEntry p _ _ _).log p = _
    rw [log_append, if_pos rfl, appended, if_pos (isDuplicate_notice_iff.2 (h hp)), List.append_nil]
  · rfl

theorem logChild_frame (goalId : Nat) (goal : Goal) (t : Transition) (s : State) (p : String) :
    (logChild goalId goal t s p).goals = s.goals ∧
    ∀ x, x ∈ (logChild goalId goal t s p).sessions ↔ x ∈ s.sessions := by
  unfold logChild
  split_ifs
  · refine ⟨goals_append, fun x => ?_⟩
    rw [← sessions_append (s := s)]
    exact Dict.mem_modify
  · exact ⟨rfl, fun _ => .rfl⟩

/-- **The first loop** tells the parents that exist and do not have the notice yet. -/
theorem logChildren_spec (goalId : Nat) (goal : Goal) (t : Transition) :
    ∀ {ps : List String} (s : State), ps.Nodup →
      (ps.foldl (logChild goalId goal t) s).goals = s.goals ∧
      ∀ x, (x ∈ ps ∧ x ∈ s.sessions ∧ ¬s.HasNotice x goalId t.createdAt →
          GivesNotice s (ps.foldl (logChild goalId goal t) s) goalId goal t x) ∧
        (¬(x ∈ ps ∧ x ∈ s.sessions ∧ ¬s.HasNotice x goalId t.createdAt) →
          (ps.foldl (logChild goalId goal t) s).log x = s.log x)
  | [], s, _ => ⟨rfl, fun x => by simp⟩
  | p :: ps, s, hps => by
    obtain ⟨hp, hps⟩ := List.nodup_cons.1 hps
    obtain ⟨hgoals, hrest⟩ := logChildren_spec goalId goal t (logChild goalId goal t s p) hps
    obtain ⟨hg, hmem⟩ := logChild_frame goalId goal t s p
    rw [List.foldl_cons]
    refine ⟨hgoals.trans hg, fun x => ?_⟩
    by_cases hx : x = p
    · subst hx
      -- the later rounds are about other parents
      have hsame := (hrest x).2 fun h => hp h.1
      refine ⟨fun h => ?_, fun h => ?_⟩
      · obtain ⟨e, he, hbody, hseq⟩ := logChild_told h.2.1 h.2.2
        exact ⟨e, hsame.trans he, hbody, hseq⟩
      · rw [hsame]
        exact logChild_dropped fun hs => by_contra fun hh => h ⟨List.mem_cons_self, hs, hh⟩
    · obtain ⟨hlog, hcached, hlatest⟩ := logChild_ne (s := s) goalId goal t hx
      have hnotice : (logChild goalId goal t s p).HasNotice x goalId t.createdAt ↔
          s.HasNotice x goalId t.createdAt := by
        unfold HasNotice; rw [hcached]
      have hround := hrest x
      unfold GivesNotice at hround ⊢
      rw [hmem, hnotice, hlog, hlatest] at hround
      simpa [List.mem_cons, hx] using hround

/-! ## A completion -/

/-- The GoalManager's cursor and the windows of the runs in flight lie in the log. -/
structure Bounded (s : State) (p : String) : Prop where
  cursor : ∀ session, s.sessions.lookup p = some session →
    session.roleCursors.get .goalManager ≤ s.latestSessionLogSeq p
  window : ∀ id r, s.dispatchRuns.lookup id = some r → r.leaseState = .acquired → r.sessionId = p →
    r.observedToSeq ≤ s.latestSessionLogSeq p

/-- The log of `p` gains exactly one notice: it tells of this completion, and neither the
    GoalManager's cursor nor a run in flight is past it. -/
def Notified (s s' : State) (goalId : Nat) (goal : Goal) (t : Transition) (p : String) : Prop :=
  ∃ es e, s'.log p = s.log p ++ es ∧ es.filter LogEntry.isNotice = [e] ∧ tellsOf goalId goal t e ∧
    (∀ session, s.sessions.lookup p = some session →
      session.roleCursors.get .goalManager < e.seq) ∧
    ∀ id r, s.dispatchRuns.lookup id = some r → r.leaseState = .acquired → r.sessionId = p →
      r.observedToSeq < e.seq

theorem isNotice_of_tellsOf {e : LogEntry} (h : tellsOf goalId goal t e) : e.isNotice = true := by
  unfold tellsOf at h
  simp [LogEntry.isNotice, h]

theorem filter_isNotice {es : List LogEntry} (h : ∀ e ∈ es, e.isNotice = false) :
    es.filter LogEntry.isNotice = [] :=
  List.filter_eq_nil_iff.2 fun e he => by simp [h e he]

theorem parentSessionIds_congr (h : s'.sessionEdges = s.sessionEdges) :
    s'.parentSessionIds = s.parentSessionIds := by
  funext x
  unfold parentSessionIds
  rw [h]

/-- The two loops, on a state in which the Goal is complete already. -/
theorem notifyParents_spec (goalId : Nat) {goal : Goal} (t : Transition)
    (hs : goal.sessionId ≠ "") :
    (∀ x, (x ∈ s.parentSessionIds goal.sessionId ∧ x ∈ s.sessions ∧
          ¬s.HasNotice x goalId t.createdAt →
        ∃ es e, (s.notifyParents goalId goal t).log x = s.log x ++ (e :: es) ∧
          tellsOf goalId goal t e ∧ e.seq = s.latestSessionLogSeq x + 1 ∧
          ∀ e' ∈ es, e'.isNotice = false) ∧
      (¬(x ∈ s.parentSessionIds goal.sessionId ∧ x ∈ s.sessions ∧
          ¬s.HasNotice x goalId t.createdAt) →
        ∃ es, (s.notifyParents goalId goal t).log x = s.log x ++ es ∧
          ∀ e' ∈ es, e'.isNotice = false) ∧
      (x ∉ s.parentSessionIds goal.sessionId →
        (s.notifyParents goalId goal t).log x = s.log x)) ∧
    (∀ id g, s.goals.lookup id = some g → g.sessionId ∉ s.parentSessionIds goal.sessionId →
      (s.notifyParents goalId goal t).goals.lookup id = some g) ∧
    ∀ x ∈ s.parentSessionIds goal.sessionId, ∀ g,
      (s.notifyParents goalId goal t).currentGoalForSession x = some g →
        g.2.completionState = .incomplete := by
  have hnodup := s.nodup_parentSessionIds goal.sessionId
  obtain ⟨hgoals, htold⟩ := logChildren_spec goalId goal t s hnodup
  have hedges :
      ((s.parentSessionIds goal.sessionId).foldl (logChild goalId goal t) s).sessionEdges =
        s.sessionEdges := List.foldlRecOn _ _ (motive := fun s' : State =>
    s'.sessionEdges = s.sessionEdges) rfl fun s' h p _ => sessionEdges_logChild.trans h
  unfold notifyParents
  rw [logChildGoalCompletedForParents_eq hs, reopenCompletedParentGoalsForChild_eq,
    parentSessionIds_congr hedges]
  generalize (s.parentSessionIds goal.sessionId).foldl (logChild goalId goal t) s = s₁
    at hgoals htold ⊢
  have hquiet := unnoticed_reopenParents goal t (s.parentSessionIds goal.sessionId) s₁
  obtain ⟨hlookup, hcurrent⟩ := reopenParents_spec goal t (s.parentSessionIds goal.sessionId) s₁
  refine ⟨fun x => ⟨fun h => ?_, fun h => ?_, fun h => ?_⟩, fun id g hg hx => ?_,
    fun x hx g hg => ?_⟩
  · obtain ⟨e, he, hbody, hseq⟩ := (htold x).1 h
    obtain ⟨es, hes, hno, -⟩ := hquiet.log x
    exact ⟨es, e, by rw [hes, he, List.append_assoc]; rfl, hbody, hseq, hno⟩
  · obtain ⟨es, hes, hno, -⟩ := hquiet.log x
    exact ⟨es, by rw [hes, (htold x).2 h], hno⟩
  · obtain ⟨es, hes, -, hnil⟩ := hquiet.log x
    rw [hes, hnil h, List.append_nil, (htold x).2 fun h' => h h'.1]
  · exact hlookup id g (hgoals ▸ hg) hx
  · exact (hcurrent x g hg).resolve_right fun h => h.1 hx

/-- A change of a completion state changes one Goal. -/
theorem lookup_apply {id : Nat} {g : Goal} {completionState : CompletionState}
    {reason actor : String} {runId : Option Nat} {now : String} {deferGoalManager : Bool}
    (hgoal : s.goals.lookup goalId = some goal) (hg : s.goals.lookup id = some g)
    (hne : g.sessionId ≠ goal.sessionId) :
    (s.applyGoalCompletionState goalId goal completionState reason actor runId now
      deferGoalManager).goals.lookup id = some g := by
  rw [goals_applyGoalCompletionState]
  refine (Dict.lookup_modify_ne _ _ ?_).trans hg
  rintro rfl
  rw [hgoal] at hg
  exact hne (congrArg Goal.sessionId (Option.some.inj hg)).symm

/-- **A completion tells the direct parents, and only them.** Each one that exists gains
    exactly one notice, unless the transaction holds a notice with its key; its current
    Goal is incomplete afterwards; and nothing else of another Session changes. -/
theorem complete_notifies (hblank : "" ∉ s.sessions) (hacyclic : s.Acyclic)
    (hbounded : ∀ p, s.Parent p goal.sessionId → s.Bounded p)
    (hgoal : s.goals.lookup goalId = some goal) (hs : goal.sessionId ∈ s.sessions)
    (reason actor : String) (runId : Option Nat) (now : String) (deferGoalManager : Bool) :
    let t := transitionOf goal .complete reason actor runId now deferGoalManager
    let s' := s.setGoalCompletionState goalId goal .complete reason actor runId now deferGoalManager
    (goal.completionState ≠ .complete →
      (∀ p, s.Parent p goal.sessionId → p ∈ s.sessions →
        (Notified s s' goalId goal t p ↔ ¬s.HasNotice p goalId now)) ∧
      (∀ p, s.Parent p goal.sessionId → p ∈ s.sessions → ∀ g,
        s'.currentGoalForSession p = some g → g.2.completionState = .incomplete) ∧
      ∀ x, x ≠ goal.sessionId → ¬s.Parent x goal.sessionId → s'.log x = s.log x ∧
        ∀ id g, s.goals.lookup id = some g → g.sessionId = x → s'.goals.lookup id = some g) ∧
    (goal.completionState = .complete →
      ∀ x, (∃ es, s'.log x = s.log x ++ es ∧ ∀ e ∈ es, e.isNotice = false) ∧
        (x ≠ goal.sessionId → s'.log x = s.log x ∧
          ∀ id g, s.goals.lookup id = some g → g.sessionId = x → s'.goals.lookup id = some g)) := by
  intro t s'
  have hquiet := unnoticed_apply s goalId goal .complete reason actor runId now deferGoalManager
  refine ⟨fun hst => ?_, fun hst x => ?_⟩
  · have hs' : s' = (s.applyGoalCompletionState goalId goal .complete reason actor runId now
        deferGoalManager).notifyParents goalId goal t := if_pos ⟨rfl, hst⟩
    rw [hs']
    have hne : goal.sessionId ≠ "" := fun h => hblank (h ▸ hs)
    obtain ⟨hlog, hlookup, hcurrent⟩ := notifyParents_spec (s := s.applyGoalCompletionState goalId
      goal .complete reason actor runId now deferGoalManager) goalId t hne
    have hlook : ∀ id g, s.goals.lookup id = some g → g.sessionId ≠ goal.sessionId →
        (s.applyGoalCompletionState goalId goal .complete reason actor runId now
          deferGoalManager).goals.lookup id = some g := fun _ _ => lookup_apply hgoal
    generalize s.applyGoalCompletionState goalId goal .complete reason actor runId now
      deferGoalManager = s₁ at hquiet hlog hlookup hcurrent hlook
    rw [parentSessionIds_congr hquiet.edges] at hlog hlookup hcurrent
    refine ⟨fun p hp hps => ?_, fun p hp hps g hg => ?_, fun x hx hxp => ?_⟩
    · have hpc : p ≠ goal.sessionId := hacyclic.ne hp
      have hmem : p ∈ s.parentSessionIds goal.sessionId :=
        mem_parentSessionIds.2 ⟨hp, fun h => hblank (h ▸ hps)⟩
      have hlog₁ : s₁.log p = s.log p := by
        obtain ⟨es, hes, -, hnil⟩ := hquiet.log p
        rw [hes, hnil hpc, List.append_nil]
      have hnotice : s₁.HasNotice p goalId t.createdAt ↔ s.HasNotice p goalId now := by
        unfold HasNotice
        rw [hquiet.cached p hpc]
        rfl
      have hround := hlog p
      rw [hquiet.sessions, hnotice, hlog₁, hquiet.latest p hpc] at hround
      constructor
      · rintro ⟨es, e, hes, hfilter, -⟩ hh
        obtain ⟨es', hes', hno⟩ := hround.2.1 fun h => h.2.2 hh
        rw [hes'] at hes
        rw [← List.append_cancel_left hes, filter_isNotice hno] at hfilter
        cases hfilter
      · intro hh
        obtain ⟨es, e, hes, hbody, hseq, hno⟩ := hround.1 ⟨hmem, hps, hh⟩
        refine ⟨e :: es, e, hes, ?_, hbody, fun session hsession => ?_, fun id r hr ha hrs => ?_⟩
        · rw [List.filter_cons_of_pos (isNotice_of_tellsOf hbody), filter_isNotice hno]
        · rw [hseq]
          exact Nat.lt_succ_of_le ((hbounded p hp).cursor session hsession)
        · rw [hseq]
          exact Nat.lt_succ_of_le ((hbounded p hp).window id r hr ha hrs)
    · exact hcurrent p (mem_parentSessionIds.2 ⟨hp, fun h => hblank (h ▸ hps)⟩) g hg
    · have hmem : x ∉ s.parentSessionIds goal.sessionId := fun h => hxp (mem_parentSessionIds.1 h).1
      refine ⟨?_, fun id g hg hgx => ?_⟩
      · obtain ⟨es, hes, -, hnil⟩ := hquiet.log x
        rw [(hlog x).2.2 hmem, hes, hnil hx, List.append_nil]
      · exact hlookup id g (hlook id g hg (hgx ▸ hx)) (hgx ▸ hmem)
  · have hs' : s' = s.applyGoalCompletionState goalId goal .complete reason actor runId now
        deferGoalManager := if_neg fun h => h.2 hst
    rw [hs']
    obtain ⟨es, hes, hno, hnil⟩ := hquiet.log x
    refine ⟨⟨es, hes, hno⟩, fun hx => ⟨by rw [hes, hnil hx, List.append_nil], ?_⟩⟩
    exact fun id g hg hgx => lookup_apply hgoal hg (hgx ▸ hx)

/-- In the states that operations work on, cursors and windows lie in the logs. -/
theorem Loaded.bounded (h : s.Loaded) (p : String) : s.Bounded p := by
  obtain ⟨hi, hsound, -, -⟩ := h.safe
  have hlatest := latestSessionLogSeq_eq (hi.book.numbered p)
  constructor
  · intro session hsession
    rw [hlatest]
    obtain ⟨v, hv⟩ := exists_view (AList.lookup_isSome.1 (by rw [hsession]; rfl))
    obtain ⟨session', hsession', -, hcursors, -⟩ := view_eq_some_iff.1 hv
    rw [hsession] at hsession'
    cases hsession'
    rw [hcursors]
    exact hsound.cursor p v .goalManager hv
  · rintro id r hr - rfl
    rw [hlatest]
    exact (hsound.run id r hr).2

/-! ## A Goal that is completed twice within a second -/

/-- `_set_goal_completion_state` for the current Goal of a Session. -/
def completing (s : State) (sid : String) (completionState : CompletionState) : State :=
  match s.currentGoalForSession sid with
  | some (goalId, goal) =>
    s.setGoalCompletionState goalId goal completionState "done" "GoalManager" none
      (clock 3).utcNow.text
  | none => s

/-- A Session "p" and its child "c", each with a Goal. -/
def family : State := loadedAfter
  [⟨clock 1, .startGoalSession "p" "" ["root"] "P" "build it" "root"⟩,
    ⟨clock 2, .startGoalSession "c" "" ["p"] "C" "build a part" "root"⟩] (clock 3)

/-- The child's Goal has been completed and reopened. -/
def familyReopened : State := (family.completing "c" .complete).completing "c" .incomplete

def familyRank (x : String) : ℕ := if x = "root" then 0 else if x = "p" then 1 else 2

/-- The Goal of the child. -/
def partGoal (s : State) : Goal :=
  (s.goals.lookup 2).getD { sessionId := "", body := "", createdBy := "", createdAt := "" }

/-- A Goal is completed for the first time at the end of its GoalManager's run. -/
def partCompleted (s : State) : State :=
  s.setGoalCompletionState 2 s.partGoal .complete "done" "GoalManager" none (clock 3).utcNow.text

/-- **Completed again in the same second, the Goal tells its parent nothing.** -/
theorem complete_dropped : familyReopened.Acyclic ∧
    familyReopened.goals.lookup 2 = some familyReopened.partGoal ∧
    familyReopened.partGoal.completionState = .incomplete ∧
    familyReopened.Parent "p" familyReopened.partGoal.sessionId ∧ "p" ∈ familyReopened.sessions ∧
    (∀ session, familyReopened.sessions.lookup "p" = some session →
      session.roleCursors.get .goalManager = 0) ∧ familyReopened.dispatchRuns.keys = [] ∧
    familyReopened.partCompleted.log "p" = familyReopened.log "p" := by
  have hfacts : (∀ e ∈ familyReopened.sessionEdges, familyRank e.parent < familyRank e.child) ∧
      familyReopened.goals.lookup 2 = some familyReopened.partGoal ∧
      familyReopened.partGoal.completionState = .incomplete ∧
      (⟨"p", familyReopened.partGoal.sessionId⟩ : Edge) ∈ familyReopened.sessionEdges ∧
      ("p" ∈ familyReopened.sessions) ∧
      ((familyReopened.sessions.lookup "p").map fun session =>
        session.roleCursors.get .goalManager) = some 0 ∧
      familyReopened.dispatchRuns.keys = [] ∧
      familyReopened.partCompleted.log "p" = familyReopened.log "p" := by decide +kernel
  obtain ⟨hrank, hgoal, hst, hp, hmem, hcursor, hruns, hlog⟩ := hfacts
  refine ⟨acyclic_of_rank familyRank hrank, hgoal, hst, hp, hmem, fun session hsession => ?_, hruns,
    hlog⟩
  rw [hsession] at hcursor
  exact Option.some.inj hcursor

/-- The first completion tells it. -/
theorem complete_notifies_family : Notified family family.partCompleted 2 family.partGoal
    (transitionOf family.partGoal .complete "done" "GoalManager" none (clock 3).utcNow.text false)
    "p" := by
  have hfacts : (∀ e ∈ family.sessionEdges, familyRank e.parent < familyRank e.child) ∧
      family.goals.lookup 2 = some family.partGoal ∧ "" ∉ family.sessions ∧
      family.partGoal.completionState = .incomplete ∧
      (⟨"p", family.partGoal.sessionId⟩ : Edge) ∈ family.sessionEdges ∧
      "p" ∈ family.sessions ∧ family.partGoal.sessionId ∈ family.sessions ∧
      family.cachedLog "p" = [] := by decide +kernel
  obtain ⟨hrank, hgoal, hblank, hst, hp, hmem, hs, hcached⟩ := hfacts
  have hloaded : family.Loaded := loaded_after (by decide +kernel)
  have hcomplete := complete_notifies hblank (acyclic_of_rank familyRank hrank)
    (fun p _ => hloaded.bounded p) hgoal hs "done" "GoalManager" none (clock 3).utcNow.text false
  refine ((hcomplete.1 (by simp [hst])).1 "p" hp hmem).2 ?_
  unfold HasNotice
  simp [hcached]

end State
end Aize
