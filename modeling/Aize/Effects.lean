/-
  The ledger of a state, and what the operations do to it.

  `State.ledger` reads a ledger off a state. `Effect` is what most of an operation
  amounts to: no run changes, some entries leave the queue, and the book takes some
  steps. Effects compose (`Effect.trans`); the lemmas of this module give the effect
  of each building block, and `Aize.Refinement` puts the operations together.

  A log entry and the change of the Goal that it records are written one after the
  other, but are one step of the book: `Aize.Work` follows the work on one Session
  between two effects.
-/
import Aize.Leases
import Aize.Dispatch

namespace Aize

/-! ## Well-formed states -/

/-- The ids in a log entry have been drawn before `n`, and a state key is that of the
    transition it goes with. -/
structure LogEntry.Below (n : Nat) (e : LogEntry) : Prop where
  message : ∀ m, e.body = .message m → m.messageId < n
  stateRun : ∀ rid, e.stateRun = some rid → rid < n
  inputRun : ∀ rid, e.inputRun = some rid → rid < n
  signal : ∀ id, e.eventKey = some (.systemSignal id) → id < n
  revision : ∀ goalId t rev, e.eventKey = some (.goalBody goalId t rev) → rev < n
  key : ∀ goalId t st rid actor, e.eventKey = some (.goalState goalId t st rid actor) →
    ∃ tr, e.body = .goalStateChanged tr ∧ tr.completionState = st ∧ tr.runId = rid ∧ tr.actor = actor

theorem LogEntry.Below.mono {m n : Nat} {e : LogEntry} (h : e.Below m) (hmn : m ≤ n) : e.Below n :=
  ⟨fun x hx => (h.message x hx).trans_le hmn, fun x hx => (h.stateRun x hx).trans_le hmn,
    fun x hx => (h.inputRun x hx).trans_le hmn, fun x hx => (h.signal x hx).trans_le hmn,
    fun a b x hx => (h.revision a b x hx).trans_le hmn, h.key⟩

namespace State

/-- What holds of every state that the operations pass through. -/
structure Wf (s : State) : Prop where
  blank : "" ∉ s.sessions
  goal : ∀ id g, s.goals.lookup id = some g →
    g.archivedAt = "" ∧ g.sessionId ∈ s.sessions ∧ id < s.nextId
  unique : ∀ id g id' g', s.goals.lookup id = some g → s.goals.lookup id' = some g' →
    g.sessionId = g'.sessionId → id = id'
  run : ∀ id r, s.dispatchRuns.lookup id = some r → id < s.nextId ∧ r.readinessId < s.nextId ∧
    (r.leaseState = .acquired → r.currentPhase = some r.role)
  entry : ∀ e ∈ s.dispatchReadiness, e.readinessId < s.nextId
  ids : (s.dispatchReadiness.map Readiness.readinessId).Nodup
  log : ∀ sid, ∀ e ∈ s.log sid, e.Below s.nextId
  edge : ∀ e ∈ s.sessionEdges, e.parent ≠ e.child
  home : ∀ name user, s.users.lookup name = some user →
    (user.homeSessionId = "" ∨ user.homeSessionId = accountHomeSessionId name) ∧
      (user.homeUnitId = "" ∨ user.homeUnitId = accountHomeUnitId name)

/-! ## The ledger of a state -/

/-- What the ledger sees of a Session. -/
def view (s : State) (sid : String) : Option SessionView :=
  (s.sessions.lookup sid).map fun session =>
    { active := session.active
      cursors := session.roleCursors
      goal := (s.currentGoalForSession sid).map fun g =>
        ⟨g.1, g.2.completionState, g.2.completionReason, g.2.body⟩ }

def book (s : State) : Book := ⟨s.view, s.log⟩

def ledger (s : State) : Ledger :=
  { toBook := s.book, run := s.dispatchRuns.lookup, readiness := s.dispatchReadiness }

variable {s s' s₁ : State} {sid : String}

theorem view_eq_none : s.view sid = none ↔ sid ∉ s.sessions := by
  rw [view, Option.map_eq_none_iff, ← Option.not_isSome_iff_eq_none, AList.lookup_isSome]

theorem view_eq_some_iff {v : SessionView} : s.view sid = some v ↔
    ∃ session, s.sessions.lookup sid = some session ∧ session.active = v.active ∧
      session.roleCursors = v.cursors ∧ (s.currentGoalForSession sid).map
        (fun g => (⟨g.1, g.2.completionState, g.2.completionReason, g.2.body⟩ : GoalView)) =
          v.goal := by
  obtain ⟨a, cs, goal⟩ := v
  simp only [view, Option.map_eq_some_iff, SessionView.mk.injEq]

theorem mem_of_view {v : SessionView} (h : s.view sid = some v) : sid ∈ s.sessions := by
  by_contra hn
  rw [view_eq_none.2 hn] at h
  cases h

theorem exists_view (h : sid ∈ s.sessions) : ∃ v, s.view sid = some v := by
  cases hv : s.view sid with
  | none => exact absurd h (view_eq_none.1 hv)
  | some v => exact ⟨v, rfl⟩

namespace Wf

theorem currentGoal (hw : s.Wf) {g : Nat × Goal} : s.currentGoalForSession sid = some g ↔
    s.goals.lookup g.1 = some g.2 ∧ g.2.sessionId = sid := by
  refine ⟨fun h => ?_, fun ⟨h, hs⟩ => ?_⟩
  · obtain ⟨h₁, -, h₂⟩ := currentGoalForSession_eq_some h
    exact ⟨h₁, h₂⟩
  · cases hc : s.currentGoalForSession sid with
    | none =>
      exact absurd hs (currentGoalForSession_eq_none.1 hc g
        (mem_openGoals.2 ⟨h, (hw.goal _ _ h).1⟩))
    | some g' =>
      obtain ⟨h', -, hs'⟩ := currentGoalForSession_eq_some hc
      have hid := hw.unique _ _ _ _ h' h (hs'.trans hs.symm)
      rw [hid, h] at h'
      exact congrArg some (Prod.ext hid (Option.some.inj h').symm)

theorem signalsFresh (hw : s.Wf) : s.SignalsFresh := fun sid e he id hid =>
  (hw.log sid e he).signal id hid

end Wf

/-! ## Effects -/

/-- A well-formed state whose book is consistent with `run`. -/
structure Good (run : Nat → Option DispatchRun) (s : State) : Prop where
  wf : s.Wf
  book : s.book.Consistent run

/-- From `s` to `s'` no run changes, some entries leave the queue, and the book takes some
    steps with labels in `P`. -/
structure Effect (run : Nat → Option DispatchRun) (P : Label → Prop) (s s' : State) : Prop where
  runs : s'.dispatchRuns = s.dispatchRuns
  queue : Retired s.dispatchReadiness s'.dispatchReadiness
  next : s.nextId ≤ s'.nextId
  wf : s'.Wf
  steps : BookSteps run P s.book s'.book

end State

theorem Retired.refl (l : List Readiness) : Retired l l :=
  ⟨id, (List.map_id l).symm, fun _ => .inl rfl⟩

theorem Retired.trans {l l₁ l₂ : List Readiness} (h₁ : Retired l l₁) (h₂ : Retired l₁ l₂) :
    Retired l l₂ := by
  obtain ⟨F₁, rfl, hF₁⟩ := h₁
  obtain ⟨F₂, rfl, hF₂⟩ := h₂
  refine ⟨F₂ ∘ F₁, List.map_map, fun e => ?_⟩
  rw [Function.comp_apply]
  rcases hF₁ e with h | ⟨st, hst, h⟩ <;> rw [h]
  · exact hF₂ e
  · rcases hF₂ { e with status := st } with h' | ⟨st', hst', h'⟩ <;> rw [h']
    · exact .inr ⟨st, hst, rfl⟩
    · exact .inr ⟨st', hst', rfl⟩

theorem Retired.of_modify (l : List Readiness) (p : Readiness → Bool) {st : ReadinessStatus}
    (hst : st.dead) : Retired l (l.map fun e => if p e then { e with status := st } else e) :=
  ⟨_, rfl, fun e => by
    cases hp : p e
    · exact .inl (by simp)
    · exact .inr ⟨st, hst, by simp⟩⟩

theorem BookSteps.consistent {run : Nat → Option DispatchRun} {P : Label → Prop} {b b' : Book}
    (h : BookSteps run P b b') (hb : b.Consistent run) : b'.Consistent run :=
  h.invariant hb fun _ _ _ hc _ hs => hs.consistent hc

namespace State

variable {s s' s₁ s₂ : State} {sid : String}

namespace Effect

variable {run : Nat → Option DispatchRun} {P Q : Label → Prop}

theorem refl (hw : s.Wf) : Effect run P s s := ⟨rfl, .refl _, le_rfl, hw, .refl _⟩

theorem trans (h₁ : Effect run P s s₁) (h₂ : Effect run P s₁ s₂) : Effect run P s s₂ :=
  ⟨h₂.runs.trans h₁.runs, h₁.queue.trans h₂.queue, h₁.next.trans h₂.next, h₂.wf,
    h₁.steps.trans h₂.steps⟩

theorem mono (hPQ : ∀ l, P l → Q l) (h : Effect run P s s') : Effect run Q s s' :=
  ⟨h.runs, h.queue, h.next, h.wf, h.steps.mono hPQ⟩

theorem good (h : Effect run P s s') (hg : s.Good run) : s'.Good run :=
  ⟨h.wf, h.steps.consistent hg.book⟩

/-- What the ledger does not see. -/
theorem of_book (hruns : s'.dispatchRuns = s.dispatchRuns)
    (hqueue : s'.dispatchReadiness = s.dispatchReadiness) (hnext : s.nextId ≤ s'.nextId)
    (hbook : s'.book = s.book) (hwf : s'.Wf) : Effect run P s s' :=
  ⟨hruns, hqueue ▸ .refl _, hnext, hwf, hbook ▸ .refl _⟩

/-- **An effect is some steps of the ledger.** -/
theorem ledger (h : Effect s.dispatchRuns.lookup P s s') (hP : P .plain) :
    Ledger.Steps P s.ledger s'.ledger := by
  have h₁ : Ledger.Steps P s.ledger (s.ledger.setReadiness s'.dispatchReadiness) :=
    .of_step hP (.retire h.queue)
  have h₂ : Ledger.Steps P (s.ledger.setReadiness s'.dispatchReadiness)
      ((s.ledger.setReadiness s'.dispatchReadiness).setBook s'.book) :=
    BookSteps.steps (c := s.ledger.setReadiness s'.dispatchReadiness) h.steps
  refine (h₁.trans h₂).trans (.of_eq ?_)
  unfold State.ledger Ledger.setBook Ledger.setReadiness
  rw [h.runs]

end Effect

/-! ## Well-formedness of the building blocks -/

namespace Wf

/-- Well-formedness is a matter of a few fields. -/
theorem of_fields (hw : s.Wf) (hsessions : ∀ x, x ∈ s'.sessions ↔ x ∈ s.sessions)
    (hgoals : s'.goals = s.goals) (hnext : s.nextId ≤ s'.nextId)
    (hruns : s'.dispatchRuns = s.dispatchRuns)
    (hqueue : s'.dispatchReadiness = s.dispatchReadiness) (hlog : s'.log = s.log)
    (hedge : ∀ e ∈ s'.sessionEdges, e.parent ≠ e.child)
    (hhome : ∀ name user, s'.users.lookup name = some user →
      (user.homeSessionId = "" ∨ user.homeSessionId = accountHomeSessionId name) ∧
        (user.homeUnitId = "" ∨ user.homeUnitId = accountHomeUnitId name)) : s'.Wf where
  blank := by rw [hsessions]; exact hw.blank
  goal id g h := by
    obtain ⟨h₁, h₂, h₃⟩ := hw.goal id g (hgoals ▸ h)
    exact ⟨h₁, (hsessions _).2 h₂, h₃.trans_le hnext⟩
  unique := by rw [hgoals]; exact hw.unique
  run id r h := by
    obtain ⟨h₁, h₂, h₃⟩ := hw.run id r (hruns ▸ h)
    exact ⟨h₁.trans_le hnext, h₂.trans_le hnext, h₃⟩
  entry e he := (hw.entry e (hqueue ▸ he)).trans_le hnext
  ids := by rw [hqueue]; exact hw.ids
  log sid e he := (hw.log sid e (hlog ▸ he)).mono hnext
  edge := hedge
  home := hhome

/-- The same, where users and edges stay as they are. -/
theorem of_frame (hw : s.Wf) (hsessions : ∀ x, x ∈ s'.sessions ↔ x ∈ s.sessions)
    (hgoals : s'.goals = s.goals) (hnext : s.nextId ≤ s'.nextId)
    (hruns : s'.dispatchRuns = s.dispatchRuns)
    (hqueue : s'.dispatchReadiness = s.dispatchReadiness) (hlog : s'.log = s.log)
    (hedges : s'.sessionEdges = s.sessionEdges) (husers : s'.users = s.users) : s'.Wf :=
  hw.of_fields hsessions hgoals hnext hruns hqueue hlog (by rw [hedges]; exact hw.edge)
    (by rw [husers]; exact hw.home)

theorem newId (hw : s.Wf) : s.newId.2.Wf :=
  hw.of_frame (fun _ => .rfl) rfl (Nat.le_succ _) rfl rfl rfl rfl rfl

theorem modifySession (hw : s.Wf) (x : String) (f : Session → Session) :
    (s.modifySession x f).Wf :=
  hw.of_frame (fun _ => Dict.mem_modify) rfl le_rfl rfl rfl rfl rfl rfl

theorem append (hw : s.Wf) {body : LogBody} {createdAt : String} {key : Option EventKey}
    (hb : (s.newEntry sid body createdAt key).Below s.nextId) :
    (s.appendSessionLogEntry sid body createdAt key).Wf := by
  obtain ⟨p, n, h, hn⟩ := s.appendSessionLogEntry_frame sid body createdAt key
  have hlog : ∀ x, (s.appendSessionLogEntry sid body createdAt key).log x =
      s.log x ++ if x = sid then s.appended sid body createdAt key else [] := fun x => log_append
  rw [h] at hlog ⊢
  refine ⟨hw.blank, fun id g hg => ?_, hw.unique, fun id r hr => ?_,
    fun e he => (hw.entry e he).trans_le hn, hw.ids, fun x e he => ?_, hw.edge, hw.home⟩
  · obtain ⟨h₁, h₂, h₃⟩ := hw.goal id g hg
    exact ⟨h₁, h₂, h₃.trans_le hn⟩
  · obtain ⟨h₁, h₂, h₃⟩ := hw.run id r hr
    exact ⟨h₁.trans_le hn, h₂.trans_le hn, h₃⟩
  · rw [hlog] at he
    rcases List.mem_append.1 he with he | he
    · exact (hw.log x e he).mono hn
    · rw [mem_ite_appended he]; exact hb.mono hn

theorem modifyGoal (hw : s.Wf) (goalId : Nat) {f : Goal → Goal}
    (hf : ∀ g, (f g).archivedAt = g.archivedAt ∧ (f g).sessionId = g.sessionId) :
    (s.modifyGoal goalId f).Wf where
  blank := hw.blank
  goal := by
    refine Dict.forall_lookup_modify hw.goal fun g hg => ?_
    rw [(hf g).1, (hf g).2]
    exact hw.goal goalId g hg
  unique id g id' g' hg hg' hs := by
    have hkey : ∀ id g, (s.modifyGoal goalId f).goals.lookup id = some g →
        ∃ g₀, s.goals.lookup id = some g₀ ∧ g₀.sessionId = g.sessionId := by
      intro id g hg
      have hg : (Dict.modify goalId f s.goals).lookup id = some g := hg
      rw [Dict.lookup_modify] at hg
      split_ifs at hg with hk
      · obtain ⟨g₀, h₀, rfl⟩ := Option.map_eq_some_iff.1 hg
        exact ⟨g₀, hk ▸ h₀, (hf g₀).2.symm⟩
      · exact ⟨g, hg, rfl⟩
    obtain ⟨g₀, h₀, hs₀⟩ := hkey id g hg
    obtain ⟨g₁, h₁, hs₁⟩ := hkey id' g' hg'
    exact hw.unique id g₀ id' g₁ h₀ h₁ (hs₀.trans (hs.trans hs₁.symm))
  run := hw.run
  entry := hw.entry
  ids := hw.ids
  log := hw.log
  edge := hw.edge
  home := hw.home

theorem createGoal (hw : s.Wf) (hs : sid ∈ s.sessions) (hc : s.currentGoalForSession sid = none)
    (body createdBy createdAt : String) : (s.createGoal sid body createdBy createdAt).1.Wf where
  blank := hw.blank
  goal := by
    refine Dict.forall_lookup_insert (fun id g hg => ?_) ⟨rfl, hs, Nat.lt_succ_self _⟩
    obtain ⟨h₁, h₂, h₃⟩ := hw.goal id g hg
    exact ⟨h₁, h₂, Nat.lt_succ_of_lt h₃⟩
  unique := by
    have hno : ∀ id g, s.goals.lookup id = some g → g.sessionId ≠ sid := fun id g hg =>
      currentGoalForSession_eq_none.1 hc (id, g) (mem_openGoals.2 ⟨hg, (hw.goal id g hg).1⟩)
    have hkey : ∀ id g, (s.createGoal sid body createdBy createdAt).1.goals.lookup id = some g →
        id = s.nextId ∧ g.sessionId = sid ∨ s.goals.lookup id = some g ∧ g.sessionId ≠ sid := by
      intro id g hg
      have hg : (s.goals.insert s.nextId { sessionId := sid, body, createdBy, createdAt }).lookup id =
        some g := hg
      rw [Dict.lookup_insert_of] at hg
      split_ifs at hg with hk
      · cases hg; exact .inl ⟨hk, rfl⟩
      · exact .inr ⟨hg, hno id g hg⟩
    intro id g id' g' hg hg' hs
    rcases hkey id g hg with ⟨rfl, h₁⟩ | ⟨h, h₁⟩ <;> rcases hkey id' g' hg' with ⟨rfl, h₂⟩ | ⟨h', h₂⟩
    · rfl
    · exact absurd (hs.symm.trans h₁) h₂
    · exact absurd (hs.trans h₂) h₁
    · exact hw.unique id g id' g' h h' hs
  run id r hr := by
    obtain ⟨h₁, h₂, h₃⟩ := hw.run id r hr
    exact ⟨Nat.lt_succ_of_lt h₁, Nat.lt_succ_of_lt h₂, h₃⟩
  entry e he := Nat.lt_succ_of_lt (hw.entry e he)
  ids := hw.ids
  log x e he := (hw.log x e he).mono (Nat.le_succ _)
  edge := hw.edge
  home := hw.home

/-- Changing the status of some entries. -/
theorem modifyReadiness (hw : s.Wf) (p : Readiness → Bool) {f : Readiness → Readiness}
    (hf : ∀ e, (f e).readinessId = e.readinessId) : (s.modifyReadiness p f).Wf := by
  have hid : Readiness.readinessId ∘ (fun e => if p e then f e else e) = Readiness.readinessId :=
    funext fun e => by dsimp only [Function.comp]; split_ifs <;> simp [hf]
  refine ⟨hw.blank, hw.goal, hw.unique, hw.run, fun e he => ?_, ?_, hw.log, hw.edge, hw.home⟩
  · obtain ⟨x, hx, rfl⟩ := List.mem_map.1 he
    exact lt_of_eq_of_lt (congrFun hid x) (hw.entry x hx)
  · change ((s.dispatchReadiness.map fun e => if p e then f e else e).map Readiness.readinessId).Nodup
    rw [List.map_map, hid]
    exact hw.ids

theorem insertSession (hw : s.Wf) (hs : sid ≠ "") (session : Session) :
    Wf { s with sessions := s.sessions.insert sid session } where
  blank h := (AList.mem_insert _).1 h |>.elim (fun h => hs h.symm) hw.blank
  goal id g hg := by
    obtain ⟨h₁, h₂, h₃⟩ := hw.goal id g hg
    exact ⟨h₁, (AList.mem_insert _).2 (.inr h₂), h₃⟩
  unique := hw.unique
  run := hw.run
  entry := hw.entry
  ids := hw.ids
  log := hw.log
  edge := hw.edge
  home := hw.home

end Wf

/-! ## Views of the building blocks -/

theorem currentGoal_congr {s s' : State} (h : s'.goals = s.goals) :
    s'.currentGoalForSession = s.currentGoalForSession := by
  funext x
  unfold currentGoalForSession openGoals
  rw [h]

theorem view_modifySession (x : String) {f : Session → Session}
    (hf : ∀ session, (f session).active = session.active ∧
      (f session).roleCursors = session.roleCursors) : (s.modifySession x f).view = s.view := by
  funext y
  have hg : (s.modifySession x f).currentGoalForSession y = s.currentGoalForSession y := rfl
  unfold view
  rw [hg, State.modifySession, Dict.lookup_modify]
  split_ifs with hk
  · subst hk
    cases s.sessions.lookup y with
    | none => rfl
    | some session => simp [hf]
  · rfl

/-- The Goals of other Sessions are other Goals. -/
theorem currentGoal_modifyGoal_ne {goalId : Nat} {goal : Goal} {f : Goal → Goal} (hw : s.Wf)
    (hc : s.currentGoalForSession sid = some (goalId, goal))
    (hf : ∀ g, (f g).archivedAt = g.archivedAt ∧ (f g).sessionId = g.sessionId ∧
      (f g).createdAt = g.createdAt) {x : String} (hx : x ≠ sid) :
    (s.modifyGoal goalId f).currentGoalForSession x = s.currentGoalForSession x := by
  rw [currentGoalForSession_modifyGoal s goalId hf]
  cases hcx : s.currentGoalForSession x with
  | none => rfl
  | some g =>
    have hne : g.1 ≠ goalId := by
      rintro rfl
      obtain ⟨h₁, h₂⟩ := hw.currentGoal.1 hcx
      obtain ⟨h₃, h₄⟩ := hw.currentGoal.1 hc
      rw [h₁] at h₃
      cases h₃
      exact hx (h₂.symm.trans h₄)
    simp [hne]

theorem view_modifyGoal {goalId : Nat} {goal : Goal} {f : Goal → Goal} (hw : s.Wf)
    (hc : s.currentGoalForSession sid = some (goalId, goal))
    (hf : ∀ g, (f g).archivedAt = g.archivedAt ∧ (f g).sessionId = g.sessionId ∧
      (f g).createdAt = g.createdAt) (x : String) :
    (s.modifyGoal goalId f).view x = if x = sid then (s.view sid).map fun v =>
      { v with goal := some ⟨goalId, (f goal).completionState, (f goal).completionReason,
                  (f goal).body⟩ } else s.view x := by
  have hs : (s.modifyGoal goalId f).sessions = s.sessions := rfl
  unfold view
  rw [hs]
  split_ifs with hx
  · subst hx
    rw [currentGoalForSession_modifyGoal s goalId hf, hc]
    cases s.sessions.lookup x <;> simp
  · rw [currentGoal_modifyGoal_ne hw hc hf hx]

theorem currentGoal_createGoal (hw : s.Wf) (hs : sid ∈ s.sessions)
    (hc : s.currentGoalForSession sid = none) (body createdBy createdAt : String) (x : String) :
    (s.createGoal sid body createdBy createdAt).1.currentGoalForSession x =
      if x = sid then some (s.createGoal sid body createdBy createdAt).2
      else s.currentGoalForSession x := by
  have hw' := hw.createGoal hs hc body createdBy createdAt
  have hlook : ∀ id, (s.createGoal sid body createdBy createdAt).1.goals.lookup id =
      if id = s.nextId then some (s.createGoal sid body createdBy createdAt).2.2
      else s.goals.lookup id := fun id => Dict.lookup_insert_of _ _ _ _
  split_ifs with hx
  · rw [hw'.currentGoal]
    exact ⟨(hlook _).trans (if_pos rfl), hx ▸ rfl⟩
  · apply Option.ext
    intro g
    rw [hw'.currentGoal, hw.currentGoal, hlook]
    refine and_congr_left fun hgx => ?_
    by_cases hid : g.1 = s.nextId
    · rw [if_pos hid]
      refine iff_of_false ?_ fun h => ?_
      · exact fun h => hx (hgx.symm.trans (congrArg Goal.sessionId (Option.some.inj h).symm))
      · exact absurd (hid ▸ (hw.goal _ _ h).2.2) (lt_irrefl _)
    · rw [if_neg hid]

theorem view_createGoal (hw : s.Wf) (hs : sid ∈ s.sessions)
    (hc : s.currentGoalForSession sid = none) (body createdBy createdAt : String) (x : String) :
    (s.createGoal sid body createdBy createdAt).1.view x = if x = sid then (s.view sid).map fun v =>
      { v with goal := some ⟨s.nextId, .incomplete, "", body⟩ } else s.view x := by
  have hsess : (s.createGoal sid body createdBy createdAt).1.sessions = s.sessions := rfl
  unfold view
  rw [currentGoal_createGoal hw hs hc, hsess]
  split_ifs with hx
  · subst hx
    cases s.sessions.lookup x <;> simp [createGoal, State.newId]
  · rfl

/-- Logs are numbered, so that the next number is known. -/
theorem lastSeq_of_numbered {n : Nat} {l : List LogEntry} (h : Numbered n l) (hl : l ≠ []) :
    lastSeq l = n + l.length := by
  unfold lastSeq
  rw [← List.getLast?_map, h, List.getLast?_range']
  have : 0 < l.length := List.length_pos_of_ne_nil hl
  rw [if_neg (by omega), Option.getD_some]
  omega

theorem Numbered.of_append {n : Nat} {l l' : List LogEntry} (h : Numbered n (l ++ l')) :
    Numbered n l ∧ Numbered (n + l.length) l' := by
  unfold Numbered at *
  rw [List.map_append, List.length_append, ← List.range'_append_1] at h
  obtain ⟨h₁, h₂⟩ := List.append_inj h (by simp)
  exact ⟨h₁, h₂.trans (by congr 1; omega)⟩

theorem latestSessionLogSeq_eq (h : Numbered 0 (s.log sid)) :
    s.latestSessionLogSeq sid = (s.log sid).length := by
  obtain ⟨hp, hq⟩ := Numbered.of_append h
  have hlast : ∀ {n} {l : List LogEntry}, Numbered n l → lastSeq l ≤ n + l.length := by
    intro n l hl
    by_cases hnil : l = []
    · subst hnil; exact Nat.zero_le _
    · exact (lastSeq_of_numbered hl hnil).le
  have hlen : (s.log sid).length = (s.persistedLog sid).length + (s.pendingLog sid).length := by
    simp [log]
  unfold latestSessionLogSeq
  have h₁ := hlast hp
  have h₂ := hlast hq
  have h₃ := hlast h
  by_cases hpend : s.pendingLog sid = []
  · have hlog : s.log sid = s.persistedLog sid := by simp [log, hpend]
    by_cases hpers : s.persistedLog sid = []
    · unfold cachedLog
      rw [hlog, hpend, hpers]
      simp [lastSeq]
    · have := lastSeq_of_numbered hp hpers
      rw [hpend] at hlen
      have hc : lastSeq (s.cachedLog sid) ≤ (s.log sid).length := by
        unfold cachedLog
        split_ifs
        · simpa using h₃
        · rw [hpend]; exact Nat.zero_le _
      simp only [List.length_nil] at hlen
      omega
  · have h₄ := lastSeq_of_numbered hq hpend
    have hc : lastSeq (s.cachedLog sid) = (s.log sid).length := by
      unfold cachedLog
      split_ifs
      · have hne : s.log sid ≠ [] := fun hn => hpend (List.append_eq_nil_iff.1 hn).2
        simpa using lastSeq_of_numbered h hne
      · rw [h₄, hlen]; omega
    rw [hc]
    omega

end State
end Aize
