/-
  Sessions and their activation, as effects on the ledger: creating a Session,
  making it active, starting its Goal, and the activation of the existing Session
  of a singleton Unit.

  The last one sets the active flag without a log entry (the step `reactivate` of
  the book). When two activations in one transaction change a Goal in the same way,
  the second log entry is dropped (the step `unlogged`); `Logs` says when it is not.
-/
import Aize.Loading

namespace Aize

/-- Who made a state change. -/
def LogEntry.stateActor (e : LogEntry) : Option String :=
  match e.body with
  | .goalStateChanged t => some t.actor
  | _ => none

theorem LogEntry.stateActor_of_not_stateChange {e : LogEntry} (h : e.isStateChange = false) :
    e.stateActor = none := by
  unfold isStateChange at h
  unfold stateActor
  cases hb : e.body <;> simp_all

theorem LogEntry.isStateChange_of_stateActor {e : LogEntry} {actor : String}
    (h : e.stateActor = some actor) : e.isStateChange := by
  by_contra hn
  rw [stateActor_of_not_stateChange (by simpa using hn)] at h
  cases h

theorem normalizeEndpoint_system (sid : String) : normalizeEndpoint "system" sid = "system" := by
  have h : strip "system" = "system" := by decide
  unfold normalizeEndpoint normalizeSystemEndpoint
  simp only [h]
  rfl

namespace State

variable {run : Nat → Option DispatchRun} {P : Label → Prop} {s s' s₁ : State} {sid : String}

/-! ## Checks -/

theorem check_bind_ok {α β : Type} {x : Except Err α} {f : α → Except Raised β} {b : β} :
    (check s x >>= f) = .ok b ↔ ∃ a, x = .ok a ∧ f a = .ok b := by
  cases x with
  | error e => simp [check, Except.mapError, bind, Except.bind]
  | ok a => simp [check, Except.mapError, bind, Except.bind]

theorem check_bind_error {α β : Type} {x : Except Err α} {f : α → Except Raised β} {r : Raised} :
    (check s x >>= f) = .error r ↔ x = .error r.err ∧ r.state = s ∨ ∃ a, x = .ok a ∧ f a = .error r := by
  obtain ⟨err, state⟩ := r
  cases x with
  | error e =>
    simp only [check, Except.mapError, bind, Except.bind, Except.error.injEq, Raised.mk.injEq,
      reduceCtorEq, false_and, exists_false, or_false]
    exact and_congr_right fun _ => eq_comm
  | ok a => simp [check, Except.mapError, bind, Except.bind]

/-! ## The active flag -/

theorem view_setActive {session : Session} (hs : s.sessions.lookup sid = some session)
    {v : SessionView} (hv : s.view sid = some v) (active : Bool) (now : String) :
    (s.modifySession sid fun session =>
      { session with active := active, updatedAt := now }).view =
        Function.update s.view sid (some { v with active := active }) := by
  funext x
  have hcur : (s.modifySession sid fun session =>
    { session with active := active, updatedAt := now }).currentGoalForSession =
      s.currentGoalForSession := rfl
  unfold view
  rw [hcur]
  change ((Dict.modify sid _ s.sessions).lookup x).map _ = _
  rw [Dict.lookup_modify]
  by_cases hx : x = sid
  · subst hx
    rw [if_pos rfl, Function.update_self, hs]
    rw [view, hs] at hv
    cases hv
    rfl
  · rw [if_neg hx, Function.update_of_ne hx]

/-- `set_session_active` after its checks. -/
theorem effect_setActive (hg : s.Good run) (hP : P .plain) {session : Session}
    (hs : s.sessions.lookup sid = some session) (hcached : s.cachedLog sid = []) (active : Bool)
    (actor now : String) : Effect run P s ((s.modifySession sid fun session =>
      { session with active := active, updatedAt := now }).logSessionActiveChange sid session.active
        active actor now) := by
  obtain ⟨v, hv⟩ := exists_view (Dict.mem_iff_lookup.2 ⟨session, hs⟩ : sid ∈ s.sessions)
  have hview₁ := view_setActive hs hv active now
  have hw₁ := hg.wf.modifySession sid fun session =>
    { session with active := active, updatedAt := now }
  have hcached₁ : (s.modifySession sid fun session =>
    { session with active := active, updatedAt := now }).cachedLog sid = [] := hcached
  have hlog₁ : (s.modifySession sid fun session =>
    { session with active := active, updatedAt := now }).log = s.log := rfl
  have hruns₁ : (s.modifySession sid fun session =>
    { session with active := active, updatedAt := now }).dispatchRuns = s.dispatchRuns := rfl
  have hqueue₁ : (s.modifySession sid fun session =>
    { session with active := active, updatedAt := now }).dispatchReadiness = s.dispatchReadiness := rfl
  have hnext₁ : (s.modifySession sid fun session =>
    { session with active := active, updatedAt := now }).nextId = s.nextId := rfl
  unfold logSessionActiveChange
  generalize s.modifySession sid (fun session =>
    { session with active := active, updatedAt := now }) = s₁
    at hview₁ hw₁ hcached₁ hlog₁ hruns₁ hqueue₁ hnext₁ ⊢
  generalize hb : LogBody.sessionActiveChanged session.active active (normalizeEndpoint actor sid) =
    body
  generalize hk : some (EventKey.sessionActive sid now session.active active) = key
  have happ : s₁.appended sid body now key = [s₁.newEntry sid body now key] := by
    refine if_neg ?_
    rw [hcached₁, ← hb]
    simp [isDuplicate]
  have hlog : (s₁.appendSessionLogEntry sid body now key).log =
      Function.update s.log sid (s.log sid ++ [s₁.newEntry sid body now key]) := by
    funext x
    rw [log_append, happ, hlog₁]
    by_cases hx : x = sid
    · subst hx; rw [if_pos rfl, Function.update_self]
    · rw [if_neg hx, Function.update_of_ne hx, List.append_nil]
  have hseq : s₁.latestSessionLogSeq sid = (s.log sid).length := by
    rw [latestSessionLogSeq_eq (by rw [hlog₁]; exact hg.book.numbered sid), hlog₁]
  have hbelow : (s₁.newEntry sid body now key).Below s₁.nextId := by
    subst hb hk
    exact ⟨fun _ hm => (by cases hm), fun _ hr => (by cases hr), fun _ hr => (by cases hr),
      fun _ hk => (by cases hk), fun _ _ _ hk => (by cases hk), fun _ _ _ _ _ hk => (by cases hk)⟩
  have hstep : BookStep run s.book .plain ((s.book.addEntries sid
      [s₁.newEntry sid body now key]).setSession sid { v with active := active }) := by
    refine .setActive (b := s.book) hv ⟨?_, ?_, ?_⟩ hb.symm
    · simp only [Numbered, List.map_cons, List.map_nil, newEntry, hseq]; rfl
    · intro e he rid hr; rw [List.mem_singleton.1 he] at hr; subst hb; cases hr
    · intro e he rid hr; rw [List.mem_singleton.1 he] at hr; subst hb; cases hr
  refine ⟨dispatchRuns_append.trans hruns₁, ?_, ?_, hw₁.append hbelow,
    (BookSteps.of_step hP hstep).trans (.of_eq ?_)⟩
  · rw [dispatchReadiness_append, hqueue₁]; exact .refl _
  · rw [← hnext₁]
    obtain ⟨p, n, hf, hnext⟩ := s₁.appendSessionLogEntry_frame sid body now key
    rw [hf]; exact hnext
  · have hview : (s₁.appendSessionLogEntry sid body now key).view = s₁.view :=
      funext fun x => view_congr sessions_append goals_append x
    unfold book Book.setSession Book.addEntries
    rw [hlog, hview, hview₁]

/-- A Session is made active, without a log entry. -/
theorem effect_reactivate (hg : s.Good run) {session : Session}
    (hs : s.sessions.lookup sid = some session) (hP : P (.reactivate session.active)) (now : String) :
    Effect run P s (s.modifySession sid fun session =>
      { session with active := true, updatedAt := now }) := by
  obtain ⟨v, hv⟩ := exists_view (Dict.mem_iff_lookup.2 ⟨session, hs⟩ : sid ∈ s.sessions)
  have hactive : v.active = session.active := by
    rw [view, hs] at hv
    cases hv
    rfl
  have hstep : BookStep run s.book (.reactivate v.active) (s.book.setSession sid
    { v with active := true }) := .reactivate hv
  rw [hactive] at hstep
  refine ⟨rfl, .refl _, le_rfl, hg.wf.modifySession sid _, (BookSteps.of_step hP hstep).trans
    (.of_eq ?_)⟩
  unfold book Book.setSession
  rw [view_setActive hs hv]
  rfl

/-! ## Links -/

/-- Linking a Session below some parents, one after the other, adds edges only; so does
    the part of it that precedes an error. -/
theorem linkParents_frame {ps : List String} (hw : s.Wf) :
    (∀ s', linkParents sid ps s = .ok s' → ∃ edges : List Edge,
      (∀ e ∈ edges, e.parent ≠ e.child) ∧ s' = { s with sessionEdges := edges }) ∧
    ∀ r, linkParents sid ps s = .error r → ∃ edges : List Edge,
      (∀ e ∈ edges, e.parent ≠ e.child) ∧ r.state = { s with sessionEdges := edges } := by
  induction ps generalizing s with
  | nil =>
    refine ⟨fun s' h => ?_, fun r h => ?_⟩
    · rw [linkParents, Except.ok.injEq] at h
      exact ⟨s.sessionEdges, hw.edge, h.symm⟩
    · rw [linkParents] at h; cases h
  | cons p ps ih =>
    rw [linkParents]
    cases hl : s.linkSessionsInState p sid with
    | error e =>
      refine ⟨fun s' h => (by cases h), fun r h => ?_⟩
      cases h
      exact ⟨s.sessionEdges, hw.edge, rfl⟩
    | ok s₁ =>
      obtain ⟨-, -, hne, rfl | rfl⟩ := linkSessions_cases hl
      · exact ih hw
      · have hedge : ∀ e ∈ s.sessionEdges ++ [⟨p, sid⟩], e.parent ≠ e.child := by
          intro e he
          rcases List.mem_append.1 he with he | he
          · exact hw.edge e he
          · rw [List.mem_singleton.1 he]; exact hne
        exact ih (hw.of_fields (fun _ => .rfl) rfl le_rfl rfl rfl rfl hedge hw.home)

/-! ## Starting a Goal -/

/-- A Session whose Goal this transaction has changed has an incomplete Goal. -/
def Calm (s : State) : Prop :=
  ∀ sid, (∃ e ∈ s.cachedLog sid, e.isStateChange) →
    ∃ goalId goal, s.currentGoalForSession sid = some (goalId, goal) ∧
      goal.completionState = .incomplete

theorem Calm.of_fields (h : s.Calm) (hcached : s'.cachedLog = s.cachedLog)
    (hgoals : s'.goals = s.goals) : s'.Calm := by
  intro sid
  rw [hcached, currentGoal_congr hgoals]
  exact h sid

theorem calm_of_nil (h : ∀ sid, s.cachedLog sid = []) : s.Calm := by
  rintro sid ⟨e, he, -⟩
  rw [h] at he
  cases he

/-- What starting a Goal leaves behind, when `actor` makes its state change. -/
structure Launched (run : Nat → Option DispatchRun) (P : Label → Prop) (actor : String)
    (s s' : State) (started : Started) : Prop where
  effect : Effect run P s s'
  calm : s'.Calm
  goal : ∃ goal, s'.currentGoalForSession started.sessionId = some (started.goalId, goal) ∧
    goal.completionState = .incomplete
  sessions : ∀ x ∈ s'.sessions, x ∈ s.sessions ∨ x = started.sessionId
  cached : ∀ x, ∀ e ∈ s'.cachedLog x, ∀ a, e.stateActor = some a → e ∈ s.cachedLog x ∨ a = actor

theorem Launched.of_effect {actor : String} {started : Started} (h₁ : Effect run P s s₁)
    (hs : ∀ x ∈ s₁.sessions, x ∈ s.sessions ∨ x = started.sessionId)
    (hcached : s₁.cachedLog = s.cachedLog) (h : Launched run P actor s₁ s' started) :
    Launched run P actor s s' started :=
  ⟨h₁.trans h.effect, h.calm, h.goal, fun x hx => (h.sessions x hx).elim (hs x) .inr,
    hcached ▸ h.cached⟩

/-- A state change that would be dropped is already in the cache. -/
theorem stateChange_of_duplicate {cached : List LogEntry} {n goalId : Nat} {t : Transition}
    (hb : ∀ e ∈ cached, e.Below n)
    (hd : isDuplicate cached (.goalStateChanged t) (some (stateKey goalId t)) = true) :
    ∃ e ∈ cached, e.stateActor = some t.actor := by
  by_contra hno
  push Not at hno
  rw [not_duplicate_stateChange hb fun e he tr hbody _ _ hactor => hno e he ?_] at hd
  · cases hd
  · rw [LogEntry.stateActor, hbody]
    exact congrArg some hactor

/-- **The Goal of a Session is made incomplete after requirements and signals.** When
    the entry is dropped, the Goal was incomplete before. -/
theorem Work.launch {es : List LogEntry} (h : Work run s₁ s sid es) (hn : Numbered 0 (s₁.log sid))
    (hP : P .plain) (hcalm : s₁.Calm)
    (hes : ∀ e ∈ es, (e.isRequirement ∨ e.isQuiet) ∧ e.isStateChange = false) {goalId : Nat}
    {goal g : Goal} (hc : s.currentGoalForSession sid = some (goalId, g)) (hs : goal.sessionId = sid)
    (reason actor now : String)
    (hU : (∃ e ∈ s₁.cachedLog sid, e.stateActor = some (normalizeEndpoint actor sid)) →
      P .unlogged) :
    Launched run P (normalizeEndpoint actor sid) s₁
      (s.setGoalCompletionState goalId goal .incomplete reason actor none now) ⟨sid, goalId⟩ := by
  obtain ⟨⟨e, he, h₁⟩, hc₁⟩ := h.applyGoalCompletionState hn hc hs .incomplete reason actor none now
    false (by simp)
  subst hs
  refine ⟨?_, fun x hx => ?_, ⟨_, hc₁, rfl⟩, fun x hx => ?_, fun x y hy a ha => ?_⟩
  · by_cases hd : isDuplicate (s.cachedLog goal.sessionId)
        (.goalStateChanged (transitionOf goal .incomplete reason actor none now false))
        (some (stateKey goalId (transitionOf goal .incomplete reason actor none now false))) = true
    · obtain ⟨x, hx, hst⟩ := stateChange_of_duplicate (n := s.nextId)
        (fun e he => h.wf.log _ e (mem_log_of_cached he)) hd
      replace hst : x.stateActor = some (normalizeEndpoint actor goal.sessionId) := hst
      have hx₀ : x ∈ s₁.cachedLog goal.sessionId := by
        refine (h.cached x hx).resolve_right fun hx => ?_
        rw [LogEntry.stateActor_of_not_stateChange (hes x hx).2] at hst
        cases hst
      obtain ⟨goalId₀, goal₀, hcur, hinc⟩ := hcalm _
        ⟨x, hx₀, LogEntry.isStateChange_of_stateActor hst⟩
      obtain ⟨v, -, hv, -⟩ := h.view
      obtain ⟨session, -, -, -, hgo⟩ := view_eq_some_iff.1 hv
      rw [hcur] at hgo
      exact h.setIncomplete' hn hP (hU ⟨x, hx₀, hst⟩) hc rfl reason actor none now false (by simp)
        ⟨v, _, hv, hgo.symm, hinc⟩ fun e he => (hes e he).1
    · exact h.setIncomplete hn hP hc rfl reason actor none now false (by simp) (by simpa using hd)
  · by_cases hxs : x = goal.sessionId
    · subst hxs; exact ⟨_, _, hc₁, rfl⟩
    · obtain ⟨-, -, hcached, hcur⟩ := h₁.other x hxs
      change ∃ e ∈ (s.applyGoalCompletionState goalId goal .incomplete reason actor none now
        false).cachedLog x, e.isStateChange at hx
      rw [hcached] at hx
      obtain ⟨gid, g', hg', hinc⟩ := hcalm x hx
      exact ⟨gid, g', hcur.trans hg', hinc⟩
  · by_cases hxs : x = goal.sessionId
    · exact .inr hxs
    · obtain ⟨hview, -⟩ := h₁.other x hxs
      obtain ⟨v, hv⟩ := exists_view hx
      exact .inl (mem_of_view (hview.symm.trans hv))
  · by_cases hxs : x = goal.sessionId
    · subst hxs
      rcases h₁.cached y hy with hy | hy
      · exact .inl hy
      rcases List.mem_append.1 hy with hy | hy
      · rw [LogEntry.stateActor_of_not_stateChange (hes y hy).2] at ha
        cases ha
      · split_ifs at hy
        · cases hy
        · rw [List.mem_singleton.1 hy, LogEntry.stateActor, he] at ha
          exact .inr (Option.some.inj ha).symm
    · exact .inl ((h₁.other x hxs).2.2.1 ▸ hy)

/-- The existing Session of a singleton Unit is activated, or an error stops this on the
    way. -/
theorem launched_activate (hg : s.Good run) (hP : P .plain) (hcalm : s.Calm) (hs : sid ∈ s.sessions)
    (hR : ∀ session, s.sessions.lookup sid = some session → P (.reactivate session.active))
    (hU : (∃ e ∈ s.cachedLog sid, e.stateActor = some "system") → P .unlogged) (env : Env)
    (unitId : String)
    (parents : List String) (body createdBy createdAt : String) (trigger : Trigger) :
    (∀ s' started, s.activateSingletonUnitSession env unitId sid parents body createdBy createdAt
        trigger = .ok (s', started) → Launched run P "system" s s' started ∧ started.sessionId = sid) ∧
    ∀ r, s.activateSingletonUnitSession env unitId sid parents body createdBy createdAt trigger =
        .error r → Effect run P s r.state ∧ r.state.Calm := by
  obtain ⟨session, hsession⟩ := Dict.mem_iff_lookup.1 hs
  have h₁ := effect_reactivate hg hsession (hR session hsession) createdAt
  have hg₁ := h₁.good hg
  have hmem₁ : ∀ x, x ∈ (s.modifySession sid fun session =>
    { session with active := true, updatedAt := createdAt }).sessions ↔ x ∈ s.sessions :=
    fun x => Dict.mem_modify
  have hcached₁ : (s.modifySession sid fun session =>
    { session with active := true, updatedAt := createdAt }).cachedLog = s.cachedLog := rfl
  have hgoals₁ : (s.modifySession sid fun session =>
    { session with active := true, updatedAt := createdAt }).goals = s.goals := rfl
  unfold activateSingletonUnitSession
  dsimp only
  generalize s.modifySession sid (fun session =>
    { session with active := true, updatedAt := createdAt }) = s₁ at h₁ hg₁ hmem₁ hcached₁ hgoals₁ ⊢
  generalize (parentsOrRoot parents).filter _ = linked
  obtain ⟨hok, herr⟩ := linkParents_frame hg₁.wf
  refine ⟨fun s' started h => ?_, fun r h => ?_⟩
  · obtain ⟨s₂, h₂, h⟩ := Except.bind_eq_ok.1 h
    obtain ⟨edges, hedges, rfl⟩ := hok s₂ h₂
    have e₂ := h₁.trans (repair_edges (P := P) hg₁.wf hedges).effect
    have hg₂ := e₂.good hg
    have hcalm₂ : Calm { s₁ with sessionEdges := edges } := hcalm.of_fields hcached₁ hgoals₁
    have hmem₂ : ∀ x, x ∈ State.sessions { s₁ with sessionEdges := edges } ↔ x ∈ s.sessions := hmem₁
    have hcached₂ : State.cachedLog { s₁ with sessionEdges := edges } = s.cachedLog := hcached₁
    generalize ({ s₁ with sessionEdges := edges } : State) = s₂ at e₂ hg₂ hcalm₂ hmem₂ hcached₂ h
    have hU₂ : (∃ e ∈ s₂.cachedLog sid, e.stateActor = some (normalizeEndpoint "system" sid)) →
        P .unlogged := by
      rw [hcached₂, normalizeEndpoint_system]
      exact hU
    have finish : ∀ {s' : State} {started : Started}, started.sessionId = sid →
        Launched run P (normalizeEndpoint "system" sid) s₂ s' started →
        Launched run P "system" s s' started := by
      intro s' started hst hl
      rw [normalizeEndpoint_system] at hl
      exact .of_effect e₂ (fun x hx => .inl ((hmem₂ x).1 hx)) hcached₂ hl
    have hn := hg₂.book.numbered sid
    have hw := Work.start run hg₂.wf ((hmem₂ sid).2 hs)
    have signals : ∀ {es : List LogEntry}, (∀ e ∈ es, e.isSignal) →
        ∀ e ∈ [] ++ es, (e.isRequirement ∨ e.isQuiet) ∧ e.isStateChange = false := fun hes e he =>
      ⟨.inr (LogEntry.isQuiet_of_signal (hes e (by simpa using he))),
        LogEntry.isStateChange_of_signal (hes e (by simpa using he))⟩
    cases hc : s₂.currentGoalForSession sid with
    | some c =>
      obtain ⟨goalId, goal⟩ := c
      obtain ⟨-, hgs⟩ := hg₂.wf.currentGoal.1 hc
      simp only [hc, Except.pure_eq_ok, Prod.mk.injEq] at h
      obtain ⟨rfl, rfl⟩ := h
      have h₃ := hw.modifyGoal hc (f := fun g => { g with body := body }) fun _ => ⟨rfl, rfl, rfl⟩
      obtain ⟨es, h₄, hes⟩ := h₃.logSystemSignal hn "UnitActivated"
        s!"Unit {unitId} activated by {trigger.name} trigger." [.goalManager] "system" createdAt none
        .absent
      refine ⟨finish rfl (h₄.launch hn hP hcalm₂ (signals hes)
        (g := { goal with body := body }) ?_ hgs _ _ _ hU₂), rfl⟩
      have hcur := currentGoalForSession_modifyGoal s₂ goalId (f := fun g => { g with body := body })
        (fun _ => ⟨rfl, rfl, rfl⟩) sid
      rw [currentGoal_congr goals_logSystemSignal, hcur, hc]
      simp
    | none =>
      simp only [hc, Except.pure_eq_ok, Prod.mk.injEq] at h
      obtain ⟨rfl, rfl⟩ := h
      have h₃ := hw.createGoal hc body createdBy createdAt
      obtain ⟨es, h₄, hes⟩ := h₃.logSystemSignal hn "UnitActivated"
        s!"Unit {unitId} activated by {trigger.name} trigger." [.goalManager] "system" createdAt none
        .absent
      refine ⟨finish rfl (h₄.launch hn hP hcalm₂ (signals hes)
        (g := (s₂.createGoal sid body createdBy createdAt).2.2) ?_ rfl _ _ _ hU₂), rfl⟩
      rw [currentGoal_congr goals_logSystemSignal]
      exact (currentGoal_createGoal hg₂.wf hw.mem hc body createdBy createdAt sid).trans (if_pos rfl)
  · cases h₂ : linkParents sid linked s₁ with
    | error raised =>
      rw [h₂, Except.error_bind] at h
      cases h
      obtain ⟨edges, hedges, hr⟩ := herr r h₂
      rw [hr]
      exact ⟨h₁.trans (repair_edges (P := P) hg₁.wf hedges).effect, hcalm.of_fields hcached₁ hgoals₁⟩
    | ok s₂ => rw [h₂, Except.ok_bind] at h; cases h

theorem repair_recordSingletonSession (hw : s.Wf) (unitId : String) :
    Repair run P s (s.recordSingletonSession sid unitId) := by
  unfold recordSingletonSession
  split_ifs
  · have h₁ : Repair run P s (s.modifyUnit unitId fun unit => { unit with singletonSessionId := sid }) :=
      repair_units hw _
    exact h₁.trans (repair_modifySession h₁.effect.wf sid fun _ => ⟨rfl, rfl⟩)
  · exact .refl hw

theorem sessions_recordSingletonSession {unitId x : String} :
    x ∈ (s.recordSingletonSession sid unitId).sessions ↔ x ∈ s.sessions := by
  unfold recordSingletonSession
  split_ifs
  · exact Dict.mem_modify
  · exact .rfl

theorem Repair.cachedLog (h : Repair run P s s') : s'.cachedLog = s.cachedLog := by
  funext x
  unfold State.cachedLog State.pendingLog
  rw [h.fullIds, log_congr h.persisted h.pending, h.pending]

theorem Repair.calm (h : Repair run P s s') (hc : s.Calm) : s'.Calm :=
  hc.of_fields h.cachedLog h.goals

/-- A Session that does not exist has no log. -/
theorem Good.cachedLog (hg : s.Good run) (hs : sid ∉ s.sessions) : s.cachedLog sid = [] := by
  have hlog : s.log sid = [] := hg.book.logged sid (view_eq_none.2 hs)
  refine List.eq_nil_iff_forall_not_mem.2 fun e he => ?_
  have := mem_log_of_cached he
  rw [hlog] at this
  cases this

theorem Good.currentGoal (hg : s.Good run) (hs : sid ∉ s.sessions) :
    s.currentGoalForSession sid = none := by
  refine Option.eq_none_iff_forall_ne_some.2 fun g hcur => ?_
  obtain ⟨h₁, h₂⟩ := hg.wf.currentGoal.1 hcur
  exact hs (h₂ ▸ (hg.wf.goal _ _ h₁).2.1)

/-- The first Goal of a Session. -/
theorem launched_create (hg : s.Good run) (hP : P .plain) (hcalm : s.Calm) (hs : sid ∈ s.sessions)
    (hc : s.currentGoalForSession sid = none) (hcached : s.cachedLog sid = [])
    (body createdBy createdAt reason actor now : String) :
    Launched run P (normalizeEndpoint actor sid) s
      ((s.createGoal sid body createdBy createdAt).1.setGoalCompletionState s.nextId
        (s.createGoal sid body createdBy createdAt).2.2 .incomplete reason actor none now)
      ⟨sid, s.nextId⟩ := by
  have h₁ := (Work.start run hg.wf hs).createGoal hc body createdBy createdAt
  refine h₁.launch (hg.book.numbered sid) hP hcalm (by simp)
    (g := (s.createGoal sid body createdBy createdAt).2.2) ?_ rfl _ _ _ (by simp [hcached])
  exact (currentGoal_createGoal hg.wf hs hc body createdBy createdAt sid).trans (if_pos rfl)

/-- **`_start_goal_session`**: a new Session with its Goal, or the existing Session of a
    singleton Unit, or an error on the way. -/
theorem launched_start (hg : s.Good run) (hP : P .plain) (hcalm : s.Calm) {unitId : String}
    (hR : ∀ existing session, (s.units.lookup (strip unitId)).bind s.singletonSession? = some existing →
      s.sessions.lookup existing = some session → P (.reactivate session.active))
    (hU : ∀ existing, (s.units.lookup (strip unitId)).bind s.singletonSession? = some existing →
      (∃ e ∈ s.cachedLog existing, e.stateActor = some "system") → P .unlogged) (env : Env)
    (parents : List String) (label body createdBy createdAt : String) (trigger : Trigger) :
    (∀ s' started, s.startGoalSessionInState env sid unitId parents label body createdBy createdAt
        trigger = .ok (s', started) →
      Launched run P "system" s s' started ∧ (sid ∈ s'.sessions → started.sessionId = sid)) ∧
    (sid ≠ "" → ∀ r, s.startGoalSessionInState env sid unitId parents label body createdBy createdAt
        trigger = .error r → Effect run P s r.state ∧ r.state.Calm) := by
  unfold startGoalSessionInState
  dsimp only
  generalize (if strip body = "" then strip label else strip body) = body
  -- the checks leave the state alone
  have unchanged : ∀ {r : Raised}, r.state = s → Effect run P s r.state ∧ r.state.Calm := by
    rintro r h; rw [h]; exact ⟨.refl hg.wf, hcalm⟩
  cases hsing : (s.units.lookup (strip unitId)).bind s.singletonSession? with
  | some existing =>
    have hmem : existing ∈ s.sessions := by
      obtain ⟨unit, -, h⟩ := Option.bind_eq_some_iff.1 hsing
      unfold singletonSession? at h
      split_ifs at h with hif
      cases h
      exact hif.2.2
    obtain ⟨hok, herr⟩ := launched_activate (P := P) hg hP hcalm hmem
      (fun session h => hR existing session hsing h) (hU existing hsing) env (strip unitId) parents
      body createdBy createdAt trigger
    refine ⟨fun s' started h => ?_, fun _ r h => ?_⟩
    · obtain ⟨-, -, h⟩ := check_bind_ok.1 h
      obtain ⟨-, -, h⟩ := check_bind_ok.1 h
      obtain ⟨⟨⟩, hnew, h⟩ := check_bind_ok.1 h
      have hnew := Except.require_eq_ok.1 hnew
      obtain ⟨hl, hst⟩ := hok s' started h
      exact ⟨hl, fun hm => ((hl.sessions sid hm).resolve_left hnew).symm⟩
    · rcases check_bind_error.1 h with ⟨-, h⟩ | ⟨-, -, h⟩
      · exact unchanged h
      rcases check_bind_error.1 h with ⟨-, h⟩ | ⟨-, -, h⟩
      · exact unchanged h
      rcases check_bind_error.1 h with ⟨-, h⟩ | ⟨-, -, h⟩
      · exact unchanged h
      exact herr r h
  | none =>
    generalize parentsOrRoot parents = ps
    -- a new Session, before it is linked
    have inserted : sid ∉ s.sessions → sid ≠ "" →
        Repair run P s (s.insertSession sid (strip unitId) createdAt) := fun hnew hne =>
      repair_insertSession hg hP hnew hne rfl rfl
    have recorded : sid ∉ s.sessions → sid ≠ "" → Repair run P s
        ((s.insertSession sid (strip unitId) createdAt).recordSingletonSession sid (strip unitId)) :=
      fun hnew hne => (inserted hnew hne).trans
        (repair_recordSingletonSession (inserted hnew hne).effect.wf _)
    have hkeys : ∀ x, x ∈ ((s.insertSession sid (strip unitId) createdAt).recordSingletonSession sid
        (strip unitId)).sessions ↔ x = sid ∨ x ∈ s.sessions := fun x =>
      sessions_recordSingletonSession.trans (AList.mem_insert _)
    refine ⟨fun s' started h => ?_, fun hne r h => ?_⟩
    · obtain ⟨-, -, h⟩ := check_bind_ok.1 h
      obtain ⟨-, -, h⟩ := check_bind_ok.1 h
      obtain ⟨⟨⟩, hnew, h⟩ := check_bind_ok.1 h
      obtain ⟨-, -, h⟩ := check_bind_ok.1 h
      obtain ⟨⟨⟩, hstrip, h⟩ := check_bind_ok.1 h
      have hnew := Except.require_eq_ok.1 hnew
      have hne : sid ≠ "" := by
        rintro rfl
        exact Except.require_eq_ok.1 hstrip (by decide)
      obtain ⟨s₂, h₂, h⟩ := Except.bind_eq_ok.1 h
      have r₁ := recorded hnew hne
      obtain ⟨edges, hedges, rfl⟩ := (linkParents_frame r₁.effect.wf).1 s₂ h₂
      have r₂ := r₁.trans (repair_edges (P := P) r₁.effect.wf hedges)
      have hg₂ := r₂.effect.good hg
      rw [Except.pure_eq_ok, Prod.mk.injEq] at h
      obtain ⟨rfl, rfl⟩ := h
      rw [← normalizeEndpoint_system sid]
      refine ⟨.of_effect r₂.effect (fun x hx => ((hkeys x).1 hx).symm) r₂.cachedLog
        (launched_create hg₂ hP (r₂.calm hcalm) ((hkeys sid).2 (.inl rfl)) ?_ ?_ _ _ _ _ _ _),
        fun _ => rfl⟩
      · rw [currentGoal_congr r₂.goals]; exact hg.currentGoal hnew
      · rw [r₂.cachedLog]; exact hg.cachedLog hnew
    · rcases check_bind_error.1 h with ⟨-, h⟩ | ⟨-, -, h⟩
      · exact unchanged h
      rcases check_bind_error.1 h with ⟨-, h⟩ | ⟨-, -, h⟩
      · exact unchanged h
      rcases check_bind_error.1 h with ⟨-, h⟩ | ⟨⟨⟩, hnew, h⟩
      · exact unchanged h
      have hnew := Except.require_eq_ok.1 hnew
      rcases check_bind_error.1 h with ⟨-, h⟩ | ⟨-, -, h⟩
      · exact unchanged h
      rcases check_bind_error.1 h with ⟨-, h⟩ | ⟨-, -, h⟩
      · have r₁ := inserted hnew hne
        rw [h]
        exact ⟨r₁.effect, r₁.calm hcalm⟩
      have r₁ := recorded hnew hne
      cases h₂ : linkParents sid ps ((s.insertSession sid (strip unitId) createdAt
          ).recordSingletonSession sid (strip unitId)) with
      | error raised =>
        rw [h₂, Except.error_bind] at h
        cases h
        obtain ⟨edges, hedges, hr⟩ := (linkParents_frame r₁.effect.wf).2 r h₂
        rw [hr]
        have r₂ := r₁.trans (repair_edges (P := P) r₁.effect.wf hedges)
        exact ⟨r₂.effect, r₂.calm hcalm⟩
      | ok s₂ => rw [h₂, Except.ok_bind] at h; cases h

end State
end Aize
