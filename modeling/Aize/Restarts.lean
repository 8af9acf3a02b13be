/-
  What a clean restart makes of the store.

  `init` replays every log over the metadata. Outcomes and cursors agree with the logs in
  every reachable state, so the replay leaves them as they are (`Replays`); the active flag of
  a Session becomes what its log says. The refresh that follows ends waits that are over, and
  signals this. `restart_resumes` puts it together: a restart keeps a flag exactly if the log
  does not say otherwise, and a second one changes no flag.
-/
import Aize.Outcomes

namespace Aize

/-! ## The flag that a log tells -/

/-- A log says nothing of the active flag, or decides it. -/
theorem replayActive_cases (es : List LogEntry) : (∀ b, es.foldl replayActive b = b) ∨
    ∃ c, ∀ b, es.foldl replayActive b = c := by
  induction es with
  | nil => exact .inl fun _ => rfl
  | cons e es ih =>
    have one : (∀ b, replayActive b e = b) ∨ ∃ c, ∀ b, replayActive b e = c := by
      unfold replayActive
      cases e.body with
      | sessionActiveChanged p active a => exact .inr ⟨active, fun _ => rfl⟩
      | _ => exact .inl fun _ => rfl
    simp only [List.foldl_cons]
    rcases ih with ih | ⟨c, ih⟩
    · rcases one with h | ⟨c, h⟩
      · exact .inl fun b => (ih _).trans (h b)
      · exact .inr ⟨c, fun b => (ih _).trans (h b)⟩
    · exact .inr ⟨c, fun b => ih _⟩

/-- A second replay changes no flag. -/
theorem replayActive_again (es : List LogEntry) (b : Bool) :
    es.foldl replayActive (es.foldl replayActive b) = es.foldl replayActive b := by
  rcases replayActive_cases es with h | ⟨c, h⟩
  · rw [h]
  · rw [h, h]

theorem replayActive_signals {es : List LogEntry} (h : ∀ e ∈ es, e.isSignal) (b : Bool) :
    es.foldl replayActive b = b := by
  induction es with
  | nil => rfl
  | cons e es ih =>
    have he : replayActive b e = b := by
      have hs := h e List.mem_cons_self
      unfold LogEntry.isSignal at hs
      unfold replayActive
      cases hb : e.body with
      | systemSignal => rfl
      | _ => simp [hb] at hs
    rw [List.foldl_cons, he]
    exact ih fun x hx => h x (List.mem_cons_of_mem e hx)

namespace State

/-! ## A replay that changes nothing -/

theorem replayEntry_unchanged {r : Replayed} {e : LogEntry} (h : (replayEntry r e).changed = false) :
    r.changed = false ∧ replayActive r.session.active e = r.session.active := by
  have touch : ∀ {r : Replayed} {createdAt : String}, (r.touch createdAt).changed = false →
      r.changed = false := by
    intro r createdAt h
    unfold Replayed.touch at h
    split_ifs at h
    exact h
  have set : ∀ {r : Replayed} {goal : Goal} {st : CompletionState} {reason : String},
      (r.setGoal goal st reason).changed = false → r.changed = false := by
    intro r goal st reason h
    unfold Replayed.setGoal at h
    simp only [Bool.or_eq_false_iff] at h
    exact h.1.1
  obtain ⟨session, goal, changed⟩ := r
  unfold replayEntry at h
  unfold replayActive
  cases hb : e.body with
  | sessionActiveChanged p active a =>
    simp only [hb] at h
    have hc := touch h
    simp only [Bool.or_eq_false_iff, bne_eq_false_iff_eq] at hc
    exact ⟨hc.1, hc.2.symm⟩
  | goalStateChanged t =>
    refine ⟨?_, rfl⟩
    cases goal with
    | none =>
      simp only [hb] at h
      exact touch h
    | some goal =>
      simp only [hb] at h
      cases ht : t.completionState with
      | waiting => simpa only [ht] using h
      | complete =>
        simp only [ht] at h
        exact set (touch h)
      | incomplete =>
        simp only [ht] at h
        exact set (touch h)
  | message m =>
    refine ⟨?_, rfl⟩
    cases goal with
    | none =>
      simp only [hb] at h
      exact touch h
    | some goal =>
      simp only [hb] at h
      split_ifs at h
      · exact h
      · exact set (touch h)
      · exact touch h
  | _ =>
    simp only [hb] at h
    exact ⟨touch h, rfl⟩

theorem replayEntries_unchanged {es : List LogEntry} {r : Replayed}
    (h : (es.foldl replayEntry r).changed = false) :
    r.changed = false ∧ es.foldl replayActive r.session.active = r.session.active := by
  induction es generalizing r with
  | nil => exact ⟨h, rfl⟩
  | cons e es ih =>
    obtain ⟨hc, hact⟩ := ih h
    obtain ⟨hc', hact'⟩ := replayEntry_unchanged hc
    refine ⟨hc', ?_⟩
    rw [List.foldl_cons, ← (replayEntry_spec r e).1, hact, (replayEntry_spec r e).1, hact']

variable {s t s' : State} {env : Env} {sid : String} {done : List String}

theorem replaySession_unchanged {changed : Bool}
    (h : (replaySession (t, changed) sid).2 = false) : changed = false ∧
      ∀ session, t.sessions.lookup sid = some session →
        (t.log sid).foldl replayActive session.active = session.active := by
  unfold replaySession at h
  dsimp only at h
  cases ht : t.sessions.lookup sid with
  | none =>
    rw [ht] at h
    exact ⟨h, fun session hs => absurd hs (Option.some_ne_none session).symm⟩
  | some session =>
    rw [ht] at h
    dsimp only at h
    have hlog : (t.readSessionLog sid).log = t.log := by
      unfold readSessionLog
      split_ifs <;> rfl
    rw [hlog] at h
    have hresult : ((t.log sid).foldl replayEntry
        { session := { session with
            roleCursors := clampCursors session.roleCursors (lastSeq (t.log sid)) }
          goal := ((t.readSessionLog sid).currentGoalForSession sid).map Prod.snd
          changed := changed || clampCursors session.roleCursors (lastSeq (t.log sid)) ≠
            session.roleCursors }).changed = false := by
      split at h <;> exact h
    obtain ⟨hc, hact⟩ := replayEntries_unchanged hresult
    refine ⟨(Bool.or_eq_false_iff.1 hc).1, ?_⟩
    rintro _ ⟨⟩
    exact hact

/-! ## The replay of all logs -/

/-- The logs of the Sessions `done` have been replayed. -/
structure Replays (s : State) (done : List String) (t : State) : Prop where
  frame : ∃ sessions goals full,
    t = { s with sessions := sessions, goals := goals, fullIds := full }
  session : ∀ x, ∃ f : Session → Session, t.sessions.lookup x = (s.sessions.lookup x).map f ∧
    ∀ session, (f session).roleCursors = session.roleCursors ∧ (f session).active =
      if x ∈ done then (s.log x).foldl replayActive session.active else session.active
  goal : ∀ goalId, ∃ f : String → String, t.goals.lookup goalId =
    (s.goals.lookup goalId).map fun g => { g with completionReason := f g.completionReason }

/-- What a replay may rely on: cursors lie in the logs, and the logs tell the outcomes. -/
structure Replayable (s : State) : Prop where
  wf : s.Wf
  numbered : ∀ x, Numbered 0 (s.log x)
  cursor : ∀ x session role, s.sessions.lookup x = some session →
    session.roleCursors.get role ≤ (s.log x).length
  outcome : ∀ goalId g, s.goals.lookup goalId = some g →
    ((s.log g.sessionId).foldl replayGoal (g.completionState, g.completionReason)).1 =
      g.completionState

namespace Replays

theorem start (s : State) : Replays s [] s :=
  ⟨⟨s.sessions, s.goals, s.fullIds, rfl⟩,
    fun x => ⟨fun session => session, by cases s.sessions.lookup x <;> rfl, fun _ => ⟨rfl, rfl⟩⟩,
    fun goalId => ⟨fun reason => reason, by cases s.goals.lookup goalId <;> rfl⟩⟩

theorem log (h : Replays s done t) : t.log = s.log := by
  obtain ⟨sessions, goals, full, rfl⟩ := h.frame
  rfl

/-- A Goal of the replayed state is the one that was there. -/
theorem goal_cases (h : Replays s done t) {goalId : Nat} {goal : Goal}
    (hg : t.goals.lookup goalId = some goal) : ∃ g, s.goals.lookup goalId = some g ∧
      goal.sessionId = g.sessionId ∧ goal.completionState = g.completionState := by
  obtain ⟨f, hf⟩ := h.goal goalId
  rw [hg] at hf
  obtain ⟨g, hs, rfl⟩ := Option.map_eq_some_iff.1 hf.symm
  exact ⟨g, hs, rfl, rfl⟩

/-- **The log of one more Session.** -/
theorem step (hs : s.Replayable) (h : Replays s done t) (changed : Bool) (sid : String) :
    Replays s (done ++ [sid]) (replaySession (t, changed) sid).1 := by
  have others : ∀ x, x ≠ sid → (x ∈ done ++ [sid] ↔ x ∈ done) := fun x hx => by simp [hx]
  have other : ∀ x, x ≠ sid → ∃ f : Session → Session,
      t.sessions.lookup x = (s.sessions.lookup x).map f ∧ ∀ session,
        (f session).roleCursors = session.roleCursors ∧ (f session).active =
          if x ∈ done ++ [sid] then (s.log x).foldl replayActive session.active
          else session.active := by
    intro x hx
    obtain ⟨f, hf, hfs⟩ := h.session x
    refine ⟨f, hf, fun session => ⟨(hfs session).1, (hfs session).2.trans ?_⟩⟩
    rw [if_congr (others x hx) rfl rfl]
  unfold replaySession
  dsimp only
  cases ht : t.sessions.lookup sid with
  | none =>
    refine ⟨h.frame, fun x => ?_, h.goal⟩
    by_cases hx : x = sid
    · subst hx
      obtain ⟨f, hf, -⟩ := h.session x
      have hnone : s.sessions.lookup x = none := by
        rw [ht] at hf
        exact Option.map_eq_none_iff.1 hf.symm
      refine ⟨fun session => { session with active := (s.log x).foldl replayActive session.active },
        by rw [ht, hnone]; rfl, fun session => ⟨rfl, ?_⟩⟩
      rw [if_pos (List.mem_append_right done (List.mem_singleton_self x))]
    · exact other x hx
  | some session₁ =>
    dsimp only
    obtain ⟨full, hread⟩ : ∃ full, t.readSessionLog sid = { t with fullIds := full } := by
      unfold State.readSessionLog
      split_ifs
      · exact ⟨t.fullIds, rfl⟩
      · exact ⟨_, rfl⟩
    have hlog : (t.readSessionLog sid).log = s.log := by
      rw [← h.log, hread]
      rfl
    rw [hlog, hread]
    have hcurrent : State.currentGoalForSession { t with fullIds := full } =
        t.currentGoalForSession := rfl
    rw [hcurrent]
    -- the entries are replayed over the Session and its Goal
    obtain ⟨f, hf, hfs⟩ := h.session sid
    rw [ht] at hf
    obtain ⟨session₀, hs₀, rfl⟩ := Option.map_eq_some_iff.1 hf.symm
    obtain ⟨hcur, hact⟩ := hfs session₀
    have hclamp : clampCursors (f session₀).roleCursors (lastSeq (s.log sid)) =
        session₀.roleCursors := by
      rw [hcur, numbered_lastSeq (hs.numbered sid)]
      have hm : session₀.roleCursors.goalManager ≤ (s.log sid).length :=
        hs.cursor sid session₀ .goalManager hs₀
      have hw : session₀.roleCursors.workerAgent ≤ (s.log sid).length :=
        hs.cursor sid session₀ .workerAgent hs₀
      unfold clampCursors
      rw [min_eq_left hm, min_eq_left hw]
    rw [hclamp]
    obtain ⟨hra, hrc, hrg⟩ := replayEntries_spec (s.log sid)
      { session := { f session₀ with roleCursors := session₀.roleCursors }
        goal := (t.currentGoalForSession sid).map Prod.snd
        changed := changed || session₀.roleCursors ≠ (f session₀).roleCursors }
    generalize (s.log sid).foldl replayEntry _ = result at hra hrc hrg ⊢
    dsimp only at hra hrc hrg
    have hactive : result.session.active = (s.log sid).foldl replayActive session₀.active := by
      rw [hra, hact]
      split_ifs
      · exact replayActive_again _ _
      · rfl
    obtain ⟨sessions, goals, full₀, hframe⟩ := h.frame
    have hsession : ∀ x, ∃ f : Session → Session,
        (t.sessions.modify sid fun _ => result.session).lookup x = (s.sessions.lookup x).map f ∧
          ∀ session, (f session).roleCursors = session.roleCursors ∧ (f session).active =
            if x ∈ done ++ [sid] then (s.log x).foldl replayActive session.active
            else session.active := by
      intro x
      by_cases hx : x = sid
      · subst hx
        refine ⟨fun session => { result.session with
          active := (s.log x).foldl replayActive session.active
          roleCursors := session.roleCursors }, ?_, fun session => ⟨rfl, ?_⟩⟩
        · rw [Dict.lookup_modify_self, ht, hs₀, Option.map_some, Option.map_some, ← hactive, ← hrc]
        · rw [if_pos (List.mem_append_right done (List.mem_singleton_self x))]
      · rw [Dict.lookup_modify_ne _ _ hx]
        exact other x hx
    have hcurrent' : State.currentGoalForSession (State.modifySession { t with fullIds := full } sid
        fun _ => result.session) = t.currentGoalForSession := rfl
    rw [hcurrent']
    cases hc : t.currentGoalForSession sid with
    | none =>
      dsimp only
      refine ⟨⟨t.sessions.modify sid fun _ => result.session, goals, full, ?_⟩, hsession, h.goal⟩
      rw [hframe]
      rfl
    | some current =>
      obtain ⟨goalId, goal⟩ := current
      rw [hc] at hrg
      rw [show result.goal = some _ from hrg]
      dsimp only
      obtain ⟨hgl, -, hgs⟩ := currentGoalForSession_eq_some hc
      dsimp only at hgl hgs
      obtain ⟨g, hg, hsid, hstate⟩ := h.goal_cases hgl
      -- the log tells the outcome that the Goal has
      have hout : ((s.log sid).foldl replayGoal (goal.completionState, goal.completionReason)).1 =
          goal.completionState := by
        rw [hstate, replayGoal_state _ _ _ g.completionReason, ← hgs, hsid]
        exact hs.outcome goalId g hg
      refine ⟨⟨t.sessions.modify sid fun _ => result.session, t.goals.modify goalId fun _ =>
        Goal.withOutcome goal
          ((s.log sid).foldl replayGoal (goal.completionState, goal.completionReason)), full, ?_⟩,
        hsession, fun id => ?_⟩
      · rw [hframe]
        rfl
      · obtain ⟨f, hf⟩ := h.goal id
        change ∃ f : String → String, (t.goals.modify goalId _).lookup id = _
        by_cases hid : id = goalId
        · subst hid
          refine ⟨fun _ => ((s.log sid).foldl replayGoal
            (goal.completionState, goal.completionReason)).2, ?_⟩
          rw [hgl, hg, Option.map_some, Option.some.injEq] at hf
          rw [Dict.lookup_modify_self, hgl, hg, Option.map_some, Option.map_some]
          unfold Goal.withOutcome
          rw [hout, hf]
        · rw [Dict.lookup_modify_ne _ _ hid]
          exact ⟨f, hf⟩

theorem foldl (hs : s.Replayable) (l : List String) (h : Replays s done t) (changed : Bool) :
    Replays s (done ++ l) (l.foldl replaySession (t, changed)).1 := by
  induction l generalizing done t changed with
  | nil => simpa using h
  | cons sid l ih =>
    rw [List.foldl_cons, ← List.singleton_append, ← List.append_assoc]
    exact ih (h.step hs changed sid) _

/-- A replay that reports no change has changed no flag. -/
theorem unchanged (hs : s.Replayable) {l : List String} (h : Replays s done t) {changed : Bool}
    (hc : (l.foldl replaySession (t, changed)).2 = false) : changed = false ∧
      ∀ x ∈ l, x ∉ done → ∀ session, s.sessions.lookup x = some session →
        (s.log x).foldl replayActive session.active = session.active := by
  induction l generalizing done t changed with
  | nil => exact ⟨hc, fun x hx => absurd hx List.not_mem_nil⟩
  | cons sid l ih =>
    rw [List.foldl_cons] at hc
    obtain ⟨hone, hrest⟩ := ih (h.step hs changed sid) hc
    obtain ⟨hchanged, hflag⟩ := replaySession_unchanged hone
    have hsid : sid ∉ done → ∀ session, s.sessions.lookup sid = some session →
        (s.log sid).foldl replayActive session.active = session.active := by
      intro hdone session hsession
      obtain ⟨f, hf, hfs⟩ := h.session sid
      have hact := (hfs session).2
      rw [if_neg hdone] at hact
      rw [hsession, Option.map_some] at hf
      have := hflag (f session) hf
      rwa [h.log, hact] at this
    refine ⟨hchanged, fun x hx hdone => ?_⟩
    by_cases hxs : x = sid
    · exact hxs ▸ hsid (hxs ▸ hdone)
    · refine hrest x ((List.mem_cons.1 hx).resolve_left hxs) ?_
      rw [List.mem_append, List.mem_singleton]
      exact fun h => h.elim hdone hxs

end Replays

/-- **Outcomes and cursors agree with the logs**, so a replay may rely on them. -/
theorem replayable (hi : s.Intact) (hsound : s.ledger.Sound) : s.Replayable where
  wf := hi.wf
  numbered := hi.book.numbered
  cursor x session role hs := by
    obtain ⟨v, hv⟩ := exists_view (Dict.mem_iff_lookup.2 ⟨session, hs⟩)
    obtain ⟨session', hs', -, hcur, -⟩ := view_eq_some_iff.1 hv
    obtain rfl := Option.some.inj (hs.symm.trans hs')
    rw [hcur]
    exact hsound.cursor x v role hv
  outcome goalId g hg := by
    obtain ⟨v, hv⟩ := exists_view (hi.wf.goal goalId g hg).2.1
    have hcurrent : s.currentGoalForSession g.sessionId = some (goalId, g) :=
      hi.wf.currentGoal.2 ⟨hg, rfl⟩
    obtain ⟨-, -, -, -, hgoal⟩ := view_eq_some_iff.1 hv
    rw [hcurrent] at hgoal
    exact hi.book.state g.sessionId v _ hv hgoal.symm

/-! ## A restart -/

theorem initExisting_spec {memory : State} (h : s.initExisting env = .ok (memory, s')) :
    ∃ loaded ensured, s.load env = .ok loaded ∧
      loaded.ensureDefaults env.utcNow.text = .ok ensured ∧
      (s' = (ensured.reconcileStateFromSessionLogs.1.refreshDispatchReadiness env).1.save ∨ s' = s ∧
        ensured.reconcileStateFromSessionLogs.2 = false ∧
        (ensured.reconcileStateFromSessionLogs.1.refreshDispatchReadiness env).2 = false) := by
  unfold initExisting at h
  obtain ⟨loaded, hl, h⟩ := Except.bind_eq_ok.1 h
  obtain ⟨ensured, he, h⟩ := Except.bind_eq_ok.1 h
  refine ⟨loaded, ensured, hl, he, ?_⟩
  generalize ensured.reconcileStateFromSessionLogs = replayed at h ⊢
  obtain ⟨replayed, replayChanged⟩ := replayed
  dsimp only at h ⊢
  generalize replayed.refreshDispatchReadiness env = refreshed at h ⊢
  obtain ⟨refreshed, refreshChanged⟩ := refreshed
  dsimp only at h ⊢
  generalize refreshed.save = saved at h ⊢
  by_cases hc : ensured ≠ loaded ∨ replayChanged ∨ refreshChanged
  · rw [if_pos hc] at h
    exact .inl (congrArg Prod.snd (Except.pure_eq_ok.1 h)).symm
  · rw [if_neg hc] at h
    simp only [not_or, Bool.not_eq_true] at hc
    exact .inr ⟨(congrArg Prod.snd (Except.pure_eq_ok.1 h)).symm, hc.2⟩

/-- A restart fails only if the repair of the stored state does. -/
theorem initExisting_ok {loaded ensured : State} (hl : s.load env = .ok loaded)
    (he : loaded.ensureDefaults env.utcNow.text = .ok ensured) :
    ∃ memory s', s.initExisting env = .ok (memory, s') := by
  unfold initExisting
  rw [hl, Except.ok_bind, he, Except.ok_bind]
  dsimp only
  split_ifs
  · exact ⟨_, _, rfl⟩
  · exact ⟨_, _, rfl⟩

/-- A refresh that reports no change has found no wait that is over. -/
theorem asleep_of_unchanged (h : (s.refreshDispatchReadiness env).2 = false) :
    ∀ goalId ∈ s.currentGoals.map Prod.fst, s.wakesWaiting env goalId = false := by
  have hall : ∀ (l : List Nat) (r : State × Bool),
      (l.foldl (fun r goalId => (r.1.expireGoalWaitingOf env goalId,
        r.2 || r.1.wakesWaiting env goalId)) r).2 = false →
      r.2 = false ∧ ∀ goalId ∈ l, r.1.wakesWaiting env goalId = false := by
    intro l
    induction l with
    | nil => exact fun r h => ⟨h, nofun⟩
    | cons x l ih =>
      intro r h
      obtain ⟨hr, hl⟩ := ih _ h
      dsimp only at hr hl
      obtain ⟨hr, hx⟩ := Bool.or_eq_false_iff.1 hr
      rw [expireGoalWaitingOf_eq hx] at hl
      exact ⟨hr, List.forall_mem_cons.2 ⟨hx, hl⟩⟩
  refine (hall _ (s, false) ?_).2
  unfold refreshDispatchReadiness at h
  dsimp only at h
  exact (Bool.or_eq_false_iff.1 h).2

/-- What its log tells of the active flag of a Session. -/
def toldActive (s : State) (sid : String) (session : Session) : Bool :=
  (s.log sid).foldl replayActive session.active

/-- The wait of an active Session's Goal that is over, once the logs have been replayed. -/
def WakesAtRestart (s : State) (now : Int) (g : Goal) : Prop :=
  ∃ w session, g.waiting = some w ∧ s.sessions.lookup g.sessionId = some session ∧
    s.toldActive g.sessionId session ∧ w.Over now (s.log g.sessionId)

/-- **What a restart has made of the store.** -/
structure Resumed (s s' : State) (now : Int) : Prop where
  runs : s'.dispatchRuns = s.dispatchRuns
  log : ∀ x, ∃ es, s'.log x = s.log x ++ es ∧ ∀ e ∈ es, e.isSignal
  session : ∀ x session, s.sessions.lookup x = some session → ∃ session',
    s'.sessions.lookup x = some session' ∧ session'.roleCursors = session.roleCursors ∧
      session'.active = s.toldActive x session
  goal : ∀ goalId g, s.goals.lookup goalId = some g → ∃ reason waiting,
    s'.goals.lookup goalId = some { g with completionReason := reason, waiting := waiting } ∧
      (s.WakesAtRestart now g → waiting = none) ∧ (¬s.WakesAtRestart now g → waiting = g.waiting)

/-- A repair keeps flags and cursors. -/
theorem Repair.session {run : Nat → Option DispatchRun} {P : Label → Prop} (h : Repair run P s t)
    {x : String} {session : Session} (hs : s.sessions.lookup x = some session) :
    ∃ session', t.sessions.lookup x = some session' ∧ session'.active = session.active ∧
      session'.roleCursors = session.roleCursors := by
  have hmem : x ∈ s.sessions := Dict.mem_iff_lookup.2 ⟨session, hs⟩
  obtain ⟨v, hv⟩ := exists_view hmem
  obtain ⟨session₀, hs₀, ha, hc, -⟩ := view_eq_some_iff.1 hv
  obtain rfl := Option.some.inj (hs.symm.trans hs₀)
  obtain ⟨session', hs', ha', hc', -⟩ := view_eq_some_iff.1 ((h.view x hmem).trans hv)
  exact ⟨session', hs', ha'.trans ha.symm, hc'.trans hc.symm⟩

theorem wakesAtRestart_repair {run : Nat → Option DispatchRun} {P : Label → Prop}
    (h : Repair run P s t) {g : Goal} (hmem : g.sessionId ∈ s.sessions) {now : Int} :
    t.WakesAtRestart now g ↔ s.WakesAtRestart now g := by
  have hlog : t.log = s.log := log_congr h.persisted h.pending
  obtain ⟨session, hs⟩ := Dict.mem_iff_lookup.1 hmem
  obtain ⟨session', hs', ha, -⟩ := h.session hs
  have htold : t.toldActive g.sessionId session' = s.toldActive g.sessionId session := by
    unfold toldActive
    rw [hlog, ha]
  unfold WakesAtRestart
  rw [hs, hs', hlog]
  constructor
  · rintro ⟨w, x, hw, ⟨⟩, hx, hover⟩
    exact ⟨w, session, hw, rfl, htold ▸ hx, hover⟩
  · rintro ⟨w, x, hw, ⟨⟩, hx, hover⟩
    exact ⟨w, session', hw, rfl, htold.symm ▸ hx, hover⟩

theorem log_eq_nil {x : String} (h : x ∉ s.allSessionLogIds) : s.log x = [] := by
  unfold allSessionLogIds at h
  rw [List.mem_insertionSort, List.mem_dedup, List.mem_append, not_or] at h
  unfold log persistedLog pendingLog
  rw [AList.lookup_eq_none.2 h.1, AList.lookup_eq_none.2 h.2]
  rfl

namespace Replays

/-- After a replay of all logs the flags are those that they tell. -/
theorem told (h : Replays s s.allSessionLogIds t) {x : String} {session : Session}
    (hs : s.sessions.lookup x = some session) : ∃ session', t.sessions.lookup x = some session' ∧
      session'.roleCursors = session.roleCursors ∧ session'.active = s.toldActive x session := by
  obtain ⟨f, hf, hfs⟩ := h.session x
  rw [hs] at hf
  refine ⟨f session, hf, (hfs session).1, (hfs session).2.trans ?_⟩
  unfold toldActive
  split_ifs with hx
  · rfl
  · rw [log_eq_nil hx]
    rfl

/-- The waits that end. -/
theorem wakes_iff (h : Replays s s.allSessionLogIds t) {goalId : Nat} {g : Goal}
    (hg : s.goals.lookup goalId = some g) (hmem : g.sessionId ∈ s.sessions)
    (hb : ∀ w, g.waiting = some w → s.BoundedWait g.sessionId w) :
    t.wakesWaiting env goalId ↔ s.WakesAtRestart env.now g := by
  obtain ⟨session, hs⟩ := Dict.mem_iff_lookup.1 hmem
  obtain ⟨session', hs', -, ha⟩ := h.told hs
  obtain ⟨f, hf⟩ := h.goal goalId
  rw [hg, Option.map_some] at hf
  have hkept : ∀ x ∈ s.sessions, x ∈ t.sessions := by
    intro x hx
    obtain ⟨session, hs⟩ := Dict.mem_iff_lookup.1 hx
    obtain ⟨session', hs', -⟩ := h.told hs
    exact Dict.mem_iff_lookup.2 ⟨session', hs'⟩
  unfold wakesWaiting WakesAtRestart
  rw [hf]
  cases hw : g.waiting with
  | none => simp
  | some w =>
    have hbounded : t.BoundedWait g.sessionId w := by
      obtain ⟨hwake, hevent, hchild⟩ := hb w hw
      exact ⟨by rwa [h.log], hevent, fun c hc => (hchild c hc).imp_right (hkept c)⟩
    have hover : (t.goalWaitingWakeReason env g.sessionId w).isSome ↔
        w.Over env.now (t.log g.sessionId) := over_iff hbounded
    rw [h.log] at hover
    simp [hs, hs', ha, hover]

end Replays

/-- What a refresh changes besides the queue. -/
theorem refresh_spec (s : State) (env : Env) :
    (s.refreshDispatchReadiness env).1.dispatchRuns = s.dispatchRuns ∧
      (s.refreshDispatchReadiness env).1.sessions = s.sessions ∧
      (∀ x, ∃ es, (s.refreshDispatchReadiness env).1.log x = s.log x ++ es ∧ ∀ e ∈ es, e.isSignal) ∧
      ∀ goalId ∈ s.currentGoals.map Prod.fst, (s.refreshDispatchReadiness env).1.goals.lookup goalId =
        if s.wakesWaiting env goalId then (s.goals.lookup goalId).map endWait
        else s.goals.lookup goalId := by
  obtain ⟨hwoken, -⟩ := woken_expireGoalWaiting s env
  have hlookup := fun goalId => @lookup_expireGoalWaiting s env goalId
  have hruns : (s.expireGoalWaiting env).1.dispatchRuns = s.dispatchRuns := by
    obtain ⟨g, p, n, h, -⟩ := hwoken.frame
    rw [h]
  rw [refresh_fst]
  obtain ⟨sessions, log⟩ : (s.expireGoalWaiting env).1.sessions = s.sessions ∧
      ∀ x, ∃ es, (s.expireGoalWaiting env).1.log x = s.log x ++ es ∧ ∀ e ∈ es, e.isSignal :=
    ⟨hwoken.sessions, hwoken.log⟩
  generalize (s.expireGoalWaiting env).1 = t at *
  refine ⟨?_, (sessions_rebuild t env).trans sessions, fun x => ?_, fun goalId h => ?_⟩
  · rw [rebuild_eq]
    exact hruns
  · rw [rebuild_eq]
    exact log x
  · rw [goals_rebuild]
    exact hlookup goalId h

theorem resumed_initExisting (hs : s.Stored) (hsound : s.ledger.Sound) (hacc : s.Accountable)
    {memory : State} (hok : s.initExisting env = .ok (memory, s')) : Resumed s s' env.now := by
  obtain ⟨loaded, ensured, hl, he, hs'⟩ := initExisting_spec hok
  have hload := hs.load (P := fun _ => True) trivial hl
  have hrep : Repair s.dispatchRuns.lookup (fun _ => True) s ensured :=
    hload.trans (repair_ensureDefaults (hload.effect.good hs.good) trivial he)
  have hmoves : Moves (fun _ => True) s ensured := hrep.effect.moves trivial
  have hi : ensured.Intact := hmoves.intact hs.good
  have hlog : ensured.log = s.log := log_congr hrep.persisted hrep.pending
  have hable := replayable hi (hmoves.sound hsound)
  have hreplay : Replays ensured ensured.allSessionLogIds ensured.reconcileStateFromSessionLogs.1 :=
    (Replays.start ensured).foldl hable ensured.allSessionLogIds false
  have hwf := ((moves_replay (P := fun _ => True) hi trivial trivial).intact hi).wf
  have hwakes : ∀ goalId g, s.goals.lookup goalId = some g →
      (ensured.reconcileStateFromSessionLogs.1.wakesWaiting env goalId ↔
        s.WakesAtRestart env.now g) := by
    intro goalId g hg
    have hmem := (hs.wf.goal goalId g hg).2.1
    rw [← wakesAtRestart_repair hrep hmem]
    refine hreplay.wakes_iff (hrep.goals ▸ hg) (hrep.sessions _ hmem) fun w hw => ?_
    obtain ⟨rid, r, hv⟩ := hacc.waits goalId g w hg hw
    obtain ⟨hwake, hevent, hchild⟩ := hv.bounded hacc
    exact ⟨by rwa [hlog], hevent, fun c hc => (hchild c hc).imp_right (hrep.sessions c)⟩
  have htold : ∀ x session session', session'.active = session.active →
      ensured.toldActive x session' = s.toldActive x session := by
    intro x session session' ha
    unfold toldActive
    rw [hlog, ha]
  have hcurrent : ∀ goalId g, s.goals.lookup goalId = some g →
      goalId ∈ ensured.reconcileStateFromSessionLogs.1.currentGoals.map Prod.fst := by
    intro goalId g hg
    obtain ⟨f, hf⟩ := hreplay.goal goalId
    rw [hrep.goals, hg, Option.map_some] at hf
    have hne : g.sessionId ≠ "" := fun hb => hs.wf.blank (hb ▸ (hs.wf.goal goalId g hg).2.1)
    have hcur : ensured.reconcileStateFromSessionLogs.1.currentGoalForSession g.sessionId =
        some (goalId, { g with completionReason := f g.completionReason }) :=
      hwf.currentGoal.2 ⟨hf, rfl⟩
    exact List.mem_map.2 ⟨(goalId, { g with completionReason := f g.completionReason }),
      mem_currentGoals.2 ⟨hne, hcur⟩, rfl⟩
  rcases hs' with rfl | ⟨rfl, hchanged, hrefresh⟩
  · -- the refreshed state has been saved
    obtain ⟨hruns, hsessions, hlogs, hgoals⟩ :=
      refresh_spec ensured.reconcileStateFromSessionLogs.1 env
    rw [hreplay.log, hlog] at hlogs
    generalize (ensured.reconcileStateFromSessionLogs.1.refreshDispatchReadiness env).1 = r at *
    generalize ensured.reconcileStateFromSessionLogs.1 = t at *
    refine ⟨?_, fun x => ?_, fun x session hsession => ?_, fun goalId g hg => ?_⟩
    · obtain ⟨sessions, goals, full, hframe⟩ := hreplay.frame
      rw [← hrep.effect.runs]
      refine hruns.trans ?_
      rw [hframe]
    · rw [log_save]
      exact hlogs x
    · obtain ⟨session', hs', ha, hc⟩ := hrep.session hsession
      obtain ⟨session'', hs'', hc', ha'⟩ := hreplay.told hs'
      refine ⟨session'', ?_, hc'.trans hc, ha'.trans (htold x session session' ha)⟩
      exact (congrArg (AList.lookup x) hsessions).trans hs''
    · obtain ⟨f, hf⟩ := hreplay.goal goalId
      rw [hrep.goals, hg, Option.map_some] at hf
      have hgoal := hgoals goalId (hcurrent goalId g hg)
      rw [hf] at hgoal
      by_cases hw : s.WakesAtRestart env.now g
      · rw [if_pos ((hwakes goalId g hg).2 hw), Option.map_some] at hgoal
        exact ⟨f g.completionReason, none, hgoal, fun _ => rfl, fun h => absurd hw h⟩
      · rw [if_neg fun h => hw ((hwakes goalId g hg).1 h)] at hgoal
        exact ⟨f g.completionReason, g.waiting, hgoal, fun h => absurd h hw, fun _ => rfl⟩
  · -- nothing has changed, and nothing has been saved
    obtain ⟨-, hflag⟩ := (Replays.start ensured).unchanged (l := ensured.allSessionLogIds) hable hchanged
    have hasleep := asleep_of_unchanged hrefresh
    have hnone : ∀ e ∈ ([] : List LogEntry), e.isSignal := fun e he => absurd he List.not_mem_nil
    refine ⟨rfl, fun x => ⟨[], (List.append_nil _).symm, hnone⟩, fun x session hsession => ?_,
      fun goalId g hg => ⟨g.completionReason, g.waiting, hg, fun hw => ?_, fun _ => rfl⟩⟩
    · refine ⟨session, hsession, rfl, ?_⟩
      obtain ⟨session', hs', ha, -⟩ := hrep.session hsession
      rw [← htold x session session' ha, ← ha]
      unfold toldActive
      by_cases hx : x ∈ ensured.allSessionLogIds
      · exact (hflag x hx List.not_mem_nil session' hs').symm
      · rw [log_eq_nil hx]
        rfl
    · have := hasleep goalId (hcurrent goalId g hg)
      rw [(hwakes goalId g hg).2 hw] at this
      cases this

end State

open State

/-- **What a clean restart does.** The logs get signals only and the runs stay as they are; each
    Session has the active flag that its log tells, and its cursors; each Goal has its body,
    outcome and wait, unless the wait is over. A second restart changes no flag. -/
theorem restart_resumes {sys : Sys} (h : storeSystem.Reachable sys) {env : Env} {memory s' : State}
    (hok : sys.store.initExisting env = .ok (memory, s')) : sys.store.Resumed s' env.now ∧
      ∀ env' memory' s'', s'.initExisting env' = .ok (memory', s'') → ∀ x session,
        s'.sessions.lookup x = some session → ∃ session', s''.sessions.lookup x = some session' ∧
          session'.active = session.active := by
  have hS := reachable_safe h
  have first := resumed_initExisting hS.inv.stored hS.inv.sound (accountable_reachable h) hok
  refine ⟨first, fun env' memory' s'' hok' x session hs => ?_⟩
  -- the store after the restart is reachable, too
  have hnext : (sys.nexts [⟨env, .restart⟩]).store = s' := by
    change (sys.next ⟨env, .restart⟩).store = s'
    unfold Sys.next Op.exec Op.apply
    rw [hok]
    rfl
  have h' : storeSystem.Reachable (sys.nexts [⟨env, .restart⟩]) := by
    obtain ⟨tr, hr⟩ := run_nexts sys [⟨env, .restart⟩]
    exact (hr.reachable h).1
  have hS' := reachable_safe h'
  have second := resumed_initExisting (hnext ▸ hS'.inv.stored) (hnext ▸ hS'.inv.sound)
    (hnext ▸ accountable_reachable h') hok'
  obtain ⟨session', hs', -, ha⟩ := second.session x session hs
  refine ⟨session', hs', ha.trans ?_⟩
  obtain ⟨es, hes, hsignals⟩ := first.log x
  unfold toldActive
  rw [hes, List.foldl_append, replayActive_signals hsignals]
  cases hx : sys.store.sessions.lookup x with
  | some session₀ =>
    obtain ⟨session₁, hs₁, -, ha₁⟩ := first.session x session₀ hx
    obtain rfl := Option.some.inj (hs.symm.trans hs₁)
    rw [ha₁]
    exact replayActive_again _ _
  | none =>
    -- a Session that the load has made has no log yet
    have hnil : sys.store.log x = [] := by
      by_contra hne
      obtain ⟨session₀, hx'⟩ := Dict.mem_iff_lookup.1 ((referential_reachable h).log x hne)
      rw [hx] at hx'
      cases hx'
    rw [hnil]
    rfl

/-- A restart ends the wait of a Goal whose event has been reported. -/
theorem restart_resumes_woken : ∃ memory s' reason g,
    (newStore.nexts requestedThenWoken).store.initExisting (clock 7) = .ok (memory, s') ∧
      g.waiting.isSome ∧ (newStore.nexts requestedThenWoken).store.goals.lookup 0 = some g ∧
      s'.goals.lookup 0 = some { g with completionReason := reason, waiting := none } := by
  have hall : ((newStore.nexts requestedThenWoken).store.load (clock 7)).isOk ∧
      ((loadedAfter requestedThenWoken (clock 7)).ensureDefaults (clock 7).utcNow.text).isOk ∧
      ∃ g, (newStore.nexts requestedThenWoken).store.goals.lookup 0 = some g ∧
        ∃ w, g.waiting = some w ∧ w.kind = .event "done" ∧
          (∃ session, (newStore.nexts requestedThenWoken).store.sessions.lookup g.sessionId =
            some session ∧
              (newStore.nexts requestedThenWoken).store.toldActive g.sessionId session) ∧
          ∃ e ∈ (newStore.nexts requestedThenWoken).store.log g.sessionId, w.wakeLogSeq < e.seq ∧
            e.message?.any fun m => "done" ∈ m.payload.wakeEvents := by decide +kernel
  obtain ⟨hload, hensure, g, hg, w, hw, hkind, ⟨session, hs, ha⟩, e, he, hseq, hm⟩ := hall
  obtain ⟨memory, s', hok⟩ := initExisting_ok (ok_getD hload) (ok_getD hensure)
  obtain ⟨hresumed, -⟩ := restart_resumes (reachable_nexts requestedThenWoken) hok
  obtain ⟨reason, waiting, hg', hends, -⟩ := hresumed.goal 0 g hg
  have htriggers : w.Triggers e := by
    obtain ⟨m, hm, hmem⟩ := (Option.any_eq_true _ _).1 hm
    unfold Waiting.Triggers
    rw [hkind]
    exact ⟨m, hm, of_decide_eq_true hmem⟩
  obtain rfl := hends ⟨w, session, hw, hs, ha, .inr ⟨e, he, hseq, htriggers⟩⟩
  exact ⟨memory, s', reason, g, hok, Option.isSome_iff_exists.2 ⟨w, hw⟩, hg, hg'⟩

end Aize
