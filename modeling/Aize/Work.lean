/-
  Work on one Session, up to a step of the book.

  `Work run s₀ s sid es` says how far the work on the Session `sid` has come since
  `s₀`: the entries `es` have been written into its log, its Goal may have been
  changed, and nothing else has happened that the ledger sees. The lemmas
  `Work.notes`, `Work.keep`, `Work.reopen`, `Work.unlogged` and `Work.complete`
  conclude it with the step that it amounts to.
-/
import Aize.Effects

namespace Aize

/-- `replayActive` ignores the entry. -/
def LogEntry.inert (e : LogEntry) : Bool :=
  match e.body with
  | .sessionActiveChanged .. => false
  | _ => true

theorem LogEntry.replayActive_inert {e : LogEntry} (h : e.inert) (b : Bool) :
    replayActive b e = b := by
  unfold LogEntry.inert at h
  unfold Aize.replayActive
  cases hb : e.body with
  | sessionActiveChanged p b a => simp [hb] at h
  | _ => rfl

theorem Fits.append {run : Nat → Option DispatchRun} {n : Nat} {es es' : List LogEntry}
    (h : Fits run n es) (h' : Fits run (n + es.length) es') : Fits run n (es ++ es') :=
  ⟨h.numbered.append h'.numbered, h.silent.append h'.silent, h.forwarded.append h'.forwarded⟩

namespace State

/-- The work on a Session since `s₀`. -/
structure Work (run : Nat → Option DispatchRun) (s₀ s : State) (sid : String)
    (es : List LogEntry) : Prop where
  runs : s.dispatchRuns = s₀.dispatchRuns
  queue : Retired s₀.dispatchReadiness s.dispatchReadiness
  next : s₀.nextId ≤ s.nextId
  wf : s.Wf
  other : ∀ x, x ≠ sid → s.view x = s₀.view x ∧ s.log x = s₀.log x ∧ s.cachedLog x = s₀.cachedLog x ∧
    s.currentGoalForSession x = s₀.currentGoalForSession x
  log : s.log sid = s₀.log sid ++ es
  fits : Fits run (s₀.log sid).length es
  inert : ∀ e ∈ es, e.inert
  cached : ∀ e ∈ s.cachedLog sid, e ∈ s₀.cachedLog sid ∨ e ∈ es
  view : ∃ v goal, s₀.view sid = some v ∧ s.view sid = some { v with goal := goal } ∧
    ∀ g₀, v.goal = some g₀ → ∃ g, goal = some g ∧ g.goalId = g₀.goalId

namespace Work

variable {run : Nat → Option DispatchRun} {P : Label → Prop} {s₀ s s' : State} {sid : String}
  {es : List LogEntry}

theorem start (run : Nat → Option DispatchRun) (hw : s.Wf) (hs : sid ∈ s.sessions) :
    Work run s s sid [] := by
  obtain ⟨v, hv⟩ := exists_view hs
  exact ⟨rfl, .refl _, le_rfl, hw, fun _ _ => ⟨rfl, rfl, rfl, rfl⟩, (List.append_nil _).symm, .nil _ _,
    fun _ h => absurd h List.not_mem_nil, fun _ h => .inl h, v, v.goal, hv, hv,
    fun g hg => ⟨g, hg, rfl⟩⟩

theorem mem (h : Work run s₀ s sid es) : sid ∈ s.sessions := by
  obtain ⟨v, goal, -, hv, -⟩ := h.view
  exact mem_of_view hv

/-- Steps that the ledger does not see. -/
theorem frame (h : Work run s₀ s sid es) (hruns : s'.dispatchRuns = s.dispatchRuns)
    (hqueue : Retired s.dispatchReadiness s'.dispatchReadiness) (hnext : s.nextId ≤ s'.nextId)
    (hview : s'.view = s.view) (hlog : s'.log = s.log) (hcached : s'.cachedLog = s.cachedLog)
    (hgoals : s'.goals = s.goals)
    (hwf : s'.Wf) : Work run s₀ s' sid es where
  runs := hruns.trans h.runs
  queue := h.queue.trans hqueue
  next := h.next.trans hnext
  wf := hwf
  other x hx := by rw [hview, hlog, hcached, currentGoal_congr hgoals]; exact h.other x hx
  log := by rw [hlog]; exact h.log
  fits := h.fits
  inert := h.inert
  cached := by rw [hcached]; exact h.cached
  view := by rw [hview]; exact h.view

theorem newId (h : Work run s₀ s sid es) : Work run s₀ s.newId.2 sid es :=
  h.frame rfl (.refl _) (Nat.le_succ _) rfl rfl rfl rfl h.wf.newId

theorem modifySession (h : Work run s₀ s sid es) (x : String) {f : Session → Session}
    (hf : ∀ session, (f session).active = session.active ∧
      (f session).roleCursors = session.roleCursors) : Work run s₀ (s.modifySession x f) sid es :=
  h.frame rfl (.refl _) le_rfl (view_modifySession x hf) rfl rfl rfl (h.wf.modifySession x f)

theorem retire (h : Work run s₀ s sid es) (p : Readiness → Bool) {st : ReadinessStatus}
    (hst : st.dead) : Work run s₀ (s.modifyReadiness p fun e => { e with status := st }) sid es :=
  h.frame rfl (.of_modify _ p hst) le_rfl rfl rfl rfl rfl (h.wf.modifyReadiness p fun _ => rfl)

/-- Writing into the log of the Session. -/
theorem append (h : Work run s₀ s sid es) (hn : Numbered 0 (s₀.log sid)) (body : LogBody)
    (createdAt : String) (key : Option EventKey)
    (hbelow : (s.newEntry sid body createdAt key).Below s.nextId)
    (hinert : (s.newEntry sid body createdAt key).inert)
    (hsilent : Silent run [s.newEntry sid body createdAt key])
    (hforw : Forwarded run [s.newEntry sid body createdAt key]) :
    Work run s₀ (s.appendSessionLogEntry sid body createdAt key) sid
      (es ++ s.appended sid body createdAt key) := by
  have hnum : Numbered 0 (s.log sid) := by
    rw [h.log]; exact hn.append (by simpa using h.fits.numbered)
  have happ : Fits run ((s₀.log sid).length + es.length) (s.appended sid body createdAt key) := by
    unfold appended
    split_ifs
    · exact .nil _ _
    · refine ⟨?_, hsilent, hforw⟩
      have : s.latestSessionLogSeq sid = (s₀.log sid).length + es.length := by
        rw [latestSessionLogSeq_eq hnum, h.log, List.length_append]
      simp [Numbered, newEntry, this]
  have hwf := h.wf.append hbelow
  have hlog : ∀ x, (s.appendSessionLogEntry sid body createdAt key).log x =
      s.log x ++ if x = sid then s.appended sid body createdAt key else [] := fun x => log_append
  obtain ⟨p, n, hf, hnext⟩ := s.appendSessionLogEntry_frame sid body createdAt key
  have hview : (s.appendSessionLogEntry sid body createdAt key).view = s.view := by rw [hf]; rfl
  refine ⟨by rw [hf]; exact h.runs, by rw [hf]; exact h.queue, by rw [hf]; exact h.next.trans hnext,
    hwf, fun x hx => ?_, ?_, h.fits.append happ, fun e he => ?_, fun e he => ?_,
    by rw [hview]; exact h.view⟩
  · rw [hview, hlog, cachedLog_append, if_neg hx, List.append_nil, List.append_nil,
      currentGoal_congr goals_append]
    exact h.other x hx
  · rw [hlog, if_pos rfl, h.log, List.append_assoc]
  · rcases List.mem_append.1 he with he | he
    · exact h.inert e he
    · rw [mem_appended he]; exact hinert
  · rw [cachedLog_append, if_pos rfl] at he
    rcases List.mem_append.1 he with he | he
    · exact (h.cached e he).imp_right (List.mem_append_left _)
    · exact .inr (List.mem_append_right _ he)

theorem modifyGoal (h : Work run s₀ s sid es) {goalId : Nat} {goal : Goal}
    (hc : s.currentGoalForSession sid = some (goalId, goal)) {f : Goal → Goal}
    (hf : ∀ g, (f g).archivedAt = g.archivedAt ∧ (f g).sessionId = g.sessionId ∧
      (f g).createdAt = g.createdAt) : Work run s₀ (s.modifyGoal goalId f) sid es where
  runs := h.runs
  queue := h.queue
  next := h.next
  wf := h.wf.modifyGoal goalId fun g => ⟨(hf g).1, (hf g).2.1⟩
  other x hx := by
    rw [view_modifyGoal h.wf hc hf, if_neg hx, currentGoal_modifyGoal_ne h.wf hc hf hx]
    exact h.other x hx
  log := h.log
  fits := h.fits
  inert := h.inert
  cached := h.cached
  view := by
    obtain ⟨v, g, hv, hv', hid⟩ := h.view
    refine ⟨v, _, hv, by rw [view_modifyGoal h.wf hc hf, if_pos rfl, hv']; rfl, fun g₀ hg₀ => ?_⟩
    refine ⟨_, rfl, ?_⟩
    obtain ⟨g₁, hg₁, hid₁⟩ := hid g₀ hg₀
    obtain ⟨session, -, -, -, hcur⟩ := view_eq_some_iff.1 hv'
    rw [hc, hg₁] at hcur
    rw [← hid₁, ← Option.some.inj hcur]

theorem createGoal (h : Work run s₀ s sid es) (hc : s.currentGoalForSession sid = none)
    (body createdBy createdAt : String) :
    Work run s₀ (s.createGoal sid body createdBy createdAt).1 sid es where
  runs := h.runs
  queue := h.queue
  next := h.next.trans (Nat.le_succ _)
  wf := h.wf.createGoal h.mem hc body createdBy createdAt
  other x hx := by
    rw [view_createGoal h.wf h.mem hc, if_neg hx, currentGoal_createGoal h.wf h.mem hc, if_neg hx]
    exact h.other x hx
  log := h.log
  fits := h.fits
  inert := h.inert
  cached := h.cached
  view := by
    obtain ⟨v, g, hv, hv', hid⟩ := h.view
    refine ⟨v, _, hv, by rw [view_createGoal h.wf h.mem hc, if_pos rfl, hv']; rfl, fun g₀ hg₀ => ?_⟩
    obtain ⟨g₁, hg₁, -⟩ := hid g₀ hg₀
    obtain ⟨session, -, -, -, hcur⟩ := view_eq_some_iff.1 hv'
    rw [hc, hg₁] at hcur
    cases hcur

/-! ### Conclusions -/

theorem effect (h : Work run s₀ s sid es) (hs : BookSteps run P s₀.book s.book) :
    Effect run P s₀ s := ⟨h.runs, h.queue, h.next, h.wf, hs⟩

theorem addEntries_quiet {b : Book} {v : SessionView} (hv : b.session sid = some v) (hP : P .plain) :
    ∀ es, Fits run (b.log sid).length es → (∀ e ∈ es, e.isQuiet) →
      BookSteps run P b (b.addEntries sid es) := by
  intro es
  induction es generalizing b with
  | nil =>
    intro _ _
    refine .of_eq ?_
    unfold Book.addEntries
    rw [List.append_nil, Function.update_eq_self]
  | cons e es ih =>
    intro hf hq
    have hsplit : Numbered (b.log sid).length [e] ∧
        Numbered ((b.log sid).length + 1) es :=
      Numbered.of_append (l := [e]) hf.numbered
    have h₁ : Fits run (b.log sid).length [e] :=
      ⟨hsplit.1, fun x hx => hf.silent x (by simp_all), fun x hx => hf.forwarded x (by simp_all)⟩
    have hlog : (b.addEntries sid [e]).log sid = b.log sid ++ [e] := by
      rw [Book.addEntries_log, if_pos rfl]
    have h₂ : Fits run ((b.addEntries sid [e]).log sid).length es :=
      ⟨by rw [hlog, List.length_append]; exact hsplit.2,
        fun x hx => hf.silent x (List.mem_cons_of_mem _ hx),
        fun x hx => hf.forwarded x (List.mem_cons_of_mem _ hx)⟩
    have := ih (b := b.addEntries sid [e]) hv h₂ fun x hx => hq x (List.mem_cons_of_mem _ hx)
    refine (BookSteps.of_step hP (.note hv h₁ (hq e List.mem_cons_self))).trans (this.trans (.of_eq ?_))
    unfold Book.addEntries
    simp

/-- Nothing but quiet entries. -/
theorem notes (h : Work run s₀ s sid es) (hP : P .plain) (hview : s.view sid = s₀.view sid)
    (hq : ∀ e ∈ es, e.isQuiet) : Effect run P s₀ s := by
  obtain ⟨v, -, hv, -⟩ := h.view
  refine h.effect ((addEntries_quiet (b := s₀.book) hv hP es h.fits hq).trans (.of_eq ?_))
  have h₁ : s.view = s₀.view := funext fun x => by
    by_cases hx : x = sid
    · rw [hx, hview]
    · exact (h.other x hx).1
  have h₂ : s.log = Function.update s₀.log sid (s₀.log sid ++ es) := funext fun x => by
    by_cases hx : x = sid
    · rw [hx, Function.update_self, h.log]
    · rw [Function.update_of_ne hx, (h.other x hx).2.1]
  unfold book Book.addEntries
  rw [h₁, h₂]

theorem arrive (h : Work run s₀ s sid es) (hP : P .plain) {v : SessionView}
    {goal : Option GoalView} (hv : s₀.view sid = some v)
    (hv' : s.view sid = some { v with goal := goal }) (hw : Welcome v.goal es goal) :
    Effect run P s₀ s := by
  refine h.effect (.of_step hP (.arrive fun x => ?_))
  by_cases hx : x = sid
  · subst hx
    exact .inr ⟨v, es, goal, hv, hv', h.log, h.fits, hw⟩
  · exact .inl ⟨(h.other x hx).1, (h.other x hx).2.1⟩

/-- New requirements, for a Goal that is incomplete and stays as it is. -/
theorem keep (h : Work run s₀ s sid es) (hP : P .plain) (hview : s.view sid = s₀.view sid)
    (hinc : ∀ v g, s₀.view sid = some v → v.goal = some g → g.completionState = .incomplete)
    (hes : ∀ e ∈ es, e.isRequirement ∨ e.isQuiet) : Effect run P s₀ s := by
  obtain ⟨v, goal, hv, hv', -⟩ := h.view
  have hgoal : goal = v.goal := by
    rw [hview, hv] at hv'
    exact (congrArg SessionView.goal (Option.some.inj hv')).symm
  rw [hgoal] at hv'
  exact h.arrive hP hv hv' (.keep (fun g hg => hinc v g hv hg) hes)

/-- The Goal is incomplete, and the last of the new entries says why. -/
theorem reopen (h : Work run s₀ s sid es) (hP : P .plain) {goalId : Nat} {goal : Goal}
    (hc : s.currentGoalForSession sid = some (goalId, goal))
    (hinc : goal.completionState = .incomplete)
    (hset : ∀ g, es.foldl replayGoal g = (.incomplete, goal.completionReason)) :
    Effect run P s₀ s := by
  obtain ⟨v, g, hv, hv', hid⟩ := h.view
  obtain ⟨session, -, -, -, hcur⟩ := view_eq_some_iff.1 hv'
  rw [hc] at hcur
  have hg : g = some ⟨goalId, goal.completionState, goal.completionReason, goal.body⟩ := hcur.symm
  subst hg
  refine h.arrive hP hv hv' (.reopen (fun g₀ hg₀ => ?_) hinc ⟨hset, fun b => ?_⟩)
  · obtain ⟨g₁, hg₁, hid₁⟩ := hid g₀ hg₀
    rw [← hid₁, ← Option.some.inj hg₁]
  · exact List.foldlRecOn es replayActive (motive := fun x => x = b) rfl
      fun x hx e he => by rw [LogEntry.replayActive_inert (h.inert e he), hx]

/-- The Goal was incomplete and still is, but no entry says why. -/
theorem unlogged (h : Work run s₀ s sid es) (hP : P .plain) (hP' : P .unlogged) {goalId : Nat}
    {goal : Goal} (hc : s.currentGoalForSession sid = some (goalId, goal))
    (hinc : goal.completionState = .incomplete)
    (hinc₀ : ∃ v g₀, s₀.view sid = some v ∧ v.goal = some g₀ ∧ g₀.completionState = .incomplete)
    (hes : ∀ e ∈ es, e.isRequirement ∨ e.isQuiet) : Effect run P s₀ s := by
  obtain ⟨v, g₀, hv, hg₀, hst₀⟩ := hinc₀
  obtain ⟨w, g, hw, hv', hid⟩ := h.view
  rw [hv] at hw
  cases hw
  obtain ⟨g₁, hg₁, hid₁⟩ := hid g₀ hg₀
  obtain ⟨session, -, -, -, hcur⟩ := view_eq_some_iff.1 hv'
  rw [hc, hg₁] at hcur
  have hst₁ : g₁.completionState = .incomplete := by rw [← Option.some.inj hcur]; exact hinc
  -- the entries arrive first, then the Goal changes
  let b : Book := ⟨s₀.view, s.log⟩
  have h₁ : BookStep run s₀.book .plain b := by
    refine .arrive fun x => ?_
    by_cases hx : x = sid
    · subst hx
      refine .inr ⟨v, es, v.goal, hv, hv, h.log, h.fits, .keep (fun g hg => ?_) hes⟩
      rw [hg₀] at hg
      cases hg
      exact hst₀
    · exact .inl ⟨rfl, (h.other x hx).2.1⟩
  have h₂ : BookStep run b .unlogged (b.setSession sid { v with goal := some g₁ }) :=
    .unlogged (b := b) hv hg₀ hid₁.symm hst₀ hst₁
  refine h.effect ((BookSteps.of_step hP h₁).trans ((BookSteps.of_step hP' h₂).trans (.of_eq ?_)))
  have : s.view = Function.update s₀.view sid (some { v with goal := some g₁ }) := funext fun x => by
    by_cases hx : x = sid
    · rw [hx, Function.update_self, hv', hg₁]
    · rw [Function.update_of_ne hx, (h.other x hx).1]
  unfold book Book.setSession
  rw [this]

/-- The Goal is complete, and the last of the new entries says so. -/
theorem complete {ns : List LogEntry} {e : LogEntry} (h : Work run s₀ s sid (ns ++ [e]))
    (hq : ∀ x ∈ ns, x.isQuiet) (hP : P .plain) {rid : Nat} {r : DispatchRun}
    (hP' : P (.complete sid rid)) {goalId : Nat} {goal : Goal}
    (hc : s.currentGoalForSession sid = some (goalId, goal))
    (hst : goal.completionState = .complete) {t : Transition} (hb : e.body = .goalStateChanged t)
    (ht : t.completionState = .complete) (hreason : t.reason = goal.completionReason)
    {v : SessionView} {g₀ : GoalView} (hv : s₀.view sid = some v) (hg₀ : v.goal = some g₀)
    (hbody : g₀.body = goal.body) (hr : run rid = some r) (hrole : r.role = .goalManager)
    (hsid : r.sessionId = sid)
    (hreq : ∀ e ∈ s₀.log sid, e.isRequirement → e.seq ≤ r.observedToSeq) : Effect run P s₀ s := by
  obtain ⟨w, g, hw, hv', hid⟩ := h.view
  rw [hv] at hw
  cases hw
  obtain ⟨g₁, hg₁, hid₁⟩ := hid g₀ hg₀
  obtain ⟨session, -, -, -, hcur⟩ := view_eq_some_iff.1 hv'
  rw [hc, hg₁] at hcur
  have hgoal : g₁ = { g₀ with completionState := .complete, reason := t.reason } := by
    have := Option.some.inj hcur
    obtain ⟨i, c, rs, bd⟩ := g₀
    rw [← this] at hid₁ ⊢
    simp only [GoalView.mk.injEq]
    exact ⟨hid₁, hst, hreason.symm, hbody.symm⟩
  -- the notes come first, then the completion
  obtain ⟨hn₁, hn₂⟩ := Numbered.of_append h.fits.numbered
  have h₁ := addEntries_quiet (P := P) (b := s₀.book) hv hP ns
    ⟨hn₁, fun x hx => h.fits.silent x (List.mem_append_left _ hx),
      fun x hx => h.fits.forwarded x (List.mem_append_left _ hx)⟩ hq
  have hlog : (s₀.book.addEntries sid ns).log sid = s₀.log sid ++ ns := by
    rw [Book.addEntries_log, if_pos rfl]; rfl
  have h₂ : BookStep run (s₀.book.addEntries sid ns) (.complete sid rid)
      (((s₀.book.addEntries sid ns).addEntries sid [e]).setSession sid
        { v with goal := some { g₀ with completionState := .complete, reason := t.reason } }) := by
    refine .complete (b := s₀.book.addEntries sid ns) hv hg₀ hr hrole hsid (fun x hx hreq' => ?_)
      ⟨?_, fun x hx => h.fits.silent x (List.mem_append_right _ hx),
        fun x hx => h.fits.forwarded x (List.mem_append_right _ hx)⟩ hb ht
    · rw [hlog] at hx
      rcases List.mem_append.1 hx with hx | hx
      · exact hreq x hx hreq'
      · rw [LogEntry.not_requirement_of_quiet (hq x hx)] at hreq'
        cases hreq'
    · rw [hlog, List.length_append]; exact hn₂
  refine h.effect (h₁.trans ((BookSteps.of_step hP' h₂).trans (.of_eq ?_)))
  have h₃ : s.view = Function.update s₀.view sid (some { v with goal := some g₁ }) :=
    funext fun x => by
      by_cases hx : x = sid
      · rw [hx, Function.update_self, hv', hg₁]
      · rw [Function.update_of_ne hx, (h.other x hx).1]
  have h₄ : s.log = Function.update s₀.log sid (s₀.log sid ++ (ns ++ [e])) := funext fun x => by
    by_cases hx : x = sid
    · rw [hx, Function.update_self, h.log]
    · rw [Function.update_of_ne hx, (h.other x hx).2.1]
  unfold book Book.setSession Book.addEntries
  rw [h₃, h₄, hgoal]
  simp

end Work

end State
end Aize
