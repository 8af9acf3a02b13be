/-
  The scheduled and startup batches, and the other operations that write into
  several Sessions or into the Units, as effects on the ledger.

  A batch goes through its Units over one transaction. `Calm` is what a round hands
  to the next one: a Session whose Goal the transaction has changed has an incomplete
  Goal. `Allows` says which steps without a log entry a round may need.
-/
import Aize.Launching

namespace Aize

/-- A text that is stripped to nothing is white space. -/
theorem isSpace_of_strip {s : String} (h : strip s = "") : ∀ c ∈ s.toList, isSpace c = true := by
  have hl : (s.toList.dropWhile isSpace).rdropWhile isSpace = [] := by
    have := congrArg String.toList h
    unfold strip stripChars at this
    rwa [String.toList_ofList] at this
  have hall := List.rdropWhile_eq_nil_iff.1 hl
  cases hd : s.toList.dropWhile isSpace with
  | nil => exact List.dropWhile_eq_nil_iff.1 hd
  | cons c cs =>
    have hc := List.head_dropWhile_not isSpace (l := s.toList) (by rw [hd]; simp)
    simp only [hd, List.head_cons] at hc
    rw [hall c (by rw [hd]; exact List.mem_cons_self)] at hc
    cases hc

namespace State

variable {run : Nat → Option DispatchRun} {P : Label → Prop} {s s' s₁ : State} {sid : String}

/-! ## The initial prompt -/

/-- The initial prompt is user input that makes the Goal incomplete once more. -/
theorem launched_prompt (hg : s.Good run) (hP : P .plain) (hcalm : s.Calm) {goalId : Nat} {goal : Goal}
    (hc : s.currentGoalForSession sid = some (goalId, goal)) {env : Env}
    {prompt createdBy kind : String} {nowText : Stamp}
    (hU : (∃ e ∈ s.cachedLog sid, e.stateActor = some (normalizeEndpoint createdBy sid)) →
      P .unlogged) (h : s.sendInitialPrompt env prompt sid goalId createdBy kind nowText = .ok s') :
    Launched run P (normalizeEndpoint createdBy sid) s s' ⟨sid, goalId⟩ := by
  obtain ⟨hgl, hgs⟩ := hg.wf.currentGoal.1 hc
  have hs : sid ∈ s.sessions := hgs ▸ (hg.wf.goal _ _ hgl).2.1
  unfold sendInitialPrompt appendSessionMessage at h
  rw [if_pos hs, Except.ok_bind] at h
  obtain ⟨es, h₁, hes⟩ := (Work.start run hg.wf hs).putSessionMessage (hg.book.numbered sid)
    (userEndpoint createdBy) (sessionEndpoint sid) { body := prompt, userInput := true } nowText.text
    (by simp)
  have hgoals : (s.putSessionMessage sid (userEndpoint createdBy) (sessionEndpoint sid)
      { body := prompt, userInput := true } nowText.text).1.goals = s.goals := goals_putSessionMessage
  generalize s.putSessionMessage sid (userEndpoint createdBy) (sessionEndpoint sid)
    { body := prompt, userInput := true } nowText.text = sent at h h₁ hgoals
  obtain ⟨s₂, message⟩ := sent
  simp only at h hgoals h₁
  rw [hgoals, hgl] at h
  simp only [Except.pure_eq_ok] at h
  rw [← h]
  refine h₁.launch (hg.book.numbered sid) hP hcalm (fun e he => ?_) (g := goal) ?_ hgs _ _ _ hU
  · obtain ⟨m, hb, hm⟩ := hes e (by simpa using he)
    exact ⟨.inl (by simp [LogEntry.isRequirement, hb, hm]), by simp [LogEntry.isStateChange, hb]⟩
  · rw [currentGoal_congr hgoals, hc]

/-! ## One round of a batch -/

/-- `P` has the labels of what starting the Unit may do without a log entry. -/
structure Allows (P : Label → Prop) (s : State) (parent createdBy unitId : String) : Prop where
  reactivate : ∀ existing session,
    (s.units.lookup (strip unitId)).bind s.singletonSession? = some existing →
      s.sessions.lookup existing = some session → P (.reactivate session.active)
  again : ∀ existing, (s.units.lookup (strip unitId)).bind s.singletonSession? = some existing →
    (∃ e ∈ s.cachedLog existing, e.stateActor = some "system") → P .unlogged
  prompt : ∀ unit launchParent launchUser x, s.units.lookup unitId = some unit →
    s.unitLaunchIdentity unit parent createdBy = .ok (launchParent, launchUser) →
    (normalizeEndpoint launchUser x = "system" ∨
      ∃ e ∈ s.cachedLog x, e.stateActor = some (normalizeEndpoint launchUser x)) → P .unlogged

theorem allows_of_all (hR : ∀ b, P (.reactivate b)) (hU : P .unlogged)
    (s : State) (parent createdBy unitId : String) : Allows P s parent createdBy unitId :=
  ⟨fun _ _ _ _ => hR _, fun _ _ _ => hU, fun _ _ _ _ _ _ _ => hU⟩

/-- A generated Session id is never blank: it has a dash. -/
theorem strip_triggeredSessionId (s : State) (unitId : String) (trigger : Trigger)
    (nowText : String) : strip (s.triggeredSessionId unitId trigger nowText) ≠ "" := by
  have hbase : '-' ∈ (s.triggeredSessionBase unitId trigger nowText).toList := by
    unfold triggeredSessionBase
    simp only [String.toList_append, List.mem_append]
    exact .inl (.inl (.inl (.inr (by decide))))
  have hid : '-' ∈ (s.triggeredSessionId unitId trigger nowText).toList := by
    unfold triggeredSessionId
    dsimp only
    generalize s.triggeredSessionBase unitId trigger nowText = base at hbase ⊢
    cases hf : ((List.range (s.sessions.keys.length + 1)).map fun i =>
        if i = 0 then base else s!"{base}-{i + 1}").find? (· ∉ s.sessions) with
    | none => exact hbase
    | some id =>
      obtain ⟨i, -, hi⟩ := List.mem_map.1 (List.mem_of_find?_eq_some hf)
      rw [Option.getD_some, ← hi]
      split_ifs
      · exact hbase
      · simp only [String.toList_append, List.mem_append]
        exact .inl (.inl hbase)
  intro h
  exact absurd (isSpace_of_strip h '-' hid) (by decide)

theorem triggeredSessionId_ne (s : State) (unitId : String) (trigger : Trigger) (nowText : String) :
    s.triggeredSessionId unitId trigger nowText ≠ "" := by
  intro h
  exact s.strip_triggeredSessionId unitId trigger nowText (by rw [h]; decide)

section
variable {env : Env} {unit : UnitRecord} {launchUser : String} {nowText : Stamp} {started : Started}

/-- The prompt of a Unit that has been started. -/
theorem effect_prompt (hg : s₁.Good run) (hP : P .plain) (hl : Launched run P "system" s s₁ started)
    (hU : (normalizeEndpoint launchUser started.sessionId = "system" ∨
      ∃ e ∈ s.cachedLog started.sessionId,
        e.stateActor = some (normalizeEndpoint launchUser started.sessionId)) → P .unlogged)
    {s₂ : State} (hr : Repair run P s₁ s₂) {prompt kind : String}
    (h : s₂.sendInitialPrompt env prompt started.sessionId started.goalId launchUser kind nowText =
      .ok s') : Effect run P s₁ s' ∧ s'.Calm := by
  obtain ⟨goal, hc, -⟩ := hl.goal
  have hp := launched_prompt (hr.effect.good hg) hP (hr.calm hl.calm)
    (by rw [currentGoal_congr hr.goals]; exact hc) ?_ h
  · exact ⟨hr.effect.trans hp.effect, hp.calm⟩
  · rintro ⟨e, he, ha⟩
    rw [hr.cachedLog] at he
    rcases hl.cached _ e he _ ha with he | ha'
    · exact hU (.inr ⟨e, he, ha⟩)
    · exact hU (.inl ha')

theorem effect_finishStartup (hg : s₁.Good run) (hP : P .plain)
    (hl : Launched run P "system" s s₁ started)
    (hU : (normalizeEndpoint launchUser started.sessionId = "system" ∨
      ∃ e ∈ s.cachedLog started.sessionId,
        e.stateActor = some (normalizeEndpoint launchUser started.sessionId)) → P .unlogged)
    (h : s₁.finishStartupUnit env unit launchUser nowText started = .ok s') :
    Effect run P s₁ s' ∧ s'.Calm := by
  unfold finishStartupUnit at h
  dsimp only at h
  split_ifs at h
  · cases h; exact ⟨.refl hg.wf, hl.calm⟩
  · exact effect_prompt hg hP hl hU (.refl hg.wf) h

theorem effect_finishScheduled (hg : s₁.Good run) (hP : P .plain)
    (hl : Launched run P "system" s s₁ started)
    (hU : (normalizeEndpoint launchUser started.sessionId = "system" ∨
      ∃ e ∈ s.cachedLog started.sessionId,
        e.stateActor = some (normalizeEndpoint launchUser started.sessionId)) → P .unlogged)
    {unitId : String} (hnamed : sid ∈ s₁.sessions → started.sessionId = sid)
    (h : s₁.finishScheduledUnit env unitId unit sid launchUser nowText started = .ok s') :
    Effect run P s₁ s' ∧ s'.Calm := by
  unfold finishScheduledUnit at h
  obtain ⟨hmem, h⟩ := Except.require_bind_eq_ok.1 h
  dsimp only at h
  generalize hs₂ : s₁.modifySession sid _ = s₂ at h
  have hr : Repair run P s₁ s₂ := by
    rw [← hs₂]
    exact repair_modifySession hg.wf sid fun _ => ⟨rfl, rfl⟩
  have marked : ∀ {s₃ : State}, Effect run P s₁ s₃ ∧ s₃.Calm →
      Effect run P s₁ (s₃.markScheduledRun unitId sid nowText) ∧
        (s₃.markScheduledRun unitId sid nowText).Calm := by
    rintro s₃ ⟨he, hc⟩
    have hr₃ : Repair run P s₃ (s₃.markScheduledRun unitId sid nowText) := repair_units he.wf _
    exact ⟨he.trans hr₃.effect, hr₃.calm hc⟩
  split_ifs at h
  · rw [Except.ok_bind] at h
    rw [← Except.pure_eq_ok.1 h]
    exact marked ⟨hr.effect, hr.calm hl.calm⟩
  · obtain ⟨s₃, h₃, h⟩ := Except.bind_eq_ok.1 h
    rw [← Except.pure_eq_ok.1 h]
    rw [← hnamed hmem] at h₃
    exact marked (effect_prompt hg hP hl hU hr h₃)

end

/-- **One round of a batch.** -/
theorem effect_runUnit (hg : s.Good run) (hP : P .plain) (hcalm : s.Calm) {env : Env}
    {trigger : Trigger} {parent createdBy unitId : String} {nowText : Stamp} {now : Int}
    {results : List UnitResult} {r' : State × List UnitResult}
    (hA : Allows P s parent createdBy unitId)
    (h : runUnit env trigger parent createdBy nowText now (s, results) unitId = .ok r') :
    Effect run P s r'.1 ∧ r'.1.Calm := by
  have same : Effect run P s s ∧ s.Calm := ⟨.refl hg.wf, hcalm⟩
  unfold runUnit at h
  dsimp only at h
  cases hunit : s.units.lookup unitId with
  | none =>
    simp only [hunit, Except.ok.injEq] at h
    rw [← h]; exact same
  | some unit =>
    simp only [hunit] at h
    obtain ⟨selected, -, h⟩ := Except.bind_eq_ok.1 h
    cases selected with
    | false =>
      simp only [Bool.not_false, if_true, Except.ok.injEq] at h
      rw [← h]; exact same
    | true =>
      simp only [Bool.not_true, Bool.false_eq_true, if_false] at h
      obtain ⟨⟨launchParent, launchUser⟩, hid, h⟩ := Except.bind_eq_ok.1 h
      have hne := s.triggeredSessionId_ne unitId trigger nowText.text
      generalize s.triggeredSessionId unitId trigger nowText.text = sessionId at h hne
      unfold launchUnit at h
      dsimp only at h
      obtain ⟨hok, herr⟩ := launched_start hg hP hcalm hA.reactivate hA.again env [launchParent]
        (strip (if unit.displayName = "" then unitId else unit.displayName))
        (strip (if unit.goalText = "" then
          strip (if unit.displayName = "" then unitId else unit.displayName) else unit.goalText))
        launchUser nowText.text trigger
      cases hstart : s.startGoalSessionInState env sessionId unitId [launchParent]
        (strip (if unit.displayName = "" then unitId else unit.displayName))
        (strip (if unit.goalText = "" then
          strip (if unit.displayName = "" then unitId else unit.displayName) else unit.goalText))
        launchUser nowText.text trigger with
      | error raised =>
        obtain ⟨err, s₁⟩ := raised
        cases err with
        | storeError reason =>
          simp only [hstart, Except.ok.injEq] at h
          rw [← h]
          exact herr hne _ hstart
        | keyError _ | overflowError => simp only [hstart] at h; cases h
      | ok result =>
        obtain ⟨s₁, started⟩ := result
        simp only [hstart] at h
        obtain ⟨hl, hnamed⟩ := hok s₁ started hstart
        have hg₁ := hl.effect.good hg
        have hU := fun x => hA.prompt unit launchParent launchUser x hunit hid
        cases trigger with
        | scheduled =>
          obtain ⟨s₂, hfinish, h⟩ := Except.bind_eq_ok.1 h
          rw [← Except.pure_eq_ok.1 h]
          obtain ⟨he, hc⟩ := effect_finishScheduled hg₁ hP hl (hU _) hnamed hfinish
          exact ⟨hl.effect.trans he, hc⟩
        | startup =>
          obtain ⟨s₂, hfinish, h⟩ := Except.bind_eq_ok.1 h
          rw [← Except.pure_eq_ok.1 h]
          obtain ⟨he, hc⟩ := effect_finishStartup hg₁ hP hl (hU _) hfinish
          exact ⟨hl.effect.trans he, hc⟩
        | manual =>
          obtain ⟨s₂, hfinish, h⟩ := Except.bind_eq_ok.1 h
          rw [← Except.pure_eq_ok.1 h]
          obtain ⟨he, hc⟩ := effect_finishStartup hg₁ hP hl (hU _) hfinish
          exact ⟨hl.effect.trans he, hc⟩

/-- **A batch.** -/
theorem effect_batch (hg : s.Good run) (hP : P .plain) (hR : ∀ b, P (.reactivate b))
    (hU : P .unlogged) (hcalm : s.Calm) {env : Env} {trigger : Trigger} {parent createdBy : String}
    {nowText : Stamp} {now : Int} {l : List String} {r' : State × List UnitResult}
    (h : l.foldlM (runUnit env trigger parent createdBy nowText now) (s, []) = .ok r') :
    Effect run P s r'.1 := by
  refine (Except.foldlM_invariant (P := fun r : State × List UnitResult =>
    Effect run P s r.1 ∧ r.1.Calm) h ⟨.refl hg.wf, hcalm⟩ ?_).1
  rintro unitId - ⟨s₁, results⟩ r₂ ⟨he, hc⟩ h₂
  obtain ⟨he', hc'⟩ := effect_runUnit (he.good hg) hP hc (allows_of_all hR hU _ _ _ _) h₂
  exact ⟨he.trans he', hc'⟩

/-! ## The next run time -/

/-- The Unit gets its next run time, and the Session a message about it. -/
theorem scheduleNextUnitRun_eq {env : Env} {callParameters : CallParameters} {actor : String} {runId : Option Nat} {completedAt : Stamp}
    {provisional : Bool}
    (h : s.scheduleNextUnitRun env sid callParameters actor runId completedAt provisional = .ok s') :
    ∃ units payload fromEndpoint toEndpoint, payload.userInput = false ∧ sid ∈ s.sessions ∧
      s' = (State.putSessionMessage { s with units := units } sid fromEndpoint toEndpoint payload
        env.utcNow.text).1 := by
  unfold scheduleNextUnitRun at h
  cases hs : s.sessions.lookup sid with
  | none => simp [hs] at h
  | some session =>
    simp only [hs] at h
    obtain ⟨-, h⟩ := Except.require_bind_eq_ok.1 h
    obtain ⟨-, h⟩ := Except.require_bind_eq_ok.1 h
    cases hu : s.units.lookup session.unitId with
    | none => simp [hu] at h
    | some unit =>
      simp only [hu] at h
      cases hsched : unit.schedule.filter Schedule.enabled with
      | none => simp [hsched] at h
      | some schedule =>
        simp only [hsched] at h
        obtain ⟨next, -, h⟩ := Except.bind_eq_ok.1 h
        obtain ⟨parsed, -, h⟩ := Except.bind_eq_ok.1 h
        obtain ⟨comparison, -, h⟩ := Except.bind_eq_ok.1 h
        obtain ⟨-, h⟩ := Except.require_bind_eq_ok.1 h
        have hmem : sid ∈ s.sessions := Dict.mem_iff_lookup.2 ⟨session, hs⟩
        obtain ⟨⟨s₂, m⟩, h₂, h⟩ := Except.bind_eq_ok.1 h
        simp only [Except.pure_eq_ok] at h
        unfold appendSessionMessage at h₂
        rw [if_pos (by exact hmem), Except.ok.injEq] at h₂
        exact ⟨_, _, _, _, rfl, hmem, h.symm.trans (congrArg Prod.fst h₂).symm⟩

theorem effect_scheduleNextUnitRun (hg : s.Good run) (hP : P .plain) {env : Env}
    {callParameters : CallParameters} {actor : String} {runId : Option Nat} {completedAt : Stamp}
    {provisional : Bool}
    (h : s.scheduleNextUnitRun env sid callParameters actor runId completedAt provisional = .ok s') :
    Effect run P s s' := by
  obtain ⟨units, payload, fromEndpoint, toEndpoint, hp, hs, rfl⟩ := scheduleNextUnitRun_eq h
  have hr : Repair run P s { s with units := units } := repair_units hg.wf units
  exact hr.effect.trans (effect_putSessionMessage (hr.effect.good hg) hs hP _ _ _ _ hp)

/-! ## New Sessions -/

/-- `create_session`. -/
theorem repair_createSession (hg : s.Good run) (hP : P .plain) {unitId createdAt : String}
    {parents : List String} (hn : sid ∉ s.sessions) (hne : sid ≠ "")
    (h : parents.foldlM (fun s p => s.linkSessionsInState p sid)
      ((s.insertSession sid unitId createdAt).recordSingletonSession sid unitId) = .ok s') :
    Repair run P s s' := by
  have h₁ : Repair run P s (s.insertSession sid unitId createdAt) :=
    repair_insertSession hg hP hn hne rfl rfl
  have h₂ := h₁.trans (@repair_recordSingletonSession _ _ _ sid h₁.effect.wf unitId)
  exact h₂.trans (.foldlM (fun _ _ _ hg h => repair_link hg h) (h₂.effect.good hg) h)

end State
end Aize
