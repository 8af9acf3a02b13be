/-
  The operations of the store, as effects on the ledger.

  `Stored` is what holds of the state between two operations: it is well-formed, its
  book is consistent, and nothing is pending. `Saved` is what an operation makes of
  it: some effect, then a save. `apply_saved` covers every operation that handles no
  lease.
-/
import Aize.Batches
import Aize.Completion
import Aize.System

namespace Aize
namespace State

variable {run : Nat → Option DispatchRun} {P : Label → Prop} {s s' s₁ : State} {sid : String}

/-! ## Saving -/

theorem persistedLog_save (s : State) (sid : String) : s.save.persistedLog sid = s.log sid := by
  have key : ∀ (l : List String) (p : Dict String (List LogEntry)),
      (l.foldl (fun p x => p.insert x (s.log x)) p).lookup sid =
        if sid ∈ l then some (s.log sid) else p.lookup sid := by
    intro l
    induction l with
    | nil => simp
    | cons x l ih =>
      intro p
      rw [List.foldl_cons, ih, Dict.lookup_insert_of]
      by_cases hx : sid = x
      · subst hx; simp
      · simp [hx]
  unfold persistedLog save
  simp only
  rw [key]
  split_ifs with h
  · rfl
  · have hp : s.pending.lookup sid = none := AList.lookup_eq_none.2 h
    simp [log, pendingLog, persistedLog, hp]

theorem log_save (s : State) : s.save.log = s.log := by
  funext sid
  have hp : s.save.pendingLog sid = [] := rfl
  unfold log
  rw [hp, List.append_nil, persistedLog_save, log]

theorem view_save (s : State) : s.save.view = s.view := rfl

theorem book_save (s : State) : s.save.book = s.book := by
  unfold book
  rw [log_save, view_save]

theorem ledger_save (s : State) : s.save.ledger = s.ledger := by
  unfold ledger
  rw [book_save]
  rfl

theorem Wf.save (hw : s.Wf) : s.save.Wf :=
  hw.of_frame (fun _ => .rfl) rfl le_rfl rfl rfl (log_save s) rfl rfl

/-! ## Between two operations -/

/-- A state that is stored: nothing is pending or cached. -/
structure Stored (s : State) : Prop where
  wf : s.Wf
  pending : s.pending = ∅
  fullIds : s.fullIds = []
  book : s.book.Consistent s.dispatchRuns.lookup

theorem Stored.good (h : s.Stored) : s.Good s.dispatchRuns.lookup := ⟨h.wf, h.book⟩

theorem Stored.cachedLog (h : s.Stored) (sid : String) : s.cachedLog sid = [] := by
  unfold State.cachedLog pendingLog
  rw [h.fullIds, h.pending]
  rfl

theorem Stored.stored_eq (h : s.Stored) : s.stored = s := by
  obtain ⟨-, h₁, h₂, -⟩ := h
  cases s
  cases h₁
  cases h₂
  rfl

theorem Stored.save_eq (h : s.Stored) : s.save = s := by
  obtain ⟨-, h₁, h₂, -⟩ := h
  cases s
  cases h₁
  cases h₂
  rfl

/-- **Loading** repairs the stored state. -/
theorem Stored.load (h : s.Stored) (hP : P .plain) {env : Env} (hl : s.load env = .ok s') :
    Repair s.dispatchRuns.lookup P s s' := by
  unfold State.load at hl
  rw [h.stored_eq] at hl
  exact repair_ensureDefaults h.good hP hl

/-- What an operation makes of the stored state. -/
def Saved (P : Label → Prop) (s s' : State) : Prop :=
  ∃ t, Effect s.dispatchRuns.lookup P s t ∧ s' = t.save

theorem Saved.dispatchRuns (h : Saved P s s') : s'.dispatchRuns = s.dispatchRuns := by
  obtain ⟨t, ht, rfl⟩ := h
  exact ht.runs

theorem Saved.steps (h : Saved P s s') (hP : P .plain) : Ledger.Steps P s.ledger s'.ledger := by
  obtain ⟨t, ht, rfl⟩ := h
  rw [ledger_save]
  exact ht.ledger hP

theorem Saved.stored (h : Saved P s s') (hs : s.Stored) : s'.Stored := by
  obtain ⟨t, ht, rfl⟩ := h
  refine ⟨ht.wf.save, rfl, rfl, ?_⟩
  rw [book_save]
  have hruns : t.save.dispatchRuns.lookup = s.dispatchRuns.lookup :=
    congrArg (fun d : Dict Nat DispatchRun => d.lookup) ht.runs
  rw [hruns]
  exact (ht.good hs.good).book

theorem Saved.refl (h : s.Stored) : Saved P s s := ⟨s, .refl h.wf, h.save_eq.symm⟩

/-- A loaded state: consistent, with nothing in the cache. -/
structure Fresh (run : Nat → Option DispatchRun) (s : State) : Prop where
  good : s.Good run
  cached : ∀ sid, s.cachedLog sid = []

/-- An operation that loads, has an effect and saves. -/
theorem Stored.saved (h : s.Stored) (hP : P .plain) {env : Env} (hl : s.load env = .ok s₁)
    (he : Fresh s.dispatchRuns.lookup s₁ → Effect s.dispatchRuns.lookup P s₁ s') :
    Saved P s s'.save := by
  have hr := h.load hP hl
  have hf : Fresh s.dispatchRuns.lookup s₁ :=
    ⟨hr.effect.good h.good, fun sid => by rw [hr.cachedLog]; exact h.cachedLog sid⟩
  exact ⟨s', hr.effect.trans (he hf), rfl⟩

/-- What an operation makes of the stored state that repairs or changes records other than
    Goals, runs, entries and logs. -/
def Repaired (P : Label → Prop) (s s' : State) : Prop :=
  ∃ t, Repair s.dispatchRuns.lookup P s t ∧ s' = t.save

theorem Repaired.saved (h : Repaired P s s') : Saved P s s' := by
  obtain ⟨t, ht, rfl⟩ := h
  exact ⟨t, ht.effect, rfl⟩

theorem Repaired.refl (h : s.Stored) : Repaired P s s := ⟨s, .refl h.wf, h.save_eq.symm⟩

/-- An operation that loads, repairs and saves. -/
theorem Stored.repaired (h : s.Stored) (hP : P .plain) {env : Env} (hl : s.load env = .ok s₁)
    (he : Fresh s.dispatchRuns.lookup s₁ → Repair s.dispatchRuns.lookup P s₁ s') :
    Repaired P s s'.save := by
  have hr := h.load hP hl
  exact ⟨s', hr.trans (he ⟨hr.effect.good h.good, fun sid => by
    rw [hr.cachedLog]; exact h.cachedLog sid⟩), rfl⟩

/-! ## Users, Units and agents -/

theorem repair_insertUser (hw : s.Wf) (name : String) {user : User} (h₁ : user.homeSessionId = "")
    (h₂ : user.homeUnitId = "") : Repair run P s { s with users := s.users.insert name user } :=
  .of_fields hw rfl rfl rfl rfl rfl rfl rfl rfl hw.edge
    (Dict.forall_lookup_insert hw.home ⟨.inl h₁, .inl h₂⟩)

theorem repair_profiles (hw : s.Wf) (profiles : Dict Role AgentProfile) :
    Repair run P s { s with agentProfiles := profiles } :=
  .of_fields hw rfl rfl rfl rfl rfl rfl rfl rfl hw.edge hw.home

section
variable {env : Env} (h : s.Stored) (hP : P .plain)
include h hP

theorem repaired_createUser {username password : String} {groups : List String}
    (hok : s.createUser env username password groups = .ok s') : Repaired P s s' := by
  unfold createUser at hok
  obtain ⟨-, hok⟩ := Except.require_bind_eq_ok.1 hok
  obtain ⟨-, hok⟩ := Except.require_bind_eq_ok.1 hok
  obtain ⟨-, hok⟩ := Except.require_bind_eq_ok.1 hok
  obtain ⟨s₁, hl, hok⟩ := Except.bind_eq_ok.1 hok
  obtain ⟨-, hok⟩ := Except.require_bind_eq_ok.1 hok
  obtain ⟨s₂, h₂, hok⟩ := Except.bind_eq_ok.1 hok
  rw [← Except.pure_eq_ok.1 hok]
  refine h.repaired hP hl fun hf => ?_
  have hr := @repair_insertUser s.dispatchRuns.lookup P _ hf.good.wf (strip username)
    { groups := if groups = [] then ["user"] else groups } rfl rfl
  exact hr.trans (Repair.foldlM (fun _ _ _ hg h => repair_ensureUserHome hg hP h)
    (hr.effect.good hf.good) h₂)

theorem repaired_createServiceUser {username provider : String} {groups : List String}
    (hok : s.createServiceUser env username groups provider = .ok s') : Repaired P s s' := by
  unfold createServiceUser at hok
  obtain ⟨-, hok⟩ := Except.require_bind_eq_ok.1 hok
  obtain ⟨-, hok⟩ := Except.require_bind_eq_ok.1 hok
  obtain ⟨s₁, hl, hok⟩ := Except.bind_eq_ok.1 hok
  obtain ⟨-, hok⟩ := Except.require_bind_eq_ok.1 hok
  rw [← Except.pure_eq_ok.1 hok]
  exact h.repaired hP hl fun hf => (repair_insertUser hf.good.wf _ rfl rfl)

theorem repaired_createUnit {unitId : String} {spec : UnitSpec}
    (hok : s.createUnit env unitId spec = .ok s') : Repaired P s s' := by
  unfold createUnit at hok
  obtain ⟨s₁, hl, hok⟩ := Except.bind_eq_ok.1 hok
  obtain ⟨schedule, -, hok⟩ := Except.bind_eq_ok.1 hok
  obtain ⟨triggers, -, hok⟩ := Except.bind_eq_ok.1 hok
  obtain ⟨-, hok⟩ := Except.require_bind_eq_ok.1 hok
  obtain ⟨-, hok⟩ := Except.require_bind_eq_ok.1 hok
  obtain ⟨-, hok⟩ := Except.require_bind_eq_ok.1 hok
  rw [← Except.pure_eq_ok.1 hok]
  exact h.repaired hP hl fun hf => (repair_units hf.good.wf _)

theorem repaired_setUnitSpawnGroups {unitId : String} {groups : List String}
    (hok : s.setUnitSpawnGroups env unitId groups = .ok s') : Repaired P s s' := by
  unfold setUnitSpawnGroups at hok
  obtain ⟨s₁, hl, hok⟩ := Except.bind_eq_ok.1 hok
  obtain ⟨-, hok⟩ := Except.require_bind_eq_ok.1 hok
  rw [← Except.pure_eq_ok.1 hok]
  exact h.repaired hP hl fun hf => (repair_units hf.good.wf _)

theorem repaired_setUnitActive {unitId : String} {active : Bool}
    (hok : s.setUnitActive env unitId active = .ok s') : Repaired P s s' := by
  unfold setUnitActive at hok
  obtain ⟨s₁, hl, hok⟩ := Except.bind_eq_ok.1 hok
  obtain ⟨-, hok⟩ := Except.require_bind_eq_ok.1 hok
  obtain ⟨-, hok⟩ := Except.require_bind_eq_ok.1 hok
  rw [← Except.pure_eq_ok.1 hok]
  exact h.repaired hP hl fun hf => (repair_units hf.good.wf _)

omit h hP in
theorem repair_backfill (hw : s.Wf) {schedule : Schedule}
    (hok : s.backfillUnitScheduleTiming schedule = .ok s') : Repair run P s s' := by
  unfold backfillUnitScheduleTiming at hok
  dsimp only at hok
  split at hok
  · cases hok; exact .refl hw
  · split_ifs at hok
    · cases hok; exact .refl hw
    · cases hok; exact repair_modifySession hw _ fun _ => ⟨rfl, rfl⟩
    · obtain ⟨next, -, hok⟩ := Except.bind_eq_ok.1 hok
      obtain ⟨previousBoundary, -, hok⟩ := Except.bind_eq_ok.1 hok
      rw [← Except.pure_eq_ok.1 hok]
      exact repair_modifySession hw _ fun _ => ⟨rfl, rfl⟩

theorem repaired_configureUnitSchedule {unitId resolver : String} {fixedParameters : FixedParameters}
    {nextRunAt : Option Stamp} {note : Option String} {enabled : Bool}
    (hok : s.configureUnitSchedule env unitId resolver fixedParameters nextRunAt note enabled =
      .ok s') : Repaired P s s' := by
  unfold configureUnitSchedule at hok
  obtain ⟨s₁, hl, hok⟩ := Except.bind_eq_ok.1 hok
  cases hu : s₁.units.lookup unitId with
  | none => simp [hu] at hok
  | some unit =>
    simp only [hu] at hok
    obtain ⟨schedule, -, hok⟩ := Except.bind_eq_ok.1 hok
    obtain ⟨s₂, h₂, hok⟩ := Except.bind_eq_ok.1 hok
    obtain ⟨triggers, -, hok⟩ := Except.bind_eq_ok.1 hok
    rw [← Except.pure_eq_ok.1 hok]
    refine h.repaired hP hl fun hf => ?_
    have r₁ : Repair s.dispatchRuns.lookup P s₁ (s₁.modifyUnit unitId fun unit =>
      { unit with schedule := schedule }) := repair_units hf.good.wf _
    have r₂ := r₁.trans (repair_backfill r₁.effect.wf h₂)
    exact r₂.trans (repair_units r₂.effect.wf _)

theorem repaired_setSessionSchedulingPolicy {schedulingClass : String} {basePriority : Int}
    (hok : s.setSessionSchedulingPolicy env sid schedulingClass basePriority = .ok s') :
    Repaired P s s' := by
  unfold setSessionSchedulingPolicy at hok
  cases hc : schedulingClassOf (lower (strip schedulingClass)) with
  | none => simp [hc] at hok
  | some c =>
    simp only [hc] at hok
    obtain ⟨s₁, hl, hok⟩ := Except.bind_eq_ok.1 hok
    obtain ⟨-, hok⟩ := Except.require_bind_eq_ok.1 hok
    rw [← Except.pure_eq_ok.1 hok]
    refine h.repaired hP hl fun hf => ?_
    have hr : Repair s.dispatchRuns.lookup P s₁ (s₁.modifySession sid fun session =>
        { session with schedulingPolicy := ⟨c, basePriority⟩, updatedAt := env.utcNow.text }) :=
      repair_modifySession hf.good.wf _ fun _ => ⟨rfl, rfl⟩
    exact hr

theorem repaired_setAgentProvider {role provider : String}
    (hok : s.setAgentProvider env role provider = .ok s') : Repaired P s s' := by
  unfold setAgentProvider at hok
  cases hr : normalizeAgentRole role with
  | none => simp [hr] at hok
  | some r =>
    simp only [hr] at hok
    generalize lower (strip provider) = normalized at hok
    obtain ⟨-, hok⟩ := Except.require_bind_eq_ok.1 hok
    obtain ⟨s₁, hl, hok⟩ := Except.bind_eq_ok.1 hok
    by_cases hlocal : normalized = "local"
    · rw [if_pos hlocal] at hok
      rw [← Except.pure_eq_ok.1 hok]
      exact h.repaired hP hl fun hf => (repair_profiles hf.good.wf _)
    · rw [if_neg hlocal] at hok
      obtain ⟨⟨s₂, account, user⟩, h₂, hok⟩ := Except.bind_eq_ok.1 hok
      obtain ⟨-, hok⟩ := Except.require_bind_eq_ok.1 hok
      rw [← Except.pure_eq_ok.1 hok]
      refine h.repaired hP hl fun hf => ?_
      have r₂ : Repair s.dispatchRuns.lookup P s₁ s₂ := by
        unfold ensureProviderServiceAccount at h₂
        split at h₂
        · cases h₂
        · split at h₂
          · cases h₂; exact .refl hf.good.wf
          · cases h₂; exact repair_insertUser hf.good.wf _ rfl rfl
      exact r₂.trans (repair_profiles r₂.effect.wf _)

theorem repaired_setAgentAccounts {role : String} {accounts : List String}
    (hok : s.setAgentAccounts env role accounts = .ok s') : Repaired P s s' := by
  unfold setAgentAccounts at hok
  cases hr : normalizeAgentRole role with
  | none => simp [hr] at hok
  | some r =>
    simp only [hr] at hok
    obtain ⟨s₁, hl, hok⟩ := Except.bind_eq_ok.1 hok
    obtain ⟨⟨⟩, -, hok⟩ := Except.bind_eq_ok.1 hok
    rw [← Except.pure_eq_ok.1 hok]
    exact h.repaired hP hl fun hf => (repair_profiles hf.good.wf _)

theorem repaired_setDispatchLotSize {lotSize : Int} (hok : s.setDispatchLotSize env lotSize = .ok s') :
    Repaired P s s' := by
  unfold setDispatchLotSize at hok
  obtain ⟨-, hok⟩ := Except.require_bind_eq_ok.1 hok
  obtain ⟨s₁, hl, hok⟩ := Except.bind_eq_ok.1 hok
  rw [← Except.pure_eq_ok.1 hok]
  refine h.repaired hP hl fun hf => ?_
  have hr : Repair s.dispatchRuns.lookup P s₁ { s₁ with dispatchLotSize := lotSize.toNat } :=
    .of_fields hf.good.wf rfl rfl rfl rfl rfl rfl rfl rfl hf.good.wf.edge hf.good.wf.home
  exact hr

end

/-! ## Sessions and Goals -/

/-- **What `create_session` has checked and done** when it returns. -/
theorem createSession_spec {env : Env} {unitId : String} {parents : List String} {createdBy : String}
    (hok : s.createSession env sid unitId parents createdBy = .ok s') :
    ∃ t t', s.load env = .ok t ∧
      t.checkUnitActivation (strip unitId) .manual createdBy = .ok PUnit.unit.{1} ∧
      sid ∉ t.sessions ∧ strip sid ≠ "" ∧
      (sid ≠ rootSessionId → t.checkParents (parentsOrRoot parents) = .ok PUnit.unit.{1}) ∧
      (t.units.lookup (strip unitId)).bind t.singletonSession? = none ∧
      (if sid = rootSessionId then [] else parentsOrRoot parents).foldlM
        (fun s p => s.linkSessionsInState p sid)
        ((t.insertSession sid (strip unitId) env.utcNow.text).recordSingletonSession sid
          (strip unitId)) = .ok t' ∧ s' = t'.save := by
  unfold createSession at hok
  obtain ⟨t, hl, hok⟩ := Except.bind_eq_ok.1 hok
  dsimp only at hok
  generalize strip unitId = unitId at hok ⊢
  generalize parentsOrRoot parents = ps at hok ⊢
  obtain ⟨_, hact, hok⟩ := Except.bind_eq_ok.1 hok
  obtain ⟨-, hok⟩ := Except.require_bind_eq_ok.1 hok
  obtain ⟨hnew, hok⟩ := Except.require_bind_eq_ok.1 hok
  cases hsing : (t.units.lookup unitId).bind t.singletonSession? with
  | some existing =>
    simp only [hsing] at hok
    by_cases hroot : sid ≠ rootSessionId
    · rw [if_pos hroot] at hok
      obtain ⟨-, -, hok⟩ := Except.bind_eq_ok.1 hok
      cases hok
    · rw [if_neg hroot] at hok
      cases hok
  | none =>
    simp only [hsing] at hok
    by_cases hroot : sid = rootSessionId
    · rw [if_neg (not_not.2 hroot)] at hok
      obtain ⟨hstrip, hok⟩ := Except.require_bind_eq_ok.1 hok
      rw [if_pos hroot, Except.ok_bind] at hok
      refine ⟨t, _, hl, hact, hnew, hstrip, fun h => absurd hroot h, hsing, ?_,
        (Except.pure_eq_ok.1 hok).symm⟩
      rw [if_pos hroot]
      rfl
    · rw [if_pos hroot] at hok
      obtain ⟨_, hparents, hok⟩ := Except.bind_eq_ok.1 hok
      obtain ⟨hstrip, hok⟩ := Except.require_bind_eq_ok.1 hok
      rw [if_neg hroot] at hok
      obtain ⟨t', ht', hok⟩ := Except.bind_eq_ok.1 hok
      refine ⟨t, t', hl, hact, hnew, hstrip, fun _ => hparents, hsing, ?_,
        (Except.pure_eq_ok.1 hok).symm⟩
      rw [if_neg hroot]
      exact ht'

section
variable {env : Env} (h : s.Stored) (hP : P .plain)
include h hP

theorem saved_setSessionActive {active : Bool} (hok : s.setSessionActive env sid active = .ok s') :
    Saved P s s' := by
  unfold setSessionActive at hok
  obtain ⟨s₁, hl, hok⟩ := Except.bind_eq_ok.1 hok
  cases hs : s₁.sessions.lookup sid with
  | none => simp [hs] at hok
  | some session =>
    simp only [hs] at hok
    rw [← Except.pure_eq_ok.1 hok]
    exact h.saved hP hl fun hf => effect_setActive hf.good hP hs (hf.cached sid) _ _ _

theorem repaired_linkSessions {parent child : String} (hok : s.linkSessions env parent child = .ok s') :
    Repaired P s s' := by
  unfold linkSessions at hok
  obtain ⟨s₁, hl, hok⟩ := Except.bind_eq_ok.1 hok
  obtain ⟨s₂, h₂, hok⟩ := Except.bind_eq_ok.1 hok
  rw [← Except.pure_eq_ok.1 hok]
  exact h.repaired hP hl fun hf => (repair_link hf.good h₂)

theorem repaired_createSession {unitId : String} {parents : List String} {createdBy : String}
    (hok : s.createSession env sid unitId parents createdBy = .ok s') : Repaired P s s' := by
  obtain ⟨t, t', hl, -, hnew, hstrip, -, -, hlink, rfl⟩ := createSession_spec hok
  have hne : sid ≠ "" := by
    rintro rfl
    exact hstrip (by decide)
  exact h.repaired hP hl fun hf => repair_createSession hf.good hP hnew hne hlink

theorem saved_startGoalSession (hR : ∀ b, P (.reactivate b)) (hU : P .unlogged) {unitId : String}
    {parents : List String} {label body createdBy : String}
    (hok : s.startGoalSession env sid unitId parents label body createdBy = .ok s') :
    Saved P s s' := by
  unfold startGoalSession at hok
  obtain ⟨-, hok⟩ := Except.require_bind_eq_ok.1 hok
  obtain ⟨s₁, hl, hok⟩ := Except.bind_eq_ok.1 hok
  obtain ⟨-, hok⟩ := Except.require_bind_eq_ok.1 hok
  cases hst : s₁.startGoalSessionInState env sid unitId parents label body createdBy env.utcNow.text
    .manual with
  | error raised => simp [hst] at hok
  | ok r =>
    obtain ⟨s₂, started⟩ := r
    simp only [hst, Except.ok.injEq] at hok
    rw [← hok]
    exact h.saved hP hl fun hf => ((launched_start hf.good hP (calm_of_nil hf.cached)
      (fun _ _ _ _ => hR _) (fun _ _ _ => hU) env parents label body createdBy _ _).1 s₂ started
        hst).1.effect

theorem saved_runScheduledUnits (hR : ∀ b, P (.reactivate b)) (hU : P .unlogged)
    {parent createdBy : String} {now : Option Stamp} {results : List UnitResult}
    (hok : s.runScheduledUnits env parent createdBy now = .ok (s', results)) : Saved P s s' := by
  unfold runScheduledUnits at hok
  obtain ⟨s₁, hl, hok⟩ := Except.bind_eq_ok.1 hok
  obtain ⟨-, -, hok⟩ := Except.bind_eq_ok.1 hok
  obtain ⟨nowDt, -, hok⟩ := Except.bind_eq_ok.1 hok
  obtain ⟨⟨s₂, results₂⟩, h₂, hok⟩ := Except.bind_eq_ok.1 hok
  rw [Except.pure_eq_ok, Prod.mk.injEq] at hok
  rw [← hok.1]
  exact h.saved hP hl fun hf => effect_batch hf.good hP hR hU (calm_of_nil hf.cached) h₂

theorem saved_runStartupUnits (hR : ∀ b, P (.reactivate b)) (hU : P .unlogged)
    {parent createdBy : String} {now : Option Stamp} {results : List UnitResult}
    (hok : s.runStartupUnits env parent createdBy now = .ok (s', results)) : Saved P s s' := by
  unfold runStartupUnits at hok
  obtain ⟨s₁, hl, hok⟩ := Except.bind_eq_ok.1 hok
  obtain ⟨-, -, hok⟩ := Except.bind_eq_ok.1 hok
  obtain ⟨⟨s₂, results₂⟩, h₂, hok⟩ := Except.bind_eq_ok.1 hok
  rw [Except.pure_eq_ok, Prod.mk.injEq] at hok
  rw [← hok.1]
  exact h.saved hP hl fun hf => effect_batch hf.good hP hR hU (calm_of_nil hf.cached) h₂

theorem saved_scheduleNextUnitRun {callParameters : CallParameters} {actor : String}
    {runId : Option Nat}
    (hok : s.scheduleNextUnitRunFromSession env sid callParameters actor runId = .ok s') :
    Saved P s s' := by
  unfold scheduleNextUnitRunFromSession at hok
  obtain ⟨s₁, hl, hok⟩ := Except.bind_eq_ok.1 hok
  obtain ⟨s₂, h₂, hok⟩ := Except.bind_eq_ok.1 hok
  rw [← Except.pure_eq_ok.1 hok]
  exact h.saved hP hl fun hf => effect_scheduleNextUnitRun hf.good hP h₂

theorem saved_updateGoal {body createdBy : String}
    (hok : s.updateGoal env sid body createdBy = .ok s') : Saved P s s' := by
  unfold updateGoal at hok
  dsimp only at hok
  obtain ⟨-, hok⟩ := Except.require_bind_eq_ok.1 hok
  obtain ⟨s₁, hl, hok⟩ := Except.bind_eq_ok.1 hok
  obtain ⟨hs, hok⟩ := Except.require_bind_eq_ok.1 hok
  obtain ⟨-, hok⟩ := Except.require_bind_eq_ok.1 hok
  rw [← Except.pure_eq_ok.1 hok]
  exact h.saved hP hl fun hf => effect_reviseGoal hf.good hs hP (hf.cached sid) _ _ _

end

/-! ## Messages -/

theorem currentGoal_setIncomplete {goalId : Nat} {goal g : Goal}
    (hc : s.currentGoalForSession sid = some (goalId, g)) (reason actor : String)
    (runId : Option Nat) (now : String) (deferGoalManager : Bool) :
    (s.setGoalCompletionState goalId goal .incomplete reason actor runId now
      deferGoalManager).currentGoalForSession sid = some (goalId,
        { g with completionState := .incomplete, completionReason := reason }) := by
  have hgoals : (s.setGoalCompletionState goalId goal .incomplete reason actor runId now
      deferGoalManager).goals = (s.modifyGoal goalId fun g =>
        { g with completionState := .incomplete, completionReason := reason }).goals :=
    goals_applyGoalCompletionState
  have hcur := currentGoalForSession_modifyGoal s goalId (f := fun g =>
    { g with completionState := .incomplete, completionReason := reason })
    (fun _ => ⟨rfl, rfl, rfl⟩) sid
  rw [currentGoal_congr hgoals, hcur, hc]
  simp

/-- After new user input the Goal of the Session is incomplete and does not wait. -/
theorem currentGoal_reprocess (hw : s.Wf) (hs : sid ∈ s.sessions) (env : Env)
    (actor reason createdAt : String) (deferGoalManager : Bool) :
    ∃ goalId goal, (s.markSessionReprocessNeeded env sid actor reason createdAt
      deferGoalManager).currentGoalForSession sid = some (goalId, goal) ∧
      goal.completionState = .incomplete ∧ goal.waiting = none := by
  unfold markSessionReprocessNeeded
  cases hc : s.currentGoalForSession sid with
  | some c =>
    obtain ⟨goalId, goal⟩ := c
    dsimp only
    split_ifs with hwait
    · have hcur := currentGoalForSession_modifyGoal s goalId (f := fun g =>
        { g with waiting := none }) (fun _ => ⟨rfl, rfl, rfl⟩) sid
      rw [hc] at hcur
      refine ⟨goalId, _, currentGoal_setIncomplete (g := { goal with waiting := none }) ?_ _ _ _ _ _,
        rfl, rfl⟩
      rw [currentGoal_congr goals_logSystemSignal, hcur]
      simp
    · exact ⟨goalId, _, currentGoal_setIncomplete hc _ _ _ _ _, rfl, by simpa using hwait⟩
  | none =>
    have hcur := (currentGoal_createGoal hw hs hc "Reply to user input sent to this Session." actor
      createdAt sid).trans (if_pos rfl)
    exact ⟨_, _, currentGoal_setIncomplete hcur _ _ _ _ _, rfl, rfl⟩

theorem effect_readSessionLog (hw : s.Wf) (x : String) : Effect run P s (s.readSessionLog x) := by
  unfold readSessionLog
  split_ifs
  · exact .refl hw
  · exact .of_book rfl rfl le_rfl rfl
      (hw.of_frame (fun _ => .rfl) rfl le_rfl rfl rfl rfl rfl rfl)

theorem repair_advancedEndpointCursor (hw : s.Wf) (endpoint : String) (messages : List Message) :
    Repair run P s (s.advanceEndpointCursor endpoint messages) := by
  have hr : ∀ cursors, Repair run P s { s with endpointCursors := cursors } := fun _ =>
    .of_fields hw rfl rfl rfl rfl rfl rfl rfl rfl hw.edge hw.home
  unfold advanceEndpointCursor
  dsimp only
  split
  · exact hr _
  · exact .refl hw

theorem activeWorkerRun_spec (hw : s.Wf) {r : Nat × DispatchRun}
    (h : s.activeWorkerRunForSession sid = some r) :
    s.dispatchRuns.lookup r.1 = some r.2 ∧ r.2.leaseState = .acquired ∧ r.2.sessionId = sid ∧
      r.2.role = .workerAgent := by
  have hm := List.mem_of_getLast? h
  rw [List.mem_insertionSort, List.mem_filter] at hm
  obtain ⟨ha, hr⟩ := hm
  have hlook : s.dispatchRuns.lookup r.1 = some r.2 ∧ r.2.leaseState = .acquired := by
    obtain ⟨runId, run⟩ := r
    simp only [acquiredRuns, List.mem_filter, List.mem_map, decide_eq_true_eq] at ha
    obtain ⟨⟨⟨k, v⟩, hk, heq⟩, hl⟩ := ha
    cases heq
    exact ⟨by simpa [← AList.mem_lookup_iff] using hk, hl⟩
  simp only [Bool.and_eq_true, decide_eq_true_eq] at hr
  refine ⟨hlook.1, hlook.2, hr.1, ?_⟩
  have := (hw.run _ _ hlook.1).2.2 hlook.2
  rw [hr.2] at this
  exact (Option.some.inj this).symm

section
variable {env : Env} (h : s.Stored) (hP : P .plain)
include h hP

theorem saved_appendMessage {sender recipient body : String}
    (hok : s.appendMessage env sid sender recipient body = .ok s') : Saved P s s' := by
  unfold appendMessage at hok
  obtain ⟨s₁, hl, hok⟩ := Except.bind_eq_ok.1 hok
  obtain ⟨hs, hok⟩ := Except.require_bind_eq_ok.1 hok
  dsimp only at hok
  obtain ⟨-, hok⟩ := Except.require_bind_eq_ok.1 hok
  obtain ⟨-, hok⟩ := Except.require_bind_eq_ok.1 hok
  unfold appendSessionMessage at hok
  rw [if_pos hs, Except.ok_bind, Except.pure_eq_ok] at hok
  rw [← hok]
  exact h.saved hP hl fun hf => effect_putSessionMessage hf.good hs hP _ _ _ _ rfl

theorem saved_appendRuntimeMessage {msg : RuntimeMessage}
    (hok : s.appendRuntimeMessage env sid msg = .ok s') : Saved P s s' := by
  unfold appendRuntimeMessage at hok
  obtain ⟨s₁, hl, hok⟩ := Except.bind_eq_ok.1 hok
  obtain ⟨hs, hok⟩ := Except.require_bind_eq_ok.1 hok
  dsimp only at hok
  obtain ⟨⟨role, fromEndpoint⟩, -, hok⟩ := Except.bind_eq_ok.1 hok
  obtain ⟨-, -, hok⟩ := Except.bind_eq_ok.1 hok
  obtain ⟨-, hok⟩ := Except.require_bind_eq_ok.1 hok
  obtain ⟨-, hok⟩ := Except.require_bind_eq_ok.1 hok
  obtain ⟨-, hok⟩ := Except.require_bind_eq_ok.1 hok
  obtain ⟨toEndpoint, -, hok⟩ := Except.bind_eq_ok.1 hok
  have core : ∀ {s₂ : State}, (Fresh s.dispatchRuns.lookup s₁ → Effect s.dispatchRuns.lookup P s₁ s₂) →
      s₂.sessions = s₁.sessions → ∀ payload : Payload, payload.userInput = false →
      ∀ {x : State × Message}, s₂.appendSessionMessage sid fromEndpoint toEndpoint payload
        env.utcNow.text = .ok x → Saved P s x.1.save := by
    intro s₂ he hsess payload hp x hx
    unfold appendSessionMessage at hx
    rw [if_pos (by rw [hsess]; exact hs), Except.ok.injEq] at hx
    rw [← hx]
    refine h.saved hP hl fun hf => (he hf).trans ?_
    exact effect_putSessionMessage ((he hf).good hf.good) (by rw [hsess]; exact hs) hP _ _ _ _ hp
  obtain ⟨x, hx, hok⟩ := Except.bind_eq_ok.1 hok
  rw [← Except.pure_eq_ok.1 hok]
  refine core (fun hf => ?_) ?_ _ ?_ hx
  · split_ifs
    · exact effect_readSessionLog hf.good.wf sid
    · exact .refl hf.good.wf
  · unfold readSessionLog
    split_ifs <;> rfl
  · rfl

theorem saved_appendUserInput {sender body replyTo : String}
    (hok : s.appendUserInput env sid sender body replyTo = .ok s') : Saved P s s' := by
  unfold appendUserInput at hok
  obtain ⟨s₁, hl, hok⟩ := Except.bind_eq_ok.1 hok
  obtain ⟨hs, hok⟩ := Except.require_bind_eq_ok.1 hok
  obtain ⟨-, hok⟩ := Except.require_bind_eq_ok.1 hok
  dsimp only at hok
  rw [appendSessionMessage, if_pos hs, Except.ok_bind] at hok
  cases hworker : s₁.activeWorkerRunForSession sid with
  | none =>
    simp only [hworker, Except.pure_eq_ok] at hok
    rw [← hok]
    exact h.saved hP hl fun hf => effect_userInput hf.good hs hP (hf.cached sid) env _ _ _ rfl _ _ _
  | some r =>
    obtain ⟨runId, worker⟩ := r
    simp only [hworker] at hok
    obtain ⟨x, hx, hok⟩ := Except.bind_eq_ok.1 hok
    rw [← Except.pure_eq_ok.1 hok]
    have hr := h.load hP hl
    refine h.saved hP hl fun hf => ?_
    have he := effect_userInput hf.good hs hP (hf.cached sid) env (userEndpoint sender)
      (sessionEndpoint sid)
      { body, userInput := true, workerFollowup := true, deferGoalManager := true,
        replyTo := strip replyTo } rfl sender env.utcNow.text true
    have hw₁ : (s₁.putSessionMessage sid (userEndpoint sender) (sessionEndpoint sid)
        { body, userInput := true, workerFollowup := true, deferGoalManager := true,
          replyTo := strip replyTo } env.utcNow.text).1.Wf := by
      obtain ⟨es, hwork, -⟩ := (Work.start s.dispatchRuns.lookup hf.good.wf hs).putSessionMessage
        (hf.good.book.numbered sid) (userEndpoint sender) (sessionEndpoint sid)
        { body, userInput := true, workerFollowup := true, deferGoalManager := true,
          replyTo := strip replyTo } env.utcNow.text (by simp)
      exact hwork.wf
    have hmem₁ : sid ∈ (s₁.putSessionMessage sid (userEndpoint sender) (sessionEndpoint sid)
        { body, userInput := true, workerFollowup := true, deferGoalManager := true,
          replyTo := strip replyTo } env.utcNow.text).1.sessions :=
      (mem_sessions_of_view view_putSessionMessage).2 hs
    obtain ⟨goalId, goal, hc, hinc, -⟩ := currentGoal_reprocess hw₁ hmem₁ env sender
      (userInputReason (s₁.putSessionMessage sid (userEndpoint sender) (sessionEndpoint sid)
        { body, userInput := true, workerFollowup := true, deferGoalManager := true,
          replyTo := strip replyTo } env.utcNow.text).2.messageId) env.utcNow.text true
    dsimp only at he
    simp only [Option.isSome_some] at hx
    generalize State.markSessionReprocessNeeded _ env sid sender _ env.utcNow.text true = s₂
      at he hc hx
    obtain ⟨hgl, hgs⟩ := he.wf.currentGoal.1 hc
    have hs₂ : sid ∈ s₂.sessions := hgs ▸ (he.wf.goal _ _ hgl).2.1
    unfold appendSessionMessage at hx
    rw [if_pos hs₂, Except.ok.injEq] at hx
    rw [← hx]
    obtain ⟨hrun, -, -, hrole⟩ := activeWorkerRun_spec hf.good.wf hworker
    refine he.trans (effect_putUserInput (he.good hf.good) hs₂ hP (fun v g hv hg => ?_) _ _ _ _
      fun rid hrid => ?_)
    · obtain ⟨session, -, -, -, hcur⟩ := view_eq_some_iff.1 hv
      rw [hc, hg] at hcur
      rw [← Option.some.inj hcur]
      exact hinc
    · cases hrid
      refine ⟨(hf.good.wf.run _ _ hrun).1.trans_le he.next, worker, ?_, hrole⟩
      rw [← hr.effect.runs]
      exact hrun

theorem repaired_receiveMessage {recipient : String} {sessionId : Option String} {m : Option Message}
    (hok : s.receiveMessage env recipient sessionId = .ok (s', m)) : Repaired P s s' := by
  unfold receiveMessage at hok
  obtain ⟨s₁, hl, hok⟩ := Except.bind_eq_ok.1 hok
  obtain ⟨-, hok⟩ := Except.require_bind_eq_ok.1 hok
  dsimp only at hok
  obtain ⟨-, hok⟩ := Except.require_bind_eq_ok.1 hok
  split at hok
  · rw [Except.pure_eq_ok, Prod.mk.injEq] at hok
    rw [← hok.1]
    exact h.repaired hP hl fun hf => (repair_advancedEndpointCursor hf.good.wf _ _)
  · rw [Except.pure_eq_ok, Prod.mk.injEq] at hok
    rw [← hok.1]
    exact .refl h

end

/-! ## Every operation without a lease -/

end State

/-- The operation changes neither runs nor the queue, and is no replay. -/
def Op.onBook : Op → Prop
  | .declareCompletion .. | .declareWaiting .. | .recordRuntimeRecovery .. | .restart => False
  | .acquire .. | .commit .. => False
  | _ => True

open State in
/-- **The operations on the book.** -/
theorem Op.apply_saved {P : Label → Prop} {s s' : State} {env : Env} {op : Op} (hop : op.onBook)
    (h : s.Stored) (hP : P .plain) (hR : ∀ b, P (.reactivate b)) (hU : P .unlogged)
    (hok : op.apply env s = .ok s') : Saved P s s' := by
  cases op with
  | createUser => rw [Op.apply] at hok; exact (repaired_createUser h hP hok).saved
  | createServiceUser => rw [Op.apply] at hok; exact (repaired_createServiceUser h hP hok).saved
  | createUnit => rw [Op.apply] at hok; exact (repaired_createUnit h hP hok).saved
  | setUnitSpawnGroups => rw [Op.apply] at hok; exact (repaired_setUnitSpawnGroups h hP hok).saved
  | configureUnitSchedule => rw [Op.apply] at hok; exact (repaired_configureUnitSchedule h hP hok).saved
  | setUnitActive => rw [Op.apply] at hok; exact (repaired_setUnitActive h hP hok).saved
  | setSessionActive => rw [Op.apply] at hok; exact saved_setSessionActive h hP hok
  | setSessionSchedulingPolicy => rw [Op.apply] at hok; exact (repaired_setSessionSchedulingPolicy h hP hok).saved
  | setAgentProvider => rw [Op.apply] at hok; exact (repaired_setAgentProvider h hP hok).saved
  | setAgentAccounts => rw [Op.apply] at hok; exact (repaired_setAgentAccounts h hP hok).saved
  | setDispatchLotSize => rw [Op.apply] at hok; exact (repaired_setDispatchLotSize h hP hok).saved
  | createSession => rw [Op.apply] at hok; exact (repaired_createSession h hP hok).saved
  | startGoalSession => rw [Op.apply] at hok; exact saved_startGoalSession h hP hR hU hok
  | linkSessions => rw [Op.apply] at hok; exact (repaired_linkSessions h hP hok).saved
  | runScheduledUnits =>
    obtain ⟨⟨s₁, results⟩, h₁, rfl⟩ := Except.map_eq_ok.1 hok
    exact saved_runScheduledUnits h hP hR hU h₁
  | runStartupUnits =>
    obtain ⟨⟨s₁, results⟩, h₁, rfl⟩ := Except.map_eq_ok.1 hok
    exact saved_runStartupUnits h hP hR hU h₁
  | scheduleNextUnitRun => rw [Op.apply] at hok; exact saved_scheduleNextUnitRun h hP hok
  | updateGoal => rw [Op.apply] at hok; exact saved_updateGoal h hP hok
  | appendMessage => rw [Op.apply] at hok; exact saved_appendMessage h hP hok
  | appendRuntimeMessage => rw [Op.apply] at hok; exact saved_appendRuntimeMessage h hP hok
  | appendUserInput => rw [Op.apply] at hok; exact saved_appendUserInput h hP hok
  | receiveMessage =>
    obtain ⟨⟨s₁, m⟩, h₁, rfl⟩ := Except.map_eq_ok.1 hok
    exact (repaired_receiveMessage h hP h₁).saved
  | declareCompletion | declareWaiting | recordRuntimeRecovery | acquire | commit | restart =>
    exact hop.elim

end Aize
