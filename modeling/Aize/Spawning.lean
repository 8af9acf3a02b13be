/-
  Spawn groups, from the command line to the store.

  A Unit can be restricted to the members of some groups. Every operation that starts its
  Sessions checks this (`guarded_apply`), but `create-unit` drops its `--spawn-group`s, and a
  home can take over a Unit or its Session. In runs without these only members get a Session
  of a restricted Unit, or start the one that it has (`spawn_groups_enforced`). What is done
  with a Session that is there is not restricted: `activate`, `deactivate`, `send`, `send-file`
  and `update-goal` ask nobody, and neither does the dispatch of its Goal. Where `activate` is
  kept to members, too, every activation is gated (`activation_gated`).
-/
import Aize.Isolation
import Aize.Launches

namespace Aize

open Relation

/-! ## Commands -/

/-- The lines of the console that change the store. Of `dispatch` both operations, the one that
    acquires the lease and the one that commits its result, are operations of their own. -/
inductive ConsoleLine where
  | createUnit (unitId : String)
  | session (sessionId : String)
  | unitSession (sessionId unitId : String)
  | goal (sessionId label body : String)
  | unitGoal (sessionId unitId label body : String)
  | setActive (active : Bool)
  | setUnitActive (unitId : String) (active : Bool)
  | setPolicy (schedulingClass : String) (basePriority : Int)
  | send (consoleEndpoint body : String)
  | sendFile (recipient body : String)
  | updateGoal (body : String)

/-- The lines that start a Session. -/
def ConsoleLine.starts : ConsoleLine → Bool
  | .session .. | .unitSession .. | .goal .. | .unitGoal .. => true
  | _ => false

/-- The commands of the command line that are more than one operation with its arguments, the
    lines of the console, where `account` has logged in (by the option `--username`, or
    asked for the name), and every other operation. -/
inductive Command where
  | createUnit (unitId : String) (spec : UnitSpec)
  | setUnitSpawnGroups (unitId : String) (groups : List String) (clear : Bool)
  | createSession (sessionId unitId : String) (parents : Option (List String)) (createdBy : String)
  | startGoal (sessionId unitId : String) (parents : List String) (label body createdBy : String)
  | console (account : String) (named : Bool) (current : String) (line : ConsoleLine)
  | other (op : Op)

/-- `user_home_session`. -/
def State.userHomeSession (s : State) (env : Env) (username : String) : Except Err String := do
  let s ← s.load env
  match s.users.lookup username with
  | none => .error (.storeError s!"unknown user: {username}")
  | some user =>
    let home := strip user.homeSessionId
    Except.require (home ≠ "") (.storeError s!"user has no home session: {username}")
    Except.require (home ∈ s.sessions) (.storeError s!"unknown user home session: {home}")
    return home

namespace Command

/-- The operation that a command calls. `create-unit` does not pass on its spawn groups. -/
def op (s : State) (env : Env) : Command → Except Err Op
  | .createUnit unitId spec => .ok (.createUnit unitId { spec with spawnGroups := [] })
  | .setUnitSpawnGroups unitId groups clear =>
    .ok (.setUnitSpawnGroups unitId (if clear then [] else groups))
  | .createSession sessionId unitId (some parents) createdBy =>
    .ok (.createSession sessionId unitId parents createdBy)
  | .createSession sessionId unitId none createdBy =>
    if createdBy = "" then .ok (.createSession sessionId unitId [] createdBy)
    else do return .createSession sessionId unitId [← s.userHomeSession env createdBy] createdBy
  | .startGoal sessionId unitId parents label body createdBy =>
    if parents ≠ [] then .ok (.startGoalSession sessionId unitId parents label body createdBy)
    else do
      return .startGoalSession sessionId unitId [← s.userHomeSession env createdBy] label body
        createdBy
  | .console account named current (.session sessionId) =>
    .ok (.createSession sessionId "" [current] (if named then account else ""))
  | .console account named current (.unitSession sessionId unitId) =>
    .ok (.createSession sessionId unitId [current] (if named then account else ""))
  | .console account _ current (.goal sessionId label body) =>
    .ok (.startGoalSession sessionId "" [current] label body account)
  | .console account _ current (.unitGoal sessionId unitId label body) =>
    .ok (.startGoalSession sessionId unitId [current] label body account)
  | .console _ _ _ (.createUnit unitId) => .ok (.createUnit unitId {})
  | .console _ _ current (.setActive active) => .ok (.setSessionActive current active)
  | .console _ _ _ (.setUnitActive unitId active) => .ok (.setUnitActive unitId active)
  | .console _ _ current (.setPolicy schedulingClass basePriority) =>
    .ok (.setSessionSchedulingPolicy current schedulingClass basePriority)
  | .console account _ current (.send consoleEndpoint body) =>
    .ok (.appendUserInput current account body consoleEndpoint)
  | .console account _ current (.sendFile recipient body) =>
    .ok (.appendMessage current account recipient (if body = "" then "file payload" else body))
  | .console account _ current (.updateGoal body) => .ok (.updateGoal current body account)
  | .other op => .ok op

theorem op_createSession {s : State} {env : Env} {sessionId unitId createdBy : String}
    {parents : Option (List String)} {o : Op}
    (h : op s env (.createSession sessionId unitId parents createdBy) = .ok o) :
    ∃ parents, o = .createSession sessionId unitId parents createdBy := by
  cases parents with
  | some parents => cases h; exact ⟨parents, rfl⟩
  | none =>
    dsimp only [op] at h
    split_ifs at h
    · cases h
      exact ⟨[], rfl⟩
    · obtain ⟨home, -, h⟩ := Except.bind_eq_ok.1 h
      cases h
      exact ⟨[home], rfl⟩

theorem op_startGoal {s : State} {env : Env} {sessionId unitId label body createdBy : String}
    {parents : List String} {o : Op}
    (h : op s env (.startGoal sessionId unitId parents label body createdBy) = .ok o) :
    ∃ parents, o = .startGoalSession sessionId unitId parents label body createdBy := by
  dsimp only [op] at h
  split_ifs at h
  · cases h
    exact ⟨parents, rfl⟩
  · obtain ⟨home, -, h⟩ := Except.bind_eq_ok.1 h
    cases h
    exact ⟨[home], rfl⟩

/-- The spawn groups that a command gives to a Unit. -/
def gives : Command → Option (String × List String)
  | .createUnit unitId spec => some (unitId, spec.spawnGroups)
  | .setUnitSpawnGroups unitId groups clear => some (unitId, if clear then [] else groups)
  | .console _ _ _ (.createUnit unitId) => some (unitId, [])
  | .other (.createUnit unitId spec) => some (unitId, spec.spawnGroups)
  | .other (.setUnitSpawnGroups unitId groups) => some (unitId, groups)
  | _ => none

end Command

/-- The operations that start Sessions. -/
def Op.starts : Op → Bool
  | .createSession .. | .startGoalSession .. | .runScheduledUnits .. | .runStartupUnits .. => true
  | _ => false

/-- Who an operation acts for when it starts a Session of a Unit. -/
def Op.ActsFor (s : State) (unitId user : String) : Op → Prop
  | .createSession _ _ _ createdBy => user = createdBy
  | .startGoalSession _ _ _ _ _ createdBy => user = createdBy
  | .runScheduledUnits _ createdBy _ => s.LaunchesFor createdBy unitId user
  | .runStartupUnits _ createdBy _ => s.LaunchesFor createdBy unitId user
  | _ => False

/-- The commands that start Sessions. -/
def Command.starts : Command → Bool
  | .createSession .. | .startGoal .. => true
  | .console _ _ _ line => line.starts
  | .other op => op.starts
  | _ => false

/-- Who a command acts for. -/
def Command.ActsFor (s : State) (unitId user : String) : Command → Prop
  | .createSession _ _ _ createdBy => user = createdBy
  | .startGoal _ _ _ _ _ createdBy => user = createdBy
  | .console account _ _ _ => user = account
  | .other op => op.ActsFor s unitId user
  | _ => False

namespace State

variable {acts : String → String → Prop} {b s s₁ s' : State} {env : Env} {op : Op}
  {sid unitId : String}

/-! ## The operations that start Sessions -/

theorem touches_load (hst : s.Stored) (hs : s.Housed) (hl : s.load env = .ok s') :
    TouchesNone s s' := by
  have hr := hst.load (P := fun _ => True) trivial hl
  have hsame := hs.same_load hl
  refine ⟨?_⟩
  rintro x (h | h)
  · refine h ?_
    unfold State.log persistedLog pendingLog
    rw [hr.persisted, hr.pending]
  · refine h ?_
    by_cases hx : x ∈ s.sessions
    · obtain ⟨v, hv⟩ := exists_view hx
      obtain ⟨session, hlook, ha, -⟩ := view_eq_some_iff.1 hv
      obtain ⟨session', hlook', ha', -⟩ := view_eq_some_iff.1 ((hr.view x hx).trans hv)
      rw [activeFlag, activeFlag, hlook, hlook', Option.map_some, Option.map_some, ha, ha']
    · have hx' : x ∉ s'.sessions := by rwa [hsame.mem_sessions]
      rw [activeFlag, activeFlag, AList.lookup_eq_none.2 hx, AList.lookup_eq_none.2 hx']

theorem guarded_load (hst : s.Stored) (hs : s.Housed) (hl : s.load env = .ok s') :
    Guarded acts s s' :=
  (Guarded.refl acts s).same_none (hs.same_load hl) (touches_load hst hs hl)

theorem Housed.blank (hs : s.Housed) : "" ∉ s.units := by
  intro h
  obtain ⟨unit, hu⟩ := Dict.mem_iff_lookup.1 h
  exact hs.unitId "" unit hu (by decide)

theorem guarded_createSession (hst : s.Stored) (hs : s.Housed) {parents : List String}
    {createdBy : String} (hacts : acts (strip unitId) createdBy)
    (h : s.createSession env sid unitId parents createdBy = .ok s') : Guarded acts s s' := by
  obtain ⟨t, t', hl, hact, hnew, hname, -, -, hlink, rfl⟩ := createSession_spec h
  have ht : Guarded acts s t := guarded_load hst hs hl
  refine Guarded.save ?_
  exact Except.foldlM_invariant (P := Guarded acts s) hlink (ht.start hnew hname (ht.passes hacts hact))
    fun p _ s₁ s₂ h hl => h.same_none (same_link hl) (touches_link hl)

theorem guarded_startGoal (hst : s.Stored) (hs : s.Housed) {parents : List String}
    {label body createdBy : String} (hacts : acts (strip unitId) createdBy)
    (h : s.startGoalSession env sid unitId parents label body createdBy = .ok s') :
    Guarded acts s s' := by
  unfold startGoalSession at h
  obtain ⟨-, h⟩ := Except.require_bind_eq_ok.1 h
  obtain ⟨t, hl, h⟩ := Except.bind_eq_ok.1 h
  obtain ⟨-, h⟩ := Except.require_bind_eq_ok.1 h
  cases hr : t.startGoalSessionInState env sid unitId parents label body createdBy env.utcNow.text
    .manual with
  | error raised => rw [hr] at h; cases h
  | ok r =>
    have hstart : Guarded acts s (leftBy (t.startGoalSessionInState env sid unitId parents label body
        createdBy env.utcNow.text .manual)) :=
      guarded_start (guarded_load hst hs hl) hs.blank hacts (.inr ⟨r, hr⟩)
    rw [hr] at h hstart
    obtain rfl := Except.ok.inj h
    exact hstart.save

/-- **Whatever starts a Session asks whether its user may.** -/
theorem guarded_apply (hst : s.Stored) (hs : s.Housed) (hop : op.starts)
    (h : op.apply env s = .ok s') :
    Guarded (fun unitId user => op.ActsFor s unitId user) s s' := by
  cases op with
  | createSession sid unitId parents createdBy =>
    rw [Op.apply] at h
    exact guarded_createSession hst hs rfl h
  | startGoalSession sid unitId parents label body createdBy =>
    rw [Op.apply] at h
    exact guarded_startGoal hst hs rfl h
  | runScheduledUnits parent createdBy now =>
    obtain ⟨r, hr, rfl⟩ := Except.map_eq_ok.1 h
    unfold runScheduledUnits at hr
    obtain ⟨t, hl, hr⟩ := Except.bind_eq_ok.1 hr
    obtain ⟨-, -, hr⟩ := Except.bind_eq_ok.1 hr
    obtain ⟨nowDt, -, hr⟩ := Except.bind_eq_ok.1 hr
    obtain ⟨⟨t₁, results⟩, h₁, hr⟩ := Except.bind_eq_ok.1 hr
    cases hr
    exact (guarded_batch (guarded_load hst hs hl) hs.blank h₁).save
  | runStartupUnits parent createdBy now =>
    obtain ⟨r, hr, rfl⟩ := Except.map_eq_ok.1 h
    unfold runStartupUnits at hr
    obtain ⟨t, hl, hr⟩ := Except.bind_eq_ok.1 hr
    obtain ⟨-, -, hr⟩ := Except.bind_eq_ok.1 hr
    obtain ⟨⟨t₁, results⟩, h₁, hr⟩ := Except.bind_eq_ok.1 hr
    cases hr
    exact (guarded_batch (guarded_load hst hs hl) hs.blank h₁).save
  | _ => cases hop

/-! ## Units stay -/

/-- What an operation that starts no Session leaves of the Units; the spawn groups of the Units
    in `changed` may be other ones. -/
structure Tended (changed : String → Prop) (s s' : State) : Prop where
  unit : ∀ id unit, s.units.lookup id = some unit → ∃ unit', s'.units.lookup id = some unit' ∧
    (changed id ∨ unit'.spawnGroups = unit.spawnGroups) ∧
    unit'.singletonSessionId = unit.singletonSessionId
  newUnit : ∀ id unit', s'.units.lookup id = some unit' →
    id ∈ s.units ∨ unit'.singletonSessionId = ""
  session : ∀ id, id ∈ s'.sessions ↔ id ∈ s.sessions

namespace Tended

variable {changed : String → Prop}

theorem of_units (hu : s'.units = s.units) (hs : s'.sessions = s.sessions) : Tended changed s s' where
  unit _ unit h := ⟨unit, hu ▸ h, .inr rfl, rfl⟩
  newUnit _ unit' h := .inl (Dict.mem_iff_lookup.2 ⟨unit', hu ▸ h⟩)
  session id := by rw [hs]

theorem of_same (h : SameTenants s s') : Tended changed s s' where
  unit id unit hu := by
    obtain ⟨unit', hu', hk⟩ := h.unit_after hu
    exact ⟨unit', hu', .inr hk.groups, hk.singleton⟩
  newUnit id unit' hu' := .inl (h.mem_units.1 (Dict.mem_iff_lookup.2 ⟨unit', hu'⟩))
  session _ := h.mem_sessions

/-- After a load. -/
theorem after (hsame : SameTenants s s₁) (h : Tended changed s₁ s') : Tended changed s s' where
  unit id unit hu := by
    obtain ⟨unit₁, hu₁, hk⟩ := hsame.unit_after hu
    obtain ⟨unit', hu', hgroups, hsing⟩ := h.unit id unit₁ hu₁
    exact ⟨unit', hu', hgroups.imp_right fun hg => hg.trans hk.groups, hsing.trans hk.singleton⟩
  newUnit id unit' hu' := (h.newUnit id unit' hu').imp_left hsame.mem_units.1
  session id := (h.session id).trans hsame.mem_sessions

theorem linked (h : Tended changed s s') (hs : s.Linked) : s'.Linked where
  linked id unit' hu' := by
    rcases h.newUnit id unit' hu' with hmem | hblank
    · obtain ⟨unit, hu⟩ := Dict.mem_iff_lookup.1 hmem
      obtain ⟨unit₁, hu₁, -, hsing⟩ := h.unit id unit hu
      rw [hu'] at hu₁
      cases hu₁
      rw [hsing]
      exact (hs.linked id unit hu).imp_right (h.session _).2
    · exact .inl hblank

theorem sole (h : Tended changed s s') (hs : s.Sole) : s'.Sole where
  toLinked := h.linked hs.toLinked
  unique id id' unit unit' hu hu' he hne := by
    have hold : ∀ {id unit}, s'.units.lookup id = some unit → unit.singletonSessionId ≠ "" →
        ∃ unit₀, s.units.lookup id = some unit₀ ∧
          unit₀.singletonSessionId = unit.singletonSessionId := by
      intro id unit hu hne
      obtain ⟨unit₀, hu₀⟩ := Dict.mem_iff_lookup.1 ((h.newUnit id unit hu).resolve_right hne)
      obtain ⟨unit₁, hu₁, -, hsing⟩ := h.unit id unit₀ hu₀
      rw [hu] at hu₁
      cases hu₁
      exact ⟨unit₀, hu₀, hsing.symm⟩
    obtain ⟨unit₀, hu₀, hs₀⟩ := hold hu hne
    obtain ⟨unit₁, hu₁, hs₁⟩ := hold hu' (he ▸ hne)
    exact hs.unique id id' unit₀ unit₁ hu₀ hu₁ (by rw [hs₀, hs₁, he]) (by rwa [hs₀])

end Tended

/-- A provider is set: the Units and Sessions are those of the load. -/
theorem tenants_setAgentProvider {role provider : String}
    (h : s.setAgentProvider env role provider = .ok s') :
    ∃ t, s.load env = .ok t ∧ s'.units = t.units ∧ s'.sessions = t.sessions := by
  unfold setAgentProvider at h
  cases hrole : normalizeAgentRole role with
  | none => rw [hrole] at h; cases h
  | some r =>
    rw [hrole] at h
    obtain ⟨-, h⟩ := Except.require_bind_eq_ok.1 h
    obtain ⟨t, hl, h⟩ := Except.bind_eq_ok.1 h
    refine ⟨t, hl, ?_⟩
    generalize lower (strip provider) = provider at h
    split_ifs at h
    · rw [← Except.pure_eq_ok.1 h]
      exact ⟨rfl, rfl⟩
    · obtain ⟨⟨t₁, account, user⟩, h₁, h⟩ := Except.bind_eq_ok.1 h
      obtain ⟨-, h⟩ := Except.require_bind_eq_ok.1 h
      rw [← Except.pure_eq_ok.1 h]
      unfold ensureProviderServiceAccount at h₁
      cases hf : providerServiceAccounts.find? fun spec => spec.provider = lower (strip provider) with
      | none => rw [hf] at h₁; cases h₁
      | some spec =>
        rw [hf] at h₁
        dsimp only at h₁
        cases hu : t.users.lookup spec.account <;> rw [hu] at h₁ <;> cases h₁ <;> exact ⟨rfl, rfl⟩

/-- **An operation that starts no Session** leaves the Units as they are. -/
theorem tended_apply (hs : s.Housed) (hstart : ¬op.starts)
    (hop : ∀ username password groups, op ≠ .createUser username password groups)
    (h : op.apply env s = .ok s') :
    Tended (fun unitId => ∃ groups, op = .setUnitSpawnGroups unitId groups) s s' := by
  by_cases hr : op.isRoutine
  · rcases after_apply hr h with rfl | ⟨t, hl, hroutine⟩
    · exact .of_units rfl rfl
    · exact .after (hs.same_load hl) (.of_same hroutine.toSameTenants)
  cases op with
  | createUser username password groups => exact absurd rfl (hop username password groups)
  | createServiceUser username groups provider =>
    rw [Op.apply, createServiceUser] at h
    obtain ⟨-, h⟩ := Except.require_bind_eq_ok.1 h
    obtain ⟨-, h⟩ := Except.require_bind_eq_ok.1 h
    obtain ⟨t, hl, h⟩ := Except.bind_eq_ok.1 h
    obtain ⟨-, h⟩ := Except.require_bind_eq_ok.1 h
    rw [← Except.pure_eq_ok.1 h]
    exact .after (hs.same_load hl) (.of_units rfl rfl)
  | createUnit created spec =>
    rw [Op.apply, createUnit] at h
    obtain ⟨t, hl, h⟩ := Except.bind_eq_ok.1 h
    obtain ⟨schedule, -, h⟩ := Except.bind_eq_ok.1 h
    obtain ⟨triggers, -, h⟩ := Except.bind_eq_ok.1 h
    obtain ⟨hnew, h⟩ := Except.require_bind_eq_ok.1 h
    obtain ⟨-, h⟩ := Except.require_bind_eq_ok.1 h
    obtain ⟨-, h⟩ := Except.require_bind_eq_ok.1 h
    rw [← Except.pure_eq_ok.1 h]
    refine .after (hs.same_load hl) ⟨fun id unit hu => ?_, fun id unit' hu' => ?_, fun _ => .rfl⟩
    · have hne : id ≠ created := by
        rintro rfl
        exact hnew (Dict.mem_iff_lookup.2 ⟨unit, hu⟩)
      exact ⟨unit, (AList.lookup_insert_ne hne).trans hu, .inr rfl, rfl⟩
    · change AList.lookup id (AList.insert created _ t.units) = some unit' at hu'
      rw [Dict.lookup_insert_of] at hu'
      split_ifs at hu'
      · cases hu'
        exact .inr rfl
      · exact .inl (Dict.mem_iff_lookup.2 ⟨unit', hu'⟩)
  | setUnitSpawnGroups restricted groups =>
    rw [Op.apply, setUnitSpawnGroups] at h
    obtain ⟨t, hl, h⟩ := Except.bind_eq_ok.1 h
    obtain ⟨-, h⟩ := Except.require_bind_eq_ok.1 h
    rw [← Except.pure_eq_ok.1 h]
    refine .after (hs.same_load hl) ⟨fun id unit hu => ?_, fun id unit' hu' => ?_, fun _ => .rfl⟩
    · change ∃ unit', AList.lookup id (Dict.modify restricted _ t.units) = some unit' ∧ _
      by_cases hid : id = restricted
      · subst hid
        rw [Dict.lookup_modify_self, hu]
        exact ⟨_, rfl, .inl ⟨groups, rfl⟩, rfl⟩
      · rw [Dict.lookup_modify_ne _ _ hid]
        exact ⟨unit, hu, .inr rfl, rfl⟩
    · refine .inl (Dict.mem_modify.1 (Dict.mem_iff_lookup.2 ⟨unit', hu'⟩))
  | setAgentProvider role provider =>
    rw [Op.apply] at h
    obtain ⟨t, hl, hunits, hsessions⟩ := tenants_setAgentProvider h
    exact .after (hs.same_load hl) (.of_units hunits hsessions)
  | setAgentAccounts role accounts =>
    rw [Op.apply, setAgentAccounts] at h
    cases hrole : normalizeAgentRole role with
    | none => rw [hrole] at h; cases h
    | some r =>
      rw [hrole] at h
      obtain ⟨t, hl, h⟩ := Except.bind_eq_ok.1 h
      obtain ⟨-, -, h⟩ := Except.bind_eq_ok.1 h
      rw [← Except.pure_eq_ok.1 h]
      exact .after (hs.same_load hl) (.of_units rfl rfl)
  | linkSessions parent child =>
    rw [Op.apply, linkSessions] at h
    obtain ⟨t, hl, h⟩ := Except.bind_eq_ok.1 h
    obtain ⟨t₁, h₁, h⟩ := Except.bind_eq_ok.1 h
    rw [← Except.pure_eq_ok.1 h]
    exact .after (hs.same_load hl) (.of_same ((same_link h₁).trans (routine_save t₁).toSameTenants))
  | restart =>
    obtain ⟨⟨memory, s₁⟩, hi, rfl⟩ := Except.map_eq_ok.1 h
    obtain ⟨loaded, ensured, hl, he, rfl | rfl⟩ := initExisting_cases hi
    · refine .after (hs.same_load hl) (.after ((hs.load hl).same_defaults he) (.of_same ?_))
      exact (Routine.save ((routine_replay ensured).trans (routine_refresh _ env))).toSameTenants
    · exact .of_units rfl rfl
  | createSession => exact absurd rfl hstart
  | startGoalSession => exact absurd rfl hstart
  | runScheduledUnits => exact absurd rfl hstart
  | runStartupUnits => exact absurd rfl hstart
  | _ => exact absurd rfl hr

/-! ## New users -/

/-- The homes leave the spawn groups alone. -/
theorem groups_createUser (hs : s.Housed) {username password : String} {groups : List String}
    {unit : UnitRecord} (h : s.createUser env username password groups = .ok s')
    (hu : s.units.lookup unitId = some unit) :
    ∃ unit', s'.units.lookup unitId = some unit' ∧ unit'.spawnGroups = unit.spawnGroups := by
  obtain ⟨t, t', user, -, he, rfl⟩ := enlisted_of_createUser hs h
  obtain ⟨unit₁, hu₁, hk⟩ := he.same.unit_after hu
  rw [← hk.groups]
  have hcan := he.furnished.canHouse
  rcases housed_post hcan he.homes unitId with ⟨n, hn, rfl, -⟩ | ⟨hsame, -⟩
  · obtain ⟨v, unit', -, hunit', hnew⟩ := housed_unit hcan he.homes hn
    have hbefore : (t.enlist (strip username) user).units = t.units := rfl
    rw [hbefore, hu₁] at hnew
    exact ⟨unit', hunit', hnew.groups⟩
  · exact ⟨unit₁, hsame.trans hu₁, rfl⟩

/-- The Session of a new user is the home, in the home Unit. -/
theorem unit_createUser (hs : s.Housed) {username password : String} {groups : List String}
    {session : Session} (h : s.createUser env username password groups = .ok s')
    (hnew : sid ∉ s.sessions) (hlook : s'.sessions.lookup sid = some session) :
    session.unitId = accountHomeSessionId (strip username) := by
  obtain ⟨t, t', user, -, he, rfl⟩ := enlisted_of_createUser hs h
  have hcan := he.furnished.canHouse
  have hpost : t'.post sid = some ⟨session.unitId, session.singleton⟩ := by
    have hsave : t'.save.sessions = t'.sessions := rfl
    rw [post, ← hsave, hlook]
    rfl
  rcases housed_post hcan he.homes sid with ⟨n, hn, rfl, hhome⟩ | ⟨-, hsame⟩
  · have hunit := congrArg Post.unitId (Option.some.inj (hpost.symm.trans hhome))
    rcases (he.login n).1 ((housed_login hcan he.homes n).2 hn) with rfl | hlogin
    · exact hunit
    · exact absurd (he.same.mem_sessions.1 (mem_sessions_iff.2 ⟨_, he.housed.homePost n hlogin⟩)) hnew
  · exact absurd (he.same.mem_sessions.1 (mem_sessions_iff.2 ⟨_, hsame.symm.trans hpost⟩)) hnew

/-- Once a user has been created, a Unit is a home, or it is as it was. -/
theorem Enlisted.unit_cases {t t' : State} {name now : String} {user : User}
    (he : Enlisted s t t' name user now) {unit : UnitRecord}
    (hu : t'.units.lookup unitId = some unit) :
    (∃ n, t'.Login n ∧ accountHomeSessionId n = unitId ∧ unit.singletonSessionId = unitId) ∨
      t.units.lookup unitId = some unit := by
  have hcan := he.furnished.canHouse
  rcases housed_post hcan he.homes unitId with ⟨n, hn, rfl, -⟩ | ⟨hsame, -⟩
  · obtain ⟨v, unit', -, hu', hnew⟩ := housed_unit hcan he.homes hn
    rw [hu] at hu'
    cases hu'
    exact .inl ⟨n, (housed_login hcan he.homes n).2 hn, rfl, hnew.singleton⟩
  · exact .inr (hsame.symm.trans hu)

theorem linked_createUser (hs : s.Housed) (hlinked : s.Linked) {username password : String}
    {groups : List String} (h : s.createUser env username password groups = .ok s') : s'.Linked := by
  obtain ⟨t, t', user, -, he, rfl⟩ := enlisted_of_createUser hs h
  have ht := hlinked.same he.same
  refine Linked.same ⟨fun id unit hu => ?_⟩ (routine_save t').toSameTenants
  rcases he.unit_cases hu with ⟨n, hn, rfl, hsing⟩ | hu
  · rw [hsing]
    exact .inr (mem_sessions_iff.2 ⟨_, he.housed'.homePost n hn⟩)
  · exact (ht.linked id unit hu).imp_right fun hmem =>
      housed_sessions he.furnished.canHouse he.homes hmem

/-- The Session that becomes the home of the user is not the one Session of another Unit. -/
def NotTaken (s : State) (name : String) : Prop :=
  ∀ id unit, s.units.lookup id = some unit →
    unit.singletonSessionId = accountHomeSessionId name → id = accountHomeSessionId name

theorem sole_createUser (hs : s.Housed) (hsole : s.Sole) {username password : String}
    {groups : List String} (h : s.createUser env username password groups = .ok s')
    (htaken : s.NotTaken (strip username)) : s'.Sole := by
  refine ⟨linked_createUser hs hsole.toLinked h, ?_⟩
  obtain ⟨t, t', user, -, he, rfl⟩ := enlisted_of_createUser hs h
  have ht := hsole.same he.same
  -- No Unit that is not a home has a home as its Session.
  have hother : ∀ {id id' unit}, (∃ n, t'.Login n ∧ accountHomeSessionId n = id) →
      t.units.lookup id' = some unit → unit.singletonSessionId = id → id' = id := by
    rintro id id' unit ⟨n, hn, rfl⟩ hu hid
    rcases (he.login n).1 hn with rfl | hn
    · obtain ⟨unit₀, hu₀, hk⟩ := he.same.unit_before hu
      exact htaken id' unit₀ hu₀ (hk.singleton.symm.trans hid)
    · obtain ⟨v, unit₁, -, hu₁, -, hsing, -⟩ := he.housed.homeUnit n hn
      refine ht.unique id' _ unit unit₁ hu hu₁ (hid.trans hsing.symm) ?_
      rw [hid]
      intro hblank
      exact home_ne_empty n (by rw [hblank]; decide)
  intro id id' unit unit' hu hu' hsame hne
  rcases he.unit_cases hu with ⟨n, hn, hid, hsing⟩ | hu
  · rcases he.unit_cases hu' with ⟨n', hn', hid', hsing'⟩ | hu'
    · rw [← hsing, ← hsing', hsame]
    · exact (hother ⟨n, hn, hid⟩ hu' (hsame.symm.trans hsing)).symm
  · rcases he.unit_cases hu' with ⟨n', hn', hid', hsing'⟩ | hu'
    · exact hother ⟨n', hn', hid'⟩ hu (hsame.trans hsing')
    · exact ht.unique id id' unit unit' hu hu' hsame hne

end State

open State

/-! ## The desk -/

/-- The store, and the spawn groups that its Units have been given and still have. -/
structure Desk where
  sys : Sys
  given : String → List String := fun _ => []

namespace Desk

variable {d : Desk} {a : Env × Command}

/-- The state after a command; one that raises changes nothing. -/
def next (d : Desk) (a : Env × Command) : Desk :=
  match a.2.op d.sys.store a.1 with
  | .error _ => d
  | .ok op =>
    match op.exec a.1 d.sys with
    | .error _ => d
    | .ok sys =>
      ⟨sys, match a.2.gives with
        | none => d.given
        | some (unitId, groups) => Function.update d.given unitId (normalizeSpawnGroups groups)⟩

/-- **The restriction holds for one command**: a Session that it makes for a restricted Unit is
    on behalf of a member, and so is the start of the one Session that the Unit has. -/
structure Enforced (d : Desk) (a : Env × Command) : Prop where
  created : ∀ unitId sid session, d.given unitId ≠ [] → sid ∉ d.sys.store.sessions →
    (d.next a).sys.store.sessions.lookup sid = some session → session.unitId = unitId →
      ∃ user, a.2.ActsFor d.sys.store unitId user ∧ d.sys.store.Member user (d.given unitId)
  started : ∀ unitId unit, d.given unitId ≠ [] → a.2.starts →
    d.sys.store.units.lookup unitId = some unit → unit.singletonSessionId ∈ d.sys.store.sessions →
    d.sys.store.Touched (d.next a).sys.store unit.singletonSessionId →
      ∃ user, a.2.ActsFor d.sys.store unitId user ∧ d.sys.store.Member user (d.given unitId)

/-- The command takes none of the ways around the restriction. -/
structure Proper (d : Desk) (a : Env × Command) : Prop where
  /-- `create-unit` is called without a spawn group -/
  flag : ∀ unitId spec, a.2 = .createUnit unitId spec → normalizeSpawnGroups spec.spawnGroups = []
  /-- no new home is the one Session of another Unit, or a restricted Unit -/
  home : ∀ username password groups, a.2 = .other (.createUser username password groups) →
    d.sys.store.NotTaken (strip username) ∧ d.given (accountHomeSessionId (strip username)) = []

/-- What holds before every command. -/
structure Closed (d : Desk) : Prop where
  reachable : storeSystem.Reachable d.sys
  sole : d.sys.store.Sole
  groups : ∀ unitId, d.given unitId ≠ [] → ∃ unit, d.sys.store.units.lookup unitId = some unit ∧
    unit.spawnGroups = d.given unitId

end Desk

/-- The desk: the store is new, and no Unit is restricted. -/
def deskSystem : TransitionSystem Desk (Env × Command) where
  init d := storeSystem.init d.sys ∧ d.given = fun _ => []
  step d a d' := d' = d.next a

/-! ## One command -/

/-- An operation with a lease leaves the tenants alone; the others work on the store. -/
theorem exec_tenants {env : Env} {sys sys' : Sys} {op : Op} (hs : sys.store.Housed)
    (h : op.exec env sys = .ok sys') : op.apply env sys.store = .ok sys'.store ∨
      ¬op.starts ∧ SameTenants sys.store sys'.store := by
  cases op with
  | acquire filter =>
    obtain ⟨⟨s', lease⟩, ha, h⟩ := Except.bind_eq_ok.1 h
    rw [← Except.pure_eq_ok.1 h]
    refine .inr ⟨nofun, ?_⟩
    obtain ⟨t, hl, ⟨-, -, rfl | rfl⟩ | ⟨c, goal, session, -, -, rfl, -⟩⟩ := acquire_cases ha
    · exact .refl _
    · exact (hs.same_load hl).trans (routine_chosenEntry ..).save.toSameTenants
    · refine (hs.same_load hl).trans ((routine_chosenEntry t env filter).toSameTenants.trans ?_)
      exact (unmoved_leaseEntry _ env c goal session).toSameTenants.trans
        (routine_save _).toSameTenants
  | commit lease agentEnd =>
    obtain ⟨-, h⟩ := Except.require_bind_eq_ok.1 h
    obtain ⟨s', hc, h⟩ := Except.bind_eq_ok.1 h
    rw [← Except.pure_eq_ok.1 h]
    refine .inr ⟨nofun, ?_⟩
    rcases after_commit hc with rfl | ⟨t, hl, hr⟩
    · exact .refl _
    · exact (hs.same_load hl).trans hr.toSameTenants
  | _ =>
    obtain ⟨s', hs', h⟩ := Except.bind_eq_ok.1 h
    rw [← Except.pure_eq_ok.1 h]
    exact .inl hs'

namespace Desk

variable {d : Desk} {a : Env × Command}

/-- A command either changes nothing, or it is one step of the store. -/
theorem next_cases (d : Desk) (a : Env × Command) : d.next a = d ∨
    ∃ op sys', a.2.op d.sys.store a.1 = .ok op ∧ op.exec a.1 d.sys = .ok sys' ∧
      d.next a = ⟨sys', match a.2.gives with
        | none => d.given
        | some (unitId, groups) =>
          Function.update d.given unitId (normalizeSpawnGroups groups)⟩ := by
  unfold next
  cases hop : a.2.op d.sys.store a.1 with
  | error => exact .inl rfl
  | ok op =>
    dsimp only
    cases hexec : op.exec a.1 d.sys with
    | error => exact .inl rfl
    | ok sys' => exact .inr ⟨op, sys', rfl, hexec, rfl⟩

/-- Whoever passes for a restricted Unit is a member. -/
theorem Closed.member (hd : d.Closed) {acts : String → String → Prop} {unitId : String}
    (hgiven : d.given unitId ≠ []) (h : Passes acts d.sys.store unitId) :
    ∃ user, acts unitId user ∧ d.sys.store.Member user (d.given unitId) := by
  obtain ⟨unit, hunit, hgroups⟩ := hd.groups unitId hgiven
  obtain ⟨user, hacts, hpass⟩ := h
  have hmember := hpass unit hunit
  rw [hgroups] at hmember
  exact ⟨user, hacts, hmember.resolve_left hgiven⟩

/-- Nobody without a name is in a group. -/
theorem not_member_blank (hs : d.sys.store.Housed) (groups : List String) :
    ¬d.sys.store.Member "" groups := by
  rintro ⟨g, hg, -⟩
  cases hu : d.sys.store.users.lookup "" with
  | none => rw [hu] at hg; cases hg
  | some user => exact (hs.name "" user hu).2 rfl

/-- Who acts for a command that calls an operation. -/
theorem actsFor_of_op (hs : d.sys.store.Housed) {op : Op} {unitId user : String}
    {groups : List String} (hop : a.2.op d.sys.store a.1 = .ok op)
    (hacts : op.ActsFor d.sys.store unitId user) (hm : d.sys.store.Member user groups) :
    a.2.ActsFor d.sys.store unitId user := by
  obtain ⟨env, c⟩ := a
  cases c with
  | createUnit => cases hop; cases hacts
  | setUnitSpawnGroups => cases hop; cases hacts
  | createSession =>
    obtain ⟨parents, rfl⟩ := Command.op_createSession hop
    exact hacts
  | startGoal =>
    obtain ⟨parents, rfl⟩ := Command.op_startGoal hop
    exact hacts
  | console account named current line =>
    have hname : user = (if named then account else "") → user = account := by
      rintro rfl
      cases named with
      | true => rfl
      | false => exact absurd hm (not_member_blank hs groups)
    cases line with
    | session | unitSession => cases hop; exact hname hacts
    | goal | unitGoal => cases hop; exact hacts
    | createUnit | setActive | setUnitActive | setPolicy | send | sendFile | updateGoal =>
      cases hop
      cases hacts
  | other op => cases hop; exact hacts

/-- A command that starts Sessions calls an operation that does. -/
theorem starts_of_command {op : Op} (hop : a.2.op d.sys.store a.1 = .ok op) (h : a.2.starts) :
    op.starts := by
  obtain ⟨env, c⟩ := a
  cases c with
  | createUnit => cases h
  | setUnitSpawnGroups => cases h
  | createSession =>
    obtain ⟨parents, rfl⟩ := Command.op_createSession hop
    rfl
  | startGoal =>
    obtain ⟨parents, rfl⟩ := Command.op_startGoal hop
    rfl
  | console account named current line =>
    cases line with
    | session | unitSession | goal | unitGoal => cases hop; rfl
    | createUnit | setActive | setUnitActive | setPolicy | send | sendFile | updateGoal => cases h
  | other op => cases hop; exact h

/-- Only as the operation itself is a user created. -/
theorem createUser_cases {username password : String} {groups : List String}
    (hop : a.2.op d.sys.store a.1 = .ok (.createUser username password groups)) :
    a.2 = .other (.createUser username password groups) := by
  obtain ⟨env, c⟩ := a
  cases c with
  | createSession =>
    obtain ⟨parents, h⟩ := Command.op_createSession hop
    cases h
  | startGoal =>
    obtain ⟨parents, h⟩ := Command.op_startGoal hop
    cases h
  | console account named current line => cases line <;> cases hop
  | other op => cases hop; rfl
  | _ => cases hop

/-- **One command.** -/
theorem Closed.enforced (hd : d.Closed) (ha : d.Proper a) : d.Enforced a := by
  have hs := housed_reachable hd.reachable
  have hst := (reachable_inv hd.reachable).stored
  rcases d.next_cases a with hsame | ⟨op, sys', hop, hexec, hnext⟩
  · constructor
    · intro unitId sid session _ hnew hlook _
      rw [hsame] at hlook
      exact absurd (Dict.mem_iff_lookup.2 ⟨session, hlook⟩) hnew
    · intro unitId unit _ _ _ _ htouched
      rw [hsame] at htouched
      exact htouched.elim (absurd rfl) (absurd rfl)
  have hstore : (d.next a).sys = sys' := by rw [hnext]
  by_cases hstart : op.starts
  · have happly := (exec_tenants hs hexec).resolve_right fun h => h.1 hstart
    have hguard := guarded_apply hst hs hstart happly
    have found : ∀ {unitId}, d.given unitId ≠ [] →
        Passes (fun unitId user => op.ActsFor d.sys.store unitId user) d.sys.store unitId →
          ∃ user, a.2.ActsFor d.sys.store unitId user ∧
            d.sys.store.Member user (d.given unitId) := by
      intro unitId hgiven hpass
      obtain ⟨user, hacts, hm⟩ := hd.member hgiven hpass
      exact ⟨user, actsFor_of_op hs hop hacts hm, hm⟩
    constructor
    · rintro unitId sid session hgiven hnew hlook rfl
      rw [hstore] at hlook
      have hpost : sys'.store.post sid = some ⟨session.unitId, session.singleton⟩ := by
        rw [post, hlook]
        rfl
      refine found hgiven ((hguard.post sid _ hnew hpost).resolve_left fun hblank => ?_)
      obtain ⟨unit, hunit, -⟩ := hd.groups _ hgiven
      exact hs.blank (Dict.mem_iff_lookup.2 ⟨unit, hblank ▸ hunit⟩)
    · intro unitId unit hgiven _ hunit hmem htouched
      rw [hstore] at htouched
      obtain ⟨unitId', unit', hunit', hsing, hpass⟩ := hguard.touched _ hmem htouched
      have hne : unit.singletonSessionId ≠ "" := by
        obtain ⟨p, hp⟩ := mem_sessions_iff.1 hmem
        intro hblank
        exact hs.sessionId _ p hp (by rw [hblank]; decide)
      obtain rfl := hd.sole.unique unitId unitId' unit unit' hunit hunit' hsing.symm hne
      exact found hgiven hpass
  · refine ⟨fun unitId sid session hgiven hnew hlook hunit => ?_, fun _ _ _ hstarts =>
      absurd (starts_of_command hop hstarts) hstart⟩
    rw [hstore] at hlook
    have hmem := Dict.mem_iff_lookup.2 ⟨session, hlook⟩
    rcases exec_tenants hs hexec with happly | ⟨-, hsame⟩
    · by_cases hcreate : ∃ username password groups, op = .createUser username password groups
      · -- The only new Session is the home, and the home Unit is not restricted.
        obtain ⟨username, password, groups, rfl⟩ := hcreate
        rw [Op.apply] at happly
        have hhome := hunit.symm.trans (unit_createUser hs happly hnew hlook)
        exact absurd (hhome ▸ (ha.home username password groups (createUser_cases hop)).2) hgiven
      · push Not at hcreate
        exact absurd (((tended_apply hs hstart hcreate happly).session sid).1 hmem) hnew
    · exact absurd (hsame.mem_sessions.1 hmem) hnew

/-- The spawn groups that a command gives, as the operation knows them. -/
theorem gives_cases {op : Op} (hop : a.2.op d.sys.store a.1 = .ok op) (ha : d.Proper a) :
    match a.2.gives with
    | none => ∀ unitId groups, op ≠ .setUnitSpawnGroups unitId groups
    | some (unitId, groups) => op = .setUnitSpawnGroups unitId groups ∨
        (∀ unitId groups, op ≠ .setUnitSpawnGroups unitId groups) ∧
          (normalizeSpawnGroups groups = [] ∨
            ∃ spec, op = .createUnit unitId spec ∧ spec.spawnGroups = groups) := by
  obtain ⟨env, c⟩ := a
  cases c with
  | createUnit unitId spec =>
    cases hop
    exact .inr ⟨by rintro _ _ ⟨⟩, .inl (ha.flag unitId spec rfl)⟩
  | setUnitSpawnGroups unitId groups clear => cases hop; exact .inl rfl
  | createSession =>
    obtain ⟨parents, rfl⟩ := Command.op_createSession hop
    rintro unitId groups ⟨⟩
  | startGoal =>
    obtain ⟨parents, rfl⟩ := Command.op_startGoal hop
    rintro unitId groups ⟨⟩
  | console account named current line =>
    cases line with
    | createUnit unitId => cases hop; exact .inr ⟨by rintro _ _ ⟨⟩, .inl rfl⟩
    | _ => rintro unitId groups rfl; cases hop
  | other op' =>
    cases hop
    cases op with
    | createUnit unitId spec => exact .inr ⟨by rintro _ _ ⟨⟩, .inr ⟨spec, rfl, rfl⟩⟩
    | setUnitSpawnGroups unitId groups => exact .inl rfl
    | _ => rintro unitId groups ⟨⟩

/-- A restriction stays. -/
theorem groups_exec {env : Env} {sys sys' : Sys} {op : Op} {unitId : String} {unit : UnitRecord}
    (hst : sys.store.Stored) (hs : sys.store.Housed) (h : op.exec env sys = .ok sys')
    (hop : ∀ groups, op ≠ .setUnitSpawnGroups unitId groups)
    (hu : sys.store.units.lookup unitId = some unit) : ∃ unit',
      sys'.store.units.lookup unitId = some unit' ∧ unit'.spawnGroups = unit.spawnGroups := by
  rcases exec_tenants hs h with happly | ⟨-, hsame⟩
  · by_cases hstart : op.starts
    · have hgate := (guarded_apply hst hs hstart happly).gate unitId
      rw [hu] at hgate
      obtain ⟨unit', hu', hg⟩ := Option.map_eq_some_iff.1 hgate
      exact ⟨unit', hu', congrArg Prod.snd hg⟩
    by_cases hcreate : ∃ username password groups, op = .createUser username password groups
    · obtain ⟨username, password, groups, rfl⟩ := hcreate
      rw [Op.apply] at happly
      exact groups_createUser hs happly hu
    · push Not at hcreate
      obtain ⟨unit', hu', hgroups, -⟩ := (tended_apply hs hstart hcreate happly).unit unitId unit hu
      refine ⟨unit', hu', hgroups.resolve_left ?_⟩
      rintro ⟨groups, he⟩
      exact hop groups he
  · obtain ⟨unit', hu', hk⟩ := hsame.unit_after hu
    exact ⟨unit', hu', hk.groups⟩

/-- A Unit is restricted. -/
theorem groups_given {env : Env} {sys sys' : Sys} {op : Op} {unitId : String} {groups : List String}
    (h : op.exec env sys = .ok sys') (hop : op = .setUnitSpawnGroups unitId groups ∨
      ∃ spec, op = .createUnit unitId spec ∧ spec.spawnGroups = groups) :
    ∃ unit, sys'.store.units.lookup unitId = some unit ∧
      unit.spawnGroups = normalizeSpawnGroups groups := by
  rcases hop with rfl | ⟨spec, rfl, rfl⟩
  · obtain ⟨s', hs', h⟩ := Except.bind_eq_ok.1 h
    rw [← Except.pure_eq_ok.1 h]
    rw [Op.apply, setUnitSpawnGroups] at hs'
    obtain ⟨t, -, hs'⟩ := Except.bind_eq_ok.1 hs'
    obtain ⟨hmem, hs'⟩ := Except.require_bind_eq_ok.1 hs'
    obtain ⟨unit, hu⟩ := Dict.mem_iff_lookup.1 hmem
    rw [← Except.pure_eq_ok.1 hs']
    refine ⟨{ unit with spawnGroups := normalizeSpawnGroups groups }, ?_, rfl⟩
    change AList.lookup unitId (Dict.modify unitId _ t.units) = _
    rw [Dict.lookup_modify_self, hu]
    rfl
  · obtain ⟨s', hs', h⟩ := Except.bind_eq_ok.1 h
    rw [← Except.pure_eq_ok.1 h]
    rw [Op.apply, createUnit] at hs'
    obtain ⟨t, -, hs'⟩ := Except.bind_eq_ok.1 hs'
    obtain ⟨schedule, -, hs'⟩ := Except.bind_eq_ok.1 hs'
    obtain ⟨triggers, -, hs'⟩ := Except.bind_eq_ok.1 hs'
    obtain ⟨-, hs'⟩ := Except.require_bind_eq_ok.1 hs'
    obtain ⟨-, hs'⟩ := Except.require_bind_eq_ok.1 hs'
    obtain ⟨-, hs'⟩ := Except.require_bind_eq_ok.1 hs'
    rw [← Except.pure_eq_ok.1 hs']
    exact ⟨_, AList.lookup_insert _, rfl⟩

theorem sole_exec {env : Env} {sys sys' : Sys} {op : Op} (hst : sys.store.Stored)
    (hs : sys.store.Housed) (hsole : sys.store.Sole) (h : op.exec env sys = .ok sys')
    (htaken : ∀ username password groups, op = .createUser username password groups →
      sys.store.NotTaken (strip username)) : sys'.store.Sole := by
  rcases exec_tenants hs h with happly | ⟨-, hsame⟩
  · by_cases hstart : op.starts
    · exact (guarded_apply hst hs hstart happly).sole hsole
    by_cases hcreate : ∃ username password groups, op = .createUser username password groups
    · obtain ⟨username, password, groups, rfl⟩ := hcreate
      rw [Op.apply] at happly
      exact sole_createUser hs hsole happly (htaken username password groups rfl)
    · push Not at hcreate
      exact (tended_apply hs hstart hcreate happly).sole hsole
  · exact hsole.same hsame

/-- **A command keeps what holds before every command.** -/
theorem Closed.next (hd : d.Closed) (ha : d.Proper a) : (d.next a).Closed := by
  have hs := housed_reachable hd.reachable
  have hst := (reachable_inv hd.reachable).stored
  rcases d.next_cases a with hsame | ⟨op, sys', hop, hexec, hnext⟩
  · rwa [hsame]
  rw [hnext]
  have hgives := gives_cases hop ha
  have kept : ∀ {unitId}, (∀ groups, op ≠ .setUnitSpawnGroups unitId groups) →
      d.given unitId ≠ [] → ∃ unit, sys'.store.units.lookup unitId = some unit ∧
        unit.spawnGroups = d.given unitId := by
    intro unitId hset hgiven
    obtain ⟨unit, hu, hgroups⟩ := hd.groups unitId hgiven
    obtain ⟨unit', hu', hgroups'⟩ := groups_exec hst hs hexec hset hu
    exact ⟨unit', hu', hgroups'.trans hgroups⟩
  refine ⟨hd.reachable.step (a := ⟨a.1, op⟩) ?_, ?_, fun unitId hgiven => ?_⟩
  · change sys' = d.sys.next ⟨a.1, op⟩
    unfold Sys.next
    rw [hexec]
  · refine sole_exec hst hs hd.sole hexec fun username password groups he => ?_
    subst he
    exact (ha.home username password groups (createUser_cases hop)).1
  · cases hg : a.2.gives with
    | none =>
      rw [hg] at hgives hgiven
      exact kept (hgives unitId) hgiven
    | some gift =>
      obtain ⟨restricted, groups⟩ := gift
      rw [hg] at hgives hgiven
      dsimp only at hgives hgiven ⊢
      by_cases he : unitId = restricted
      · subst he
        rw [Function.update_self] at hgiven ⊢
        exact groups_given hexec (hgives.imp_right fun h => h.2.resolve_left hgiven)
      · rw [Function.update_of_ne he] at hgiven ⊢
        refine kept (fun groups' hop' => ?_) hgiven
        rcases hgives with hset | ⟨hset, -⟩
        · rw [hop'] at hset
          exact he (Op.setUnitSpawnGroups.inj hset).1
        · exact hset _ _ hop'

end Desk

/-! ## Runs -/

/-- The Units of a new store. -/
theorem units_initNew {env : Env} {s : State} (h : State.initNew env = .ok s) {id : String}
    (hid : id ∈ s.units) : id = rootUnitId ∨ id = accountHomeSessionId rootUsername := by
  obtain ⟨s₁, s₂, h₁, h₂, hsame⟩ := initNew_same h
  have hcan := (furnished_new h₁).canHouse
  obtain ⟨unit, hu⟩ := Dict.mem_iff_lookup.1 (hsame.mem_units.1 hid)
  rcases housed_post hcan h₂ id with ⟨n, hn, rfl, -⟩ | ⟨hunits, -⟩
  · have hlogin := (housed_login hcan h₂ n).2 hn
    rw [login_initNew h (hsame.login_iff.2 hlogin)]
    exact .inr rfl
  · have hnew : s₁.ensureAccounts.units = newUnits.units := by
      rw [← Except.ok.inj h₁]
      rfl
    rw [hunits, hnew] at hu
    have hall : ∀ e ∈ newUnits.units.entries, e.1 = rootUnitId := by decide +kernel
    exact .inl (hall ⟨id, unit⟩ (AList.mem_lookup_iff.1 hu))

/-- The root user can log in to a new store. -/
theorem root_login_initNew {env : Env} {s : State} (h : State.initNew env = .ok s) :
    s.Login rootUsername := by
  obtain ⟨s₁, s₂, h₁, h₂, hsame⟩ := initNew_same h
  refine hsame.login_iff.2 ((housed_login (furnished_new h₁).canHouse h₂ rootUsername).2 ?_)
  have hnew : s₁.ensureAccounts.users = (State.ensureAccounts {}).users := by
    rw [← Except.ok.inj h₁]
    rfl
  have hany : ((State.ensureAccounts {}).users.lookup rootUsername).any
      fun user => user.status = .active := by decide +kernel
  obtain ⟨user, hu, ha⟩ := (Option.any_eq_true _ _).1 hany
  exact ⟨user, (congrArg (AList.lookup rootUsername) hnew).trans hu, of_decide_eq_true ha⟩

/-- In a new store every Session is the one Session of at most one Unit. -/
theorem sole_initNew {env : Env} {s : State} (h : State.initNew env = .ok s) : s.Sole := by
  have hs := housed_initNew h
  have hlogin := root_login_initNew h
  obtain ⟨root, hroot, -, hrs, -⟩ := hs.rootUnit
  obtain ⟨v, home, -, hhome, -, hhs, -⟩ := hs.homeUnit rootUsername hlogin
  have hcases : ∀ {id unit}, s.units.lookup id = some unit →
      id = rootUnitId ∧ unit.singletonSessionId = rootSessionId ∨
        id = accountHomeSessionId rootUsername ∧
          unit.singletonSessionId = accountHomeSessionId rootUsername := by
    intro id unit hu
    rcases units_initNew h (Dict.mem_iff_lookup.2 ⟨unit, hu⟩) with rfl | rfl
    · rw [hroot] at hu
      cases hu
      exact .inl ⟨rfl, hrs⟩
    · rw [hhome] at hu
      cases hu
      exact .inr ⟨rfl, hhs⟩
  refine ⟨⟨fun id unit hu => ?_⟩, fun id id' unit unit' hu hu' hsame _ => ?_⟩
  · rcases hcases hu with ⟨-, hsing⟩ | ⟨-, hsing⟩ <;> rw [hsing]
    · exact .inr (mem_sessions_iff.2 ⟨_, hs.rootPost⟩)
    · exact .inr (mem_sessions_iff.2 ⟨_, hs.homePost _ hlogin⟩)
  · rcases hcases hu with ⟨hid, hsing⟩ | ⟨hid, hsing⟩ <;>
      rcases hcases hu' with ⟨hid', hsing'⟩ | ⟨hid', hsing'⟩
    · exact hid.trans hid'.symm
    · rw [hsing, hsing'] at hsame
      exact absurd hsame.symm (home_ne_root _)
    · rw [hsing, hsing'] at hsame
      exact absurd hsame (home_ne_root _)
    · exact hid.trans hid'.symm

theorem Desk.closed_init {d : Desk} (h : deskSystem.init d) : d.Closed := by
  obtain ⟨hinit, hgiven⟩ := h
  refine ⟨.init hinit, ?_, fun unitId h => absurd (congrFun hgiven unitId) h⟩
  obtain ⟨env, hs, -⟩ := hinit
  exact sole_initNew hs

/-- **Spawn groups are enforced** in every run in which no `create-unit` has a spawn group, and no
    new home is a restricted Unit or the Session of another Unit. -/
theorem spawn_groups_enforced {d : Desk} (h : (deskSystem.restrict Desk.Proper).Reachable d)
    {a : Env × Command} (ha : d.Proper a) : d.Enforced a := by
  have hclosed : d.Closed := by
    refine h.of_step (P := Desk.Closed) (fun d hd => Desk.closed_init hd) ?_
    rintro d a d' - hd ⟨rfl, ha⟩
    exact hd.next ha
  exact hclosed.enforced ha

/-- A desk with a new store. -/
def newDesk : Desk := { sys := newStore }

/-- A Unit that is restricted to administrators. -/
def restrict : List (Env × Command) :=
  [(clock 1, .createUnit "u" {}), (clock 2, .setUnitSpawnGroups "u" ["admin"] false)]

/-- The root user starts a Session of the Unit. -/
theorem spawn_groups_enforced_restricted :
    "x" ∈ ((restrict.foldl Desk.next newDesk).next
      (clock 3, .createSession "x" "u" (some ["root"]) "root")).sys.store.sessions ∧
    (restrict.foldl Desk.next newDesk).Enforced
      (clock 3, .createSession "x" "u" (some ["root"]) "root") := by
  have hnew : (deskSystem.restrict Desk.Proper).Reachable newDesk := .init ⟨init_newStore, rfl⟩
  have hcreate : newDesk.Proper (clock 1, .createUnit "u" {}) :=
    ⟨by rintro _ _ ⟨⟩; rfl, by rintro _ _ _ ⟨⟩⟩
  have hset : (newDesk.next (clock 1, .createUnit "u" {})).Proper
      (clock 2, .setUnitSpawnGroups "u" ["admin"] false) :=
    ⟨by rintro _ _ ⟨⟩, by rintro _ _ _ ⟨⟩⟩
  refine ⟨by decide +kernel, spawn_groups_enforced ((hnew.step ⟨rfl, hcreate⟩).step ⟨rfl, hset⟩)
    ⟨by rintro _ _ ⟨⟩, by rintro _ _ _ ⟨⟩⟩⟩

/-! ## Every way to activate -/

/-- **The restriction holds for every activation**: the console does not activate the one Session
    of a restricted Unit for somebody else, either. -/
structure Desk.Gated (d : Desk) (a : Env × Command) : Prop extends d.Enforced a where
  activated : ∀ account named current unitId unit,
    a.2 = .console account named current (.setActive true) → d.given unitId ≠ [] →
    d.sys.store.units.lookup unitId = some unit → unit.singletonSessionId = current →
    (d.next a).sys.store.activeFlag current ≠ d.sys.store.activeFlag current →
      d.sys.store.Member account (d.given unitId)

/-- The command takes none of the ways around the restriction, `activate` among them. -/
structure Desk.Strict (d : Desk) (a : Env × Command) : Prop extends d.Proper a where
  /-- the Session of a restricted Unit is active, or a member activates it -/
  activate : ∀ account named current unitId unit,
    a.2 = .console account named current (.setActive true) → d.given unitId ≠ [] →
    d.sys.store.units.lookup unitId = some unit → unit.singletonSessionId = current →
    d.sys.store.activeFlag current = some true ∨ d.sys.store.Member account (d.given unitId)

theorem State.activeFlag_setSessionActive {s s' : State} {env : Env} {sid : String} {active : Bool}
    (h : s.setSessionActive env sid active = .ok s') : s'.activeFlag sid = some active := by
  unfold setSessionActive at h
  obtain ⟨t, -, h⟩ := Except.bind_eq_ok.1 h
  cases hlook : t.sessions.lookup sid with
  | none => simp only [hlook] at h; cases h
  | some session =>
    simp only [hlook] at h
    obtain rfl := Except.pure_eq_ok.1 h
    change Option.map Session.active (AList.lookup sid (logSessionActiveChange ..).sessions) = _
    unfold logSessionActiveChange
    rw [sessions_append]
    unfold modifySession
    dsimp only
    rw [Dict.lookup_modify_self, hlook]
    rfl

/-- An `activate` leaves an active Session as it is. -/
theorem Desk.Closed.gated {d : Desk} (hd : d.Closed) {a : Env × Command} (ha : d.Strict a) :
    d.Gated a := by
  refine ⟨hd.enforced ha.toProper, fun account named current unitId unit hline hgiven hunit hsing
    hchanged => (ha.activate account named current unitId unit hline hgiven hunit
      hsing).resolve_left fun hactive => hchanged ?_⟩
  rcases d.next_cases a with hsame | ⟨op, sys', hop, hexec, hnext⟩
  · rw [hsame]
  · rw [hline] at hop
    cases hop
    obtain ⟨s', hs', hexec⟩ := Except.bind_eq_ok.1 hexec
    rw [hnext, hactive, ← Except.pure_eq_ok.1 hexec]
    rw [Op.apply] at hs'
    exact activeFlag_setSessionActive hs'

/-- **Every activation is gated** in every run whose commands are strict. -/
theorem activation_gated {d : Desk} (h : (deskSystem.restrict Desk.Strict).Reachable d)
    {a : Env × Command} (ha : d.Strict a) : d.Gated a := by
  have hclosed : d.Closed := by
    refine h.of_step (P := Desk.Closed) (fun d hd => Desk.closed_init hd) ?_
    rintro d a d' - hd ⟨rfl, ha⟩
    exact hd.next ha.toProper
  exact hclosed.gated ha

/-- A restricted Unit whose one Session the root user has started and put to rest. -/
def rested : List (Env × Command) :=
  [(clock 1, .createUnit "u" { instancePolicy := .singleton }),
    (clock 2, .setUnitSpawnGroups "u" ["admin"] false),
    (clock 3, .other (.createUser "bob" "secret" [])),
    (clock 4, .startGoal "x" "u" ["root"] "label" "do it" "root"),
    (clock 5, .console "root" true "x" (.setActive false))]

/-- The root user activates it again. -/
theorem activation_gated_rested :
    ((rested.foldl Desk.next newDesk).next
      (clock 6, .console "root" true "x" (.setActive true))).sys.store.activeFlag "x" ≠
        (rested.foldl Desk.next newDesk).sys.store.activeFlag "x" ∧
    (rested.foldl Desk.next newDesk).sys.store.Member "root" ["admin"] ∧
    (rested.foldl Desk.next newDesk).Gated
      (clock 6, .console "root" true "x" (.setActive true)) := by
  have hfree : ∀ e ∈ ((rested.take 2).foldl Desk.next newDesk).sys.store.units.entries,
      e.2.singletonSessionId = accountHomeSessionId (strip "bob") →
        e.1 = accountHomeSessionId (strip "bob") := by decide +kernel
  have hhome : ((rested.take 2).foldl Desk.next newDesk).given
      (accountHomeSessionId (strip "bob")) = [] := by decide +kernel
  have hunits : ∀ e ∈ (rested.foldl Desk.next newDesk).sys.store.units.entries,
      e.2.singletonSessionId = "x" → e.1 = "u" := by decide +kernel
  have hmember : (rested.foldl Desk.next newDesk).sys.store.Member "root"
      ((rested.foldl Desk.next newDesk).given "u") :=
    ⟨"admin", by decide +kernel⟩
  have hcreate : newDesk.Strict (clock 1, .createUnit "u" { instancePolicy := .singleton }) :=
    ⟨⟨by rintro _ _ ⟨⟩; rfl, by rintro _ _ _ ⟨⟩⟩, by rintro _ _ _ _ _ ⟨⟩⟩
  have huser : ((rested.take 2).foldl Desk.next newDesk).Strict
      (clock 3, .other (.createUser "bob" "secret" [])) := by
    refine ⟨⟨by rintro _ _ ⟨⟩, ?_⟩, by rintro _ _ _ _ _ ⟨⟩⟩
    rintro _ _ _ ⟨⟩
    exact ⟨fun id unit hu => hfree ⟨id, unit⟩ (AList.mem_lookup_iff.1 hu), hhome⟩
  have hquiet : ∀ d : Desk,
      d.Strict (clock 2, .setUnitSpawnGroups "u" ["admin"] false) ∧
      d.Strict (clock 4, .startGoal "x" "u" ["root"] "label" "do it" "root") ∧
      d.Strict (clock 5, .console "root" true "x" (.setActive false)) := fun _ =>
    ⟨⟨⟨by rintro _ _ ⟨⟩, by rintro _ _ _ ⟨⟩⟩, by rintro _ _ _ _ _ ⟨⟩⟩,
      ⟨⟨by rintro _ _ ⟨⟩, by rintro _ _ _ ⟨⟩⟩, by rintro _ _ _ _ _ ⟨⟩⟩,
      ⟨⟨by rintro _ _ ⟨⟩, by rintro _ _ _ ⟨⟩⟩, by rintro _ _ _ _ _ ⟨⟩⟩⟩
  have hreach : (deskSystem.restrict Desk.Strict).Reachable (rested.foldl Desk.next newDesk) :=
    .foldl_restrict (fun _ _ => rfl) (.init ⟨init_newStore, rfl⟩)
      ⟨hcreate, (hquiet _).1, huser, (hquiet _).2.1, (hquiet _).2.2, trivial⟩
  refine ⟨by decide +kernel, ⟨"admin", by decide +kernel⟩, activation_gated hreach
    ⟨⟨by rintro _ _ ⟨⟩, by rintro _ _ _ ⟨⟩⟩, ?_⟩⟩
  rintro _ _ _ unitId unit ⟨⟩ - hunit hsing
  obtain rfl : unitId = "u" := hunits ⟨unitId, unit⟩ (AList.mem_lookup_iff.1 hunit) hsing
  exact .inr hmember

/-- `create-unit` drops the restriction, and the root user starts a Session of the Unit. -/
theorem not_activation_gated : ¬ ∀ d, deskSystem.Reachable d → ∀ a, d.Gated a := by
  intro h
  let d := newDesk.next (clock 1, .createUnit "u" { spawnGroups := ["managers"] })
  let start := (clock 2, Command.createSession "x" "u" (some ["root"]) "root")
  have hreach : deskSystem.Reachable d := .step (.init ⟨init_newStore, rfl⟩) rfl
  have hall : d.given "u" = ["managers"] ∧ "x" ∉ d.sys.store.sessions ∧
      (∀ g ∈ (d.sys.store.users.lookup "root").elim [] User.groups, g ∉ ["managers"]) ∧
      ∃ session, (d.next start).sys.store.sessions.lookup "x" = some session ∧
        session.unitId = "u" := by decide +kernel
  obtain ⟨hgiven, hnew, hgroups, session, hs, hu⟩ := hall
  obtain ⟨user, rfl, g, hg, hm⟩ := (h d hreach start).created "u" "x" session
    (by rw [hgiven]; simp) hnew hs hu
  exact hgroups g hg (hgiven ▸ hm)

end Aize
