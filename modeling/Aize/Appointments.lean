/-
  Who gets appointed: no operation but the administration of the profiles changes who may
  act for a role.

  The first part shows, function by function, that an operation `Retains` users, profiles
  and appointments. `Managed` is the invariant: the GoalManager profile lists no account of
  the provider `remote-aize`, and no GoalManager run has been appointed to it. It is kept by
  every operation but a `set_agent_accounts` that puts such an account into the profile.
-/
import Aize.Routine

namespace Aize
namespace State

variable {s s₁ s' : State} {sid : String} {env : Env}

/-- Routine retains everything. -/
theorem Routine.retains (h : Routine s s') : Retains s s' where
  user name v hv := by
    unfold groupsAndProvider at *
    rwa [h.users name]
  profile role p hp := .inl (h.profiles ▸ hp)
  run := h.run

theorem retains_save (s : State) : Retains s s.save := (routine_save s).retains

theorem AfterLoad.retains (h : s.AfterLoad env s') : Retains s s' := by
  rcases h with rfl | ⟨t, hl, hr⟩
  · exact .refl _
  · exact (retains_load hl).trans hr.retains

theorem retains_restart {memory : State} (h : s.initExisting env = .ok (memory, s')) :
    Retains s s' := by
  obtain ⟨loaded, ensured, hl, he, rfl | rfl⟩ := initExisting_cases h
  · refine Retains.trans ?_ (retains_save _)
    refine Retains.trans ?_ (routine_refresh _ env).retains
    exact ((retains_load hl).trans (ensureDefaults_retains he)).trans (routine_replay ensured).retains
  · exact .refl _

/-! ## Launches -/

theorem retains_activate (s : State) (env : Env) (unitId sid : String) (parents : List String)
    (body createdBy createdAt : String) (trigger : Trigger) : Retains s (leftBy
      (s.activateSingletonUnitSession env unitId sid parents body createdBy createdAt trigger)) := by
  unfold activateSingletonUnitSession
  refine leftBy_linkParents (P := Retains s) (fun _ _ _ _ h₁ h₂ => h₂.trans (retains_link h₁))
    (Routine.retains ?_) fun s₂ h₂ => ?_
  · exact routine_modifySession _ _ fun _ => ⟨rfl, rfl⟩
  · cases s₂.currentGoalForSession sid with
    | none =>
      dsimp only [leftBy, pure, Except.pure]
      refine Retains.trans ?_ (routine_setState ..).retains
      exact h₂.trans ((routine_createGoal ..).trans (routine_signal ..)).retains
    | some g =>
      dsimp only [leftBy, pure, Except.pure]
      refine Retains.trans ?_ (routine_setState ..).retains
      exact h₂.trans ((routine_modifyGoal ..).trans (routine_signal ..)).retains

theorem retains_single (s : State) (sid unitId : String) :
    Retains s (s.recordSingletonSession sid unitId) := by
  unfold recordSingletonSession
  split_ifs
  · exact .of_fields rfl rfl rfl
  · exact .refl s

theorem retains_start (s : State) (env : Env) (sid unitId : String) (parents : List String)
    (label body createdBy createdAt : String) (trigger : Trigger) : Retains s (leftBy
      (s.startGoalSessionInState env sid unitId parents label body createdBy createdAt trigger)) := by
  unfold startGoalSessionInState
  refine leftBy_check (P := Retains s) (.refl s) fun _ _ => leftBy_check (.refl s) fun _ _ =>
    leftBy_check (.refl s) fun _ _ => ?_
  cases (s.units.lookup (strip unitId)).bind s.singletonSession? with
  | some existing => exact retains_activate ..
  | none =>
    have hinsert : Retains s (s.insertSession sid (strip unitId) createdAt) := .of_fields rfl rfl rfl
    refine leftBy_check (P := Retains s) (.refl s) fun _ _ => leftBy_check hinsert fun _ _ => ?_
    refine leftBy_linkParents (P := Retains s) (fun _ _ _ _ h₁ h₂ => h₂.trans (retains_link h₁))
      (hinsert.trans (retains_single ..)) fun s₂ h₂ => ?_
    dsimp only [leftBy, pure, Except.pure]
    exact h₂.trans ((routine_createGoal ..).trans (routine_setState ..)).retains

theorem retains_runUnit {trigger : Trigger} {parent createdBy unitId : String} {nowText : Stamp}
    {now : Int} {r r' : State × List UnitResult}
    (h : runUnit env trigger parent createdBy nowText now r unitId = .ok r') :
    Retains r.1 r'.1 := by
  obtain ⟨s, results⟩ := r
  unfold runUnit at h
  dsimp only at h
  cases hunit : s.units.lookup unitId with
  | none => rw [hunit] at h; cases h; exact .refl s
  | some unit =>
    rw [hunit] at h
    obtain ⟨selected, -, h⟩ := Except.bind_eq_ok.1 h
    cases selected with
    | false => cases h; exact .refl s
    | true =>
      obtain ⟨⟨launchParent, launchUser⟩, -, h⟩ := Except.bind_eq_ok.1 h
      dsimp only at h
      have hstart : Retains s (leftBy (s.launchUnit env unitId unit trigger
        (s.triggeredSessionId unitId trigger nowText.text) launchParent launchUser nowText)) :=
        retains_start ..
      generalize s.triggeredSessionId unitId trigger nowText.text = sid at h hstart
      generalize s.launchUnit env unitId unit trigger sid launchParent launchUser nowText = out
        at h hstart
      rcases out with ⟨err | key | -, s₁⟩ | ⟨s₁, payload⟩
      · cases h; exact hstart
      · cases h
      · cases h
      · refine hstart.trans ?_
        cases trigger with
        | scheduled =>
          obtain ⟨s₂, h₂, h⟩ := Except.bind_eq_ok.1 h
          rw [← Except.pure_eq_ok.1 h]
          exact (routine_finishScheduled h₂).retains
        | startup =>
          obtain ⟨s₂, h₂, h⟩ := Except.bind_eq_ok.1 h
          rw [← Except.pure_eq_ok.1 h]
          exact (routine_finishStartup h₂).retains
        | manual =>
          obtain ⟨s₂, h₂, h⟩ := Except.bind_eq_ok.1 h
          rw [← Except.pure_eq_ok.1 h]
          exact (routine_finishStartup h₂).retains

theorem retains_batch {trigger : Trigger} {parent createdBy : String} {nowText : Stamp} {now : Int}
    {l : List String} {r r' : State × List UnitResult}
    (h : l.foldlM (runUnit env trigger parent createdBy nowText now) r = .ok r') :
    Retains r.1 r'.1 :=
  Except.foldlM_invariant (P := fun r' => Retains r.1 r'.1) h (.refl _) fun _ _ _ _ h₁ h₂ =>
    h₁.trans (retains_runUnit h₂)

/-! ## Operations -/

/-- A new user changes no other. -/
theorem retains_insertUser {name : String} {user : User} (h : name ∉ s.users) :
    Retains s { s with users := s.users.insert name user } := by
  refine ⟨fun n v hv => ?_, fun _ _ => .inl, rfl⟩
  unfold groupsAndProvider at *
  dsimp only
  rw [AList.lookup_insert_ne]
  · exact hv
  · rintro rfl
    rw [AList.lookup_eq_none.2 h] at hv
    cases hv

theorem retains_createSession {unitId createdBy : String} {parents : List String}
    (h : s.createSession env sid unitId parents createdBy = .ok s') : Retains s s' := by
  obtain ⟨t, t', hl, -, -, -, -, -, hlink, rfl⟩ := createSession_spec h
  have hinsert : Retains t (t.insertSession sid (strip unitId) env.utcNow.text) :=
    .of_fields rfl rfl rfl
  have hnew := hinsert.trans (retains_single _ sid (strip unitId))
  exact (((retains_load hl).trans hnew).trans
    (.foldlM (fun _ _ _ h => retains_link h) hlink)).trans (retains_save _)

theorem retains_startGoal {unitId label body createdBy : String} {parents : List String}
    (h : s.startGoalSession env sid unitId parents label body createdBy = .ok s') :
    Retains s s' := by
  unfold startGoalSession at h
  obtain ⟨-, h⟩ := Except.require_bind_eq_ok.1 h
  obtain ⟨t, hl, h⟩ := Except.bind_eq_ok.1 h
  obtain ⟨-, h⟩ := Except.require_bind_eq_ok.1 h
  have hstart := retains_start t env sid unitId parents label body createdBy env.utcNow.text .manual
  generalize t.startGoalSessionInState env sid unitId parents label body createdBy env.utcNow.text
    .manual = out at h hstart
  cases out with
  | ok r =>
    cases h
    exact ((retains_load hl).trans hstart).trans (retains_save _)
  | error raised => cases h

theorem retains_createUser {username password : String} {groups : List String}
    (h : s.createUser env username password groups = .ok s') : Retains s s' := by
  unfold createUser at h
  obtain ⟨-, h⟩ := Except.require_bind_eq_ok.1 h
  obtain ⟨-, h⟩ := Except.require_bind_eq_ok.1 h
  obtain ⟨-, h⟩ := Except.require_bind_eq_ok.1 h
  obtain ⟨t, hl, h⟩ := Except.bind_eq_ok.1 h
  obtain ⟨hnew, h⟩ := Except.require_bind_eq_ok.1 h
  obtain ⟨t₁, h₁, h⟩ := Except.bind_eq_ok.1 h
  rw [← Except.pure_eq_ok.1 h]
  unfold ensureUserHomeSessions at h₁
  have hhome := Retains.foldlM (fun _ _ _ h => retains_userHome h) h₁
  exact (((retains_load hl).trans (retains_insertUser hnew)).trans hhome).trans (retains_save _)

theorem retains_createServiceUser {username provider : String} {groups : List String}
    (h : s.createServiceUser env username groups provider = .ok s') : Retains s s' := by
  unfold createServiceUser at h
  obtain ⟨-, h⟩ := Except.require_bind_eq_ok.1 h
  obtain ⟨-, h⟩ := Except.require_bind_eq_ok.1 h
  obtain ⟨t, hl, h⟩ := Except.bind_eq_ok.1 h
  obtain ⟨hnew, h⟩ := Except.require_bind_eq_ok.1 h
  rw [← Except.pure_eq_ok.1 h]
  exact ((retains_load hl).trans (retains_insertUser hnew)).trans (retains_save _)

end State

open State

/-- The operations that administrate the profiles. -/
def Op.setsProfile : Op → Bool
  | .setAgentProvider .. => true
  | .setAgentAccounts .. => true
  | _ => false

/-- **An operation without a lease retains users, profiles and appointments**, unless it
    administrates the profiles. -/
theorem retains_apply {s s' : State} {env : Env} {op : Op} (hop : op.setsProfile = false)
    (h : op.apply env s = .ok s') : Retains s s' := by
  by_cases hr : op.isRoutine
  · exact (after_apply hr h).retains
  cases op with
  | createUser => rw [Op.apply] at h; exact retains_createUser h
  | createServiceUser => rw [Op.apply] at h; exact retains_createServiceUser h
  | createUnit =>
    rw [Op.apply, createUnit] at h
    obtain ⟨t, hl, h⟩ := Except.bind_eq_ok.1 h
    obtain ⟨schedule, -, h⟩ := Except.bind_eq_ok.1 h
    obtain ⟨triggers, -, h⟩ := Except.bind_eq_ok.1 h
    obtain ⟨-, h⟩ := Except.require_bind_eq_ok.1 h
    obtain ⟨-, h⟩ := Except.require_bind_eq_ok.1 h
    obtain ⟨-, h⟩ := Except.require_bind_eq_ok.1 h
    rw [← Except.pure_eq_ok.1 h]
    exact (retains_load hl).trans (.of_fields rfl rfl rfl)
  | setUnitSpawnGroups =>
    rw [Op.apply, setUnitSpawnGroups] at h
    obtain ⟨t, hl, h⟩ := Except.bind_eq_ok.1 h
    obtain ⟨-, h⟩ := Except.require_bind_eq_ok.1 h
    rw [← Except.pure_eq_ok.1 h]
    refine Retains.trans ((retains_load hl).trans ?_) (retains_save _)
    exact .of_fields rfl rfl rfl
  | setAgentProvider => cases hop
  | setAgentAccounts => cases hop
  | createSession => rw [Op.apply] at h; exact retains_createSession h
  | startGoalSession => rw [Op.apply] at h; exact retains_startGoal h
  | linkSessions =>
    rw [Op.apply, linkSessions] at h
    obtain ⟨t, hl, h⟩ := Except.bind_eq_ok.1 h
    obtain ⟨t₁, h₁, h⟩ := Except.bind_eq_ok.1 h
    rw [← Except.pure_eq_ok.1 h]
    exact ((retains_load hl).trans (retains_link h₁)).trans (retains_save _)
  | runScheduledUnits =>
    obtain ⟨⟨s', results⟩, hr, rfl⟩ := Except.map_eq_ok.1 h
    unfold runScheduledUnits at hr
    obtain ⟨t, hl, h⟩ := Except.bind_eq_ok.1 hr
    obtain ⟨-, -, h⟩ := Except.bind_eq_ok.1 h
    obtain ⟨nowDt, -, h⟩ := Except.bind_eq_ok.1 h
    obtain ⟨⟨t₁, results₁⟩, h₁, h⟩ := Except.bind_eq_ok.1 h
    cases h
    exact ((retains_load hl).trans (retains_batch h₁)).trans (retains_save _)
  | runStartupUnits =>
    obtain ⟨⟨s', results⟩, hr, rfl⟩ := Except.map_eq_ok.1 h
    unfold runStartupUnits at hr
    obtain ⟨t, hl, h⟩ := Except.bind_eq_ok.1 hr
    obtain ⟨-, -, h⟩ := Except.bind_eq_ok.1 h
    obtain ⟨⟨t₁, results₁⟩, h₁, h⟩ := Except.bind_eq_ok.1 h
    cases h
    exact ((retains_load hl).trans (retains_batch h₁)).trans (retains_save _)
  | restart =>
    obtain ⟨⟨memory, s'⟩, hi, rfl⟩ := Except.map_eq_ok.1 h
    exact retains_restart hi
  | _ => exact absurd rfl hr

/-! ## Remote providers -/

namespace State

variable {s s' : State} {env : Env}

/-- The provider that may not manage. -/
def remoteProvider : String := "remote-aize"

/-- **No remote provider manages**: no account of the GoalManager profile has the provider
    `remote-aize`, and no GoalManager run has been acquired with it. -/
def NoRemoteManager (s : State) : Prop :=
  (∀ p, s.agentProfiles.lookup .goalManager = some p → ∀ name ∈ p.accounts, ∀ user,
    s.users.lookup name = some user → user.provider ≠ remoteProvider) ∧
  ∀ rid r, s.dispatchRuns.lookup rid = some r → r.role = .goalManager →
    r.agentProvider ≠ remoteProvider

/-- The invariant behind it: the accounts of the providers are the registered ones, and the
    GoalManager profile names local accounts that exist. -/
structure Managed (s : State) : Prop where
  account : ∀ spec ∈ providerServiceAccounts,
    s.groupsAndProvider spec.account = some (spec.groups, spec.provider)
  profile : ∀ p, s.agentProfiles.lookup .goalManager = some p → p.provider ≠ remoteProvider ∧
    ∀ name ∈ p.accounts, strip name = name ∧
      ∃ v, s.groupsAndProvider name = some v ∧ v.2 ≠ remoteProvider
  run : ∀ rid user provider, s.appointment rid = some (.goalManager, user, provider) →
    provider ≠ remoteProvider

theorem Managed.codex (h : ∀ spec ∈ providerServiceAccounts,
    s.groupsAndProvider spec.account = some (spec.groups, spec.provider)) :
    s.groupsAndProvider "svc-codex" = some (["manage", "work"], "codex") :=
  h ⟨"codex", "svc-codex", ["manage", "work"]⟩ (by simp [providerServiceAccounts])

/-- The default profile names `svc-codex`. -/
theorem managed_default (h : ∀ spec ∈ providerServiceAccounts,
    s.groupsAndProvider spec.account = some (spec.groups, spec.provider)) :
    defaultProfile.provider ≠ remoteProvider ∧ ∀ name ∈ defaultProfile.accounts,
      strip name = name ∧ ∃ v, s.groupsAndProvider name = some v ∧ v.2 ≠ remoteProvider := by
  refine ⟨by decide, fun name hm => ?_⟩
  rw [List.mem_singleton.1 hm]
  exact ⟨by decide, _, Managed.codex h, by decide⟩

/-- What retains everything keeps the invariant. -/
theorem Managed.retains (h : s.Managed) (hr : Retains s s') : s'.Managed where
  account spec hm := hr.user _ _ (h.account spec hm)
  profile p hp := by
    rcases hr.profile _ p hp with hp | rfl
    · obtain ⟨h₁, h₂⟩ := h.profile p hp
      refine ⟨h₁, fun name hm => ?_⟩
      obtain ⟨hs, v, hv, hne⟩ := h₂ name hm
      exact ⟨hs, v, hr.user _ _ hv, hne⟩
    · exact managed_default fun spec hm => hr.user _ _ (h.account spec hm)
  run rid user provider hrun := h.run rid user provider (hr.run ▸ hrun)

theorem Managed.noRemote (h : s.Managed) : s.NoRemoteManager := by
  refine ⟨fun p hp name hm user hu => ?_, fun rid r hr hrole => ?_⟩
  · obtain ⟨-, v, hv, hne⟩ := (h.profile p hp).2 name hm
    unfold groupsAndProvider at hv
    rw [hu] at hv
    cases hv
    exact hne
  · refine h.run rid r.agentUser r.agentProvider ?_
    unfold appointment
    rw [hr, Option.map_some, hrole]

/-! ### Appointing -/

theorem eligible_local {p : AgentProfile}
    (hp : p.provider ≠ remoteProvider) {name : String} {a : String × String}
    (hname : ∀ v, s.groupsAndProvider name = some v → v.2 ≠ remoteProvider)
    (ha : s.eligibleAccount .goalManager p name = some a) : a.2 ≠ remoteProvider := by
  unfold eligibleAccount at ha
  cases hu : s.users.lookup name with
  | none => rw [hu] at ha; cases ha
  | some user =>
    rw [hu] at ha
    have huser : user.provider ≠ remoteProvider := by
      refine hname (user.groups, user.provider) ?_
      unfold groupsAndProvider
      rw [hu, Option.map_some]
    dsimp only at ha
    split_ifs at ha
    all_goals cases ha
    · exact huser
    · exact hp
    · exact (by decide : defaultAgentProvider ≠ remoteProvider)

/-- The provider that a run of the role is appointed to. -/
def appointedProvider (s : State) (env : Env) (role : Role) : String :=
  let profile := (s.agentProfiles.lookup role).getD ⟨defaultAgentProvider, []⟩
  ((s.selectDispatchAccount env role profile).map Prod.snd).getD
    (if profile.provider = "" then defaultAgentProvider else profile.provider)

theorem Managed.appointed (h : s.Managed) (env : Env) :
    s.appointedProvider env .goalManager ≠ remoteProvider := by
  unfold appointedProvider
  generalize hp : (s.agentProfiles.lookup .goalManager).getD ⟨defaultAgentProvider, []⟩ = p
  dsimp only
  have hprofile : p.provider ≠ remoteProvider ∧ ∀ name ∈ p.accounts, strip name = name ∧
      ∃ v, s.groupsAndProvider name = some v ∧ v.2 ≠ remoteProvider := by
    cases hl : s.agentProfiles.lookup .goalManager with
    | none =>
      rw [hl] at hp
      rw [← hp]
      exact ⟨by decide, fun name hm => absurd hm List.not_mem_nil⟩
    | some q =>
      rw [hl] at hp
      rw [← hp]
      exact h.profile q hl
  cases hsel : s.selectDispatchAccount env .goalManager p with
  | none =>
    rw [Option.map_none, Option.getD_none]
    split_ifs
    · decide
    · exact hprofile.1
  | some a =>
    rw [Option.map_some, Option.getD_some]
    have hmem : a ∈ ((p.accounts.map strip).filter (· ≠ "")).filterMap
        (s.eligibleAccount .goalManager p) := by
      unfold selectDispatchAccount at hsel
      rcases Option.or_eq_some_iff.1 hsel with hf | ⟨-, hh⟩
      · exact List.mem_of_find?_eq_some hf
      · exact List.mem_of_head? hh
    obtain ⟨name, hname, ha⟩ := List.mem_filterMap.1 hmem
    obtain ⟨name', hm, rfl⟩ := List.mem_map.1 (List.mem_filter.1 hname).1
    obtain ⟨hstrip, v, hv, hne⟩ := hprofile.2 name' hm
    rw [hstrip] at ha
    refine eligible_local hprofile.1 (fun v' hv' => ?_) ha
    rw [hv] at hv'
    cases hv'
    exact hne

/-- A lease appoints its run, and changes no other appointment. -/
theorem leaseEntry_staff (s : State) (env : Env) (c : Candidate) (goal : Goal) (session : Session) :
    ∃ (rid : Nat) (user : String), (s.leaseEntry env c goal session).1.users = s.users ∧
      (s.leaseEntry env c goal session).1.agentProfiles = s.agentProfiles ∧
      ∀ id, (s.leaseEntry env c goal session).1.appointment id =
        if id = rid then some (c.entry.role, user, s.appointedProvider env c.entry.role)
        else s.appointment id := by
  unfold leaseEntry
  lift_lets
  intro e sid sA queuedAt sB profile appointed profileProvider provider agentUser run
  obtain ⟨threads, n, hn, hth⟩ := sB.ensureAgentThread_frame sid e.role agentUser provider
  generalize sB.ensureAgentThread sid e.role agentUser provider = thread at hth ⊢
  obtain ⟨s₃, key⟩ := thread
  obtain ⟨full, hfull⟩ : ∃ full, s₃.readSessionLog sid = { s₃ with fullIds := full } := by
    unfold readSessionLog
    split_ifs
    · exact ⟨s₃.fullIds, rfl⟩
    · exact ⟨_, rfl⟩
  dsimp only at hth ⊢
  rw [hfull, hth]
  refine ⟨n, agentUser, rfl, rfl, fun id => ?_⟩
  unfold appointment
  dsimp only
  rw [Dict.lookup_insert_of]
  show Option.map _ (if id = n then some run else s.dispatchRuns.lookup id) = _
  by_cases hid : id = n
  · rw [if_pos hid, if_pos hid]
    rfl
  · rw [if_neg hid, if_neg hid]

theorem Managed.leased (h : s.Managed) (env : Env) (c : Candidate) (goal : Goal) (session : Session) :
    (s.leaseEntry env c goal session).1.Managed := by
  obtain ⟨rid, user, husers, hprofiles, happ⟩ := leaseEntry_staff s env c goal session
  generalize (s.leaseEntry env c goal session).1 = t at husers hprofiles happ ⊢
  have hgroups : t.groupsAndProvider = s.groupsAndProvider := by
    unfold groupsAndProvider
    rw [husers]
  refine ⟨fun spec hm => ?_, fun p hp => ?_, fun id user' provider hid => ?_⟩
  · rw [hgroups]
    exact h.account spec hm
  · rw [hprofiles] at hp
    rw [hgroups]
    exact h.profile p hp
  · rw [happ] at hid
    split_ifs at hid with hrid
    · obtain ⟨hrole, hrest⟩ := Prod.mk.inj (Option.some.inj hid)
      rw [← (Prod.mk.inj hrest).2, hrole]
      exact h.appointed env
    · exact h.run id user' provider hid

theorem Managed.acquire (h : s.Managed) {filter : Option String} {lease : Option Lease}
    (hok : s.acquireDispatchLease env filter = .ok (s', lease)) : s'.Managed := by
  obtain ⟨loaded, hl, ⟨-, -, rfl | rfl⟩ | ⟨c, goal, session, -, -, rfl, -⟩⟩ := acquire_cases hok
  · exact h
  · exact h.retains (((retains_load hl).trans (routine_chosenEntry ..).retains).trans (retains_save _))
  · have hchosen := h.retains ((retains_load hl).trans (routine_chosenEntry loaded env filter).retains)
    exact (hchosen.leased env c goal session).retains (retains_save _)

/-! ### Administration -/

/-- A profile is set. -/
theorem Managed.insertProfile (h : s.Managed) (role : Role) {p : AgentProfile}
    (hp : role = .goalManager → p.provider ≠ remoteProvider ∧ ∀ name ∈ p.accounts,
      strip name = name ∧ ∃ v, s.groupsAndProvider name = some v ∧ v.2 ≠ remoteProvider) :
    State.Managed { s with agentProfiles := s.agentProfiles.insert role p } := by
  refine ⟨h.account, fun q hq => ?_, h.run⟩
  dsimp only at hq
  rw [Dict.lookup_insert_of] at hq
  split_ifs at hq with hr
  · cases hq
    exact hp hr.symm
  · exact h.profile q hq

/-- The registered account of a provider is found, and nothing is registered. -/
theorem Managed.serviceAccount (h : s.Managed) {provider account : String} {user : User}
    (hok : s.ensureProviderServiceAccount provider = .ok (s', account, user)) :
    s' = s ∧ ∃ spec ∈ providerServiceAccounts, spec.provider = lower (strip provider) ∧
      account = spec.account ∧ user.groups = spec.groups := by
  unfold ensureProviderServiceAccount at hok
  split at hok
  · cases hok
  · rename_i spec hspec
    have hm := List.mem_of_find?_eq_some hspec
    have hacc := h.account spec hm
    unfold groupsAndProvider at hacc
    cases hu : s.users.lookup spec.account with
    | none => rw [hu] at hacc; cases hacc
    | some u =>
      rw [hu] at hok hacc
      cases hok
      have hp := List.find?_some hspec
      exact ⟨rfl, spec, hm, of_decide_eq_true hp, rfl, congrArg Prod.fst (Option.some.inj hacc)⟩

theorem managing_local : ∀ spec ∈ providerServiceAccounts, Role.goalManager.slotGroup ∈ spec.groups →
    spec.provider ≠ remoteProvider ∧ strip spec.account = spec.account := by
  decide

theorem Managed.setProvider (h : s.Managed) {role provider : String}
    (hok : s.setAgentProvider env role provider = .ok s') : s'.Managed := by
  unfold setAgentProvider at hok
  cases hrole : normalizeAgentRole role with
  | none => rw [hrole] at hok; cases hok
  | some r =>
    rw [hrole] at hok
    obtain ⟨-, hok⟩ := Except.require_bind_eq_ok.1 hok
    obtain ⟨t, hl, hok⟩ := Except.bind_eq_ok.1 hok
    have ht := h.retains (retains_load hl)
    generalize lower (strip provider) = provider at hok
    split_ifs at hok with hlocal
    · rw [← Except.pure_eq_ok.1 hok]
      refine (ht.insertProfile r fun _ => ⟨?_, fun name hm => absurd hm List.not_mem_nil⟩).retains
        (retains_save _)
      rw [hlocal]
      decide
    · obtain ⟨⟨t₁, account, user⟩, h₁, hok⟩ := Except.bind_eq_ok.1 hok
      obtain ⟨hgroup, hok⟩ := Except.require_bind_eq_ok.1 hok
      rw [← Except.pure_eq_ok.1 hok]
      obtain ⟨rfl, spec, hm, hprovider, rfl, hgroups⟩ := ht.serviceAccount h₁
      refine (ht.insertProfile r ?_).retains (retains_save _)
      rintro rfl
      obtain ⟨hlocal', hstrip⟩ := managing_local spec hm (hgroups ▸ hgroup)
      refine ⟨fun hremote => hlocal' ?_, fun name hname => ?_⟩
      · rw [hprovider]
        dsimp only at hremote
        rw [hremote]
        decide
      · rw [List.mem_singleton.1 hname]
        exact ⟨hstrip, _, ht.account spec hm, hlocal'⟩

/-- The `set_agent_accounts` that puts a remote account into the GoalManager profile. -/
def AppointsRemote (s : State) (env : Env) (op : Op) : Prop :=
  ∃ role accounts t, op = .setAgentAccounts role accounts ∧
    normalizeAgentRole role = some .goalManager ∧ s.load env = .ok t ∧
    (∀ name ∈ normalizeSpawnGroups accounts,
      (t.checkServiceAccount .goalManager name : Except Err Unit) = .ok ()) ∧
    ∃ name ∈ normalizeSpawnGroups accounts, ∃ user, t.users.lookup name = some user ∧
      user.provider = remoteProvider

theorem forM_eq_ok {α : Type} {f : α → Except Err Unit} {l : List α} :
    l.forM f = .ok () ↔ ∀ a ∈ l, f a = .ok () := by
  induction l with
  | nil => simp [pure, Except.pure]
  | cons a l ih =>
    show (f a >>= fun _ => l.forM f) = .ok () ↔ _
    rw [Except.bind_eq_ok]
    constructor
    · rintro ⟨⟨⟩, ha, hl⟩
      exact List.forall_mem_cons.2 ⟨ha, ih.1 hl⟩
    · intro h
      exact ⟨⟨⟩, h a (by simp), ih.2 fun b hb => h b (by simp [hb])⟩

theorem mem_spawnGroups {groups : List String} {g : String} (h : g ∈ normalizeSpawnGroups groups) :
    strip g = g := by
  unfold normalizeSpawnGroups at h
  rw [List.mem_reverse, List.mem_dedup, List.mem_reverse, List.mem_filter] at h
  obtain ⟨g', -, rfl⟩ := List.mem_map.1 h.1
  exact strip_strip g'

theorem checkServiceAccount_ok {role : Role} {name : String}
    (h : (s.checkServiceAccount role name : Except Err Unit) = .ok ()) : ∃ user, s.users.lookup name = some user := by
  unfold checkServiceAccount at h
  cases hu : s.users.lookup name with
  | none => rw [hu] at h; cases h
  | some user => exact ⟨user, rfl⟩

/-- The rest of `set_agent_accounts`, after its checks. -/
theorem setAgentAccounts_cases {role : String} {accounts : List String}
    (hok : s.setAgentAccounts env role accounts = .ok s') :
    ∃ r t, normalizeAgentRole role = some r ∧ s.load env = .ok t ∧
      (∀ name ∈ normalizeSpawnGroups accounts,
        (t.checkServiceAccount r name : Except Err Unit) = .ok ()) ∧
      ∃ p : AgentProfile, p.accounts = normalizeSpawnGroups accounts ∧
        (p.provider = "" ∨ ∃ q, t.agentProfiles.lookup r = some q ∧ p.provider = q.provider) ∧
        s' = State.save { t with agentProfiles := t.agentProfiles.insert r p } := by
  unfold setAgentAccounts at hok
  cases hrole : normalizeAgentRole role with
  | none => rw [hrole] at hok; cases hok
  | some r =>
    rw [hrole] at hok
    obtain ⟨t, hl, hok⟩ := Except.bind_eq_ok.1 hok
    obtain ⟨⟨⟩, hcheck, hok⟩ := Except.bind_eq_ok.1 hok
    refine ⟨r, t, rfl, hl, forM_eq_ok.1 hcheck, _, ?_, ?_, (Except.pure_eq_ok.1 hok).symm⟩
    · cases t.agentProfiles.lookup r <;> rfl
    · cases t.agentProfiles.lookup r with
      | none => exact .inl rfl
      | some q => exact .inr ⟨q, rfl, rfl⟩

theorem Managed.setAccounts (h : s.Managed) {role : String} {accounts : List String}
    (hstep : ¬s.AppointsRemote env (.setAgentAccounts role accounts))
    (hok : s.setAgentAccounts env role accounts = .ok s') : s'.Managed := by
  obtain ⟨r, t, hrole, hl, hcheck, p, hp, hprovider, rfl⟩ := setAgentAccounts_cases hok
  have ht := h.retains (retains_load hl)
  refine (ht.insertProfile r ?_).retains (retains_save _)
  rintro rfl
  refine ⟨?_, fun name hm => ?_⟩
  · rcases hprovider with hempty | ⟨q, hq, heq⟩
    · rw [hempty]
      decide
    · rw [heq]
      exact (ht.profile q hq).1
  · rw [hp] at hm
    obtain ⟨user, hu⟩ := checkServiceAccount_ok (hcheck name hm)
    refine ⟨mem_spawnGroups hm, (user.groups, user.provider), ?_, fun hremote => hstep ?_⟩
    · unfold groupsAndProvider
      rw [hu, Option.map_some]
    · exact ⟨role, accounts, t, rfl, hrole, hl, hcheck, name, hm, user, hu, hremote⟩

/-- The step that the condition excludes does put a remote account into the profile. -/
theorem AppointsRemote.broken {op : Op} (h : s.AppointsRemote env op) :
    ∃ s', op.apply env s = .ok s' ∧ ¬s'.NoRemoteManager := by
  obtain ⟨role, accounts, t, rfl, hrole, hl, hcheck, name, hm, user, hu, hremote⟩ := h
  obtain ⟨s', hok⟩ : ∃ s', s.setAgentAccounts env role accounts = .ok s' := by
    unfold setAgentAccounts
    rw [hrole]
    exact Except.exists_bind_ok.2 ⟨t, hl, Except.exists_bind_ok.2 ⟨(), forM_eq_ok.2 hcheck, _, rfl⟩⟩
  refine ⟨s', hok, fun hno => ?_⟩
  obtain ⟨r, t', hrole', hl', -, p, hp, -, rfl⟩ := setAgentAccounts_cases hok
  rw [hl] at hl'
  rw [hrole] at hrole'
  cases hl'
  cases hrole'
  exact hno.1 p (AList.lookup_insert _) name (hp ▸ hm) user hu hremote

/-! ### Every operation -/

theorem users_storedUnit {unitId : String} (h : s.normalizeStoredUnit unitId = .ok s') :
    s'.users = s.users := by
  unfold normalizeStoredUnit at h
  split at h
  · cases h
    rfl
  · obtain ⟨unit, -, h⟩ := Except.bind_eq_ok.1 h
    cases h
    rfl

/-- The accounts of the providers are registered where there is no user yet. -/
theorem accounts_of_empty {timestamp : String} (hs : s.users = ∅)
    (h : s.ensureDefaults timestamp = .ok s') : ∀ spec ∈ providerServiceAccounts,
      s'.groupsAndProvider spec.account = some (spec.groups, spec.provider) := by
  unfold ensureDefaults at h
  dsimp only at h
  obtain ⟨s₁, h₁, h⟩ := Except.bind_eq_ok.1 h
  obtain ⟨s₂, h₂, h⟩ := Except.bind_eq_ok.1 h
  obtain ⟨s₃, h₃, h⟩ := Except.bind_eq_ok.1 h
  obtain ⟨s₄, h₄, h⟩ := Except.bind_eq_ok.1 h
  obtain ⟨-, -, h⟩ := Except.bind_eq_ok.1 h
  have hroot : ∀ s : State, s.ensureRootUnit.users = s.users := fun s => by
    unfold ensureRootUnit
    split <;> rfl
  have husers₁ : s₁.users = ∅ := by
    refine Except.foldlM_invariant (P := fun s : State => s.users = ∅) h₁ ?_
      fun _ _ _ _ hs h => (users_storedUnit h).trans hs
    rw [hroot]
    split_ifs <;> exact hs
  have husers₂ : s₂.users = ∅ := by
    unfold ensureRootSession at h₂
    split at h₂
    · cases h₂; exact husers₁
    · split_ifs at h₂
      cases h₂
      exact husers₁
  have hregistered : ∀ spec ∈ providerServiceAccounts,
      s₂.ensureAccounts.groupsAndProvider spec.account = some (spec.groups, spec.provider) := by
    unfold groupsAndProvider ensureAccounts
    rw [husers₂]
    dsimp only
    decide
  have hrest : Retains s₂.ensureAccounts s' := by
    have hhome := Retains.foldlM (fun _ _ _ h => retains_userHome h) h₃
    have howner := Retains.foldlM (fun _ _ _ h => retains_ownerParent h) h₄
    cases h
    exact (hhome.trans howner).trans ((Retains.foldl retains_rootEdge).trans (retains_profiles _))
  exact fun spec hm => hrest.user _ _ (hregistered spec hm)

theorem managed_init (h : State.initNew env = .ok s) : s.Managed := by
  obtain ⟨t, ht, h⟩ := Except.bind_eq_ok.1 h
  rw [← Except.pure_eq_ok.1 h]
  have haccounts : ∀ spec ∈ providerServiceAccounts,
      t.groupsAndProvider spec.account = some (spec.groups, spec.provider) :=
    accounts_of_empty rfl ht
  have hretains := ensureDefaults_retains ht
  refine Managed.retains ⟨haccounts, fun p hp => ?_, fun rid user provider hrun => ?_⟩ (retains_save t)
  · rcases hretains.profile _ p hp with hp | rfl
    · cases hp
    · exact managed_default haccounts
  · rw [hretains.run] at hrun
    cases hrun

end State

variable {sys : Sys}

/-- An operation keeps the invariant, unless it puts a remote account into the profile. -/
theorem managed_next (h : sys.store.Managed) {a : Action}
    (hstep : ¬sys.store.AppointsRemote a.env a.op) : (sys.next a).store.Managed := by
  unfold Sys.next
  cases hok : a.op.exec a.env sys with
  | error => exact h
  | ok sys' =>
    obtain ⟨env, op⟩ := a
    dsimp only at hok hstep ⊢
    have plain : (do return ⟨← op.apply env sys.store, sys.leases⟩ : Except Err Sys) = .ok sys' →
        sys'.store.Managed := by
      intro hok
      obtain ⟨s', hs, hok⟩ := Except.bind_eq_ok.1 hok
      rw [← Except.pure_eq_ok.1 hok]
      by_cases hset : op.setsProfile
      · cases op with
        | setAgentProvider => rw [Op.apply] at hs; exact h.setProvider hs
        | setAgentAccounts => rw [Op.apply] at hs; exact h.setAccounts hstep hs
        | _ => cases hset
      · exact h.retains (retains_apply (by simpa using hset) hs)
    cases op with
    | acquire filter =>
      obtain ⟨⟨store, lease⟩, ha, hok⟩ := Except.bind_eq_ok.1 hok
      rw [← Except.pure_eq_ok.1 hok]
      exact h.acquire ha
    | commit lease agentEnd =>
      obtain ⟨-, hok⟩ := Except.require_bind_eq_ok.1 hok
      obtain ⟨store, hc, hok⟩ := Except.bind_eq_ok.1 hok
      rw [← Except.pure_eq_ok.1 hok]
      exact h.retains (after_commit hc).retains
    | _ => exact plain hok

/-- **Remote providers never manage**, in every run that puts no remote account into the
    GoalManager profile; and a step that does breaks it at once. -/
theorem no_remote_manager
    (h : (storeSystem.restrict fun sys a => ¬sys.store.AppointsRemote a.env a.op).Reachable sys) :
    sys.store.NoRemoteManager ∧
      ∀ a, sys.store.AppointsRemote a.env a.op → ¬(sys.next a).store.NoRemoteManager := by
  have hm : sys.store.Managed := by
    refine h.of_step (P := fun sys => sys.store.Managed) ?_ ?_
    · rintro s ⟨env, hinit, -⟩
      exact managed_init hinit
    · rintro s a s' - hs ⟨rfl, hstep⟩
      exact managed_next hs hstep
  refine ⟨hm.noRemote, fun a ha => ?_⟩
  obtain ⟨s', hok, hbroken⟩ := ha.broken
  obtain ⟨role, accounts, -, hop, -⟩ := ha
  have hexec : a.op.exec a.env sys = .ok ⟨s', sys.leases⟩ := by
    rw [hop] at hok ⊢
    exact Except.bind_eq_ok.2 ⟨s', hok, rfl⟩
  unfold Sys.next
  rw [hexec]
  exact hbroken

/-- A service user of the remote provider in the group `manage`, put into the profile. -/
def remoteAppointed : List Action :=
  [⟨clock 1, .createServiceUser "svc-far" ["manage"] "remote-aize"⟩,
   ⟨clock 2, .setAgentAccounts "GoalManager" ["svc-far"]⟩,
   ⟨clock 3, .startGoalSession "a" "" ["root"] "A" "build it" "root"⟩,
   ⟨clock 4, .acquire none⟩]

/-- **A remote provider manages**: the profile takes the account for its group, and the next
    GoalManager run goes to it. -/
theorem not_no_remote_manager : ¬∀ sys, storeSystem.Reachable sys → sys.store.NoRemoteManager := by
  intro h
  have hno : ∀ s : State, s.NoRemoteManager → ¬∃ r ∈ s.dispatchRuns.items,
      r.2.role = .goalManager ∧ r.2.agentProvider = remoteProvider := by
    rintro s ⟨-, hrun⟩ ⟨⟨rid, r⟩, hm, hrole, hprovider⟩
    exact hrun rid r (Dict.mem_items.1 hm) hrole hprovider
  exact hno _ (h _ (reachable_nexts remoteAppointed)) (by decide +kernel)

/-- A remote account works, and a local one manages. -/
def appointed : List Action :=
  [⟨clock 1, .createServiceUser "svc-far" ["manage", "work"] "remote-aize"⟩,
   ⟨clock 2, .createServiceUser "svc-near" ["manage"] "codex"⟩,
   ⟨clock 3, .setAgentAccounts "WorkerAgent" ["svc-far"]⟩,
   ⟨clock 4, .setAgentAccounts "GoalManager" ["svc-near"]⟩,
   ⟨clock 5, .startGoalSession "a" "" ["root"] "A" "build it" "root"⟩,
   ⟨clock 6, .acquire none⟩]

/-- The GoalManager run goes to the account that has been appointed. -/
theorem no_remote_manager_appointed :
    (newStore.nexts appointed).store.NoRemoteManager ∧
    ((newStore.nexts appointed).store.dispatchRuns.items.map fun r => (r.2.role, r.2.agentUser)) =
      [(.goalManager, "svc-near")] ∧
    ((newStore.nexts appointed).store.agentProfiles.lookup .workerAgent).map (·.accounts) =
      some ["svc-far"] := by
  have hother : ∀ {sys : Sys} {a : Action}, (∀ role accounts, a.op = .setAgentAccounts role accounts →
      normalizeAgentRole role ≠ some .goalManager) → ¬sys.store.AppointsRemote a.env a.op :=
    fun hop ⟨role, accounts, _, heq, hrole, _⟩ => hop role accounts heq hrole
  have hnear : ¬(newStore.nexts (appointed.take 3)).store.AppointsRemote (clock 4)
      (.setAgentAccounts "GoalManager" ["svc-near"]) := by
    rintro ⟨role, accounts, t, heq, -, hl, -, name, hname, user, hu, hremote⟩
    obtain ⟨-, rfl⟩ := Op.setAgentAccounts.inj heq
    have hlocal : ∀ name ∈ normalizeSpawnGroups ["svc-near"],
        ((loadedAfter (appointed.take 3) (clock 4)).users.lookup name).all
          (·.provider ≠ remoteProvider) := by
      decide +kernel
    have ht : loadedAfter (appointed.take 3) (clock 4) = t := by
      unfold loadedAfter
      rw [hl]
      rfl
    have := hlocal name hname
    rw [ht, hu] at this
    exact absurd hremote (by simpa using this)
  have hrun : (storeSystem.restrict fun sys a => ¬sys.store.AppointsRemote a.env a.op).Reachable
      (newStore.nexts appointed) := reachable_restrict (.init init_newStore)
    ⟨hother (by rintro _ _ ⟨⟩), hother (by rintro _ _ ⟨⟩),
      hother (by rintro _ _ heq; obtain ⟨rfl, -⟩ := Op.setAgentAccounts.inj heq; decide), hnear,
      hother (by rintro _ _ ⟨⟩), hother (by rintro _ _ ⟨⟩), trivial⟩
  exact ⟨(no_remote_manager hrun).1, by decide +kernel, by decide +kernel⟩

end Aize
