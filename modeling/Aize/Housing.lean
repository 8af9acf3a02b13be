/-
  Homes (`_ensure_user_home_sessions`).

  Every login user has a home: a Session, and a singleton Unit of the same id that the user
  owns. The id is made from the name by a lossy sanitisation, so two users can have one
  home; its Unit is then owned by the last of them, the `Heir`. `Housed` is what holds of
  every stored state; a load keeps all users, Units and posts of such a state
  (`Housed.same_load`), and giving homes to all, also to a new user, settles the state
  again (`Furnished.housed`).
-/
import Aize.Routine

namespace Aize

theorem home_ne_root (name : String) : accountHomeSessionId name ≠ rootSessionId := by
  intro h
  have hlist := congrArg String.toList h
  rw [accountHomeSessionId, String.toList_append] at hlist
  have hhead := congrArg List.head? hlist
  rw [List.head?_append_of_ne_nil _ (by decide)] at hhead
  revert hhead
  decide

/-- A Unit that has been made the home `h` of `v`: what else it is, it is from before. -/
structure HomeUnit (before : Option UnitRecord) (h v : String) (unit : UnitRecord) : Prop where
  policy : unit.instancePolicy = .singleton
  singleton : unit.singletonSessionId = h
  owner : unit.ownerAccount = v
  groups : unit.spawnGroups = before.elim [] UnitRecord.spawnGroups
  normal : (∀ u ∈ before, u.Normal) → unit.Normal

theorem HomeUnit.again {before : Option UnitRecord} {h v w : String} {unit unit' : UnitRecord}
    (h₁ : HomeUnit before h v unit) (h₂ : HomeUnit (some unit) h w unit') :
    HomeUnit before h w unit' where
  policy := h₂.policy
  singleton := h₂.singleton
  owner := h₂.owner
  groups := h₂.groups.trans h₁.groups
  normal hn := h₂.normal fun u hu => by
    cases hu
    exact h₁.normal hn

/-- The user with its home ids. -/
def User.settle (user : User) (name : String) : User :=
  { user with
    homeSessionId := accountHomeSessionId name
    homeUnitId := accountHomeUnitId name }

/-- The home ids of a user are not yet set, or are its own. -/
structure User.CanSettle (user : User) (name : String) : Prop where
  session : user.homeSessionId = "" ∨ user.homeSessionId = accountHomeSessionId name
  unit : user.homeUnitId = "" ∨ user.homeUnitId = accountHomeSessionId name

namespace State

variable {s s₁ s' b : State} {name timestamp : String} {env : Env}

/-! ## Users and homes -/

/-- A user who can log in. -/
def Login (s : State) (name : String) : Prop :=
  ∃ user, s.users.lookup name = some user ∧ user.status = .active

/-- The last of the users, by name, whose home is `h`. -/
structure Heir (s : State) (h v : String) : Prop where
  login : s.Login v
  home : accountHomeSessionId v = h
  last : ∀ w, s.Login w → accountHomeSessionId w = h → w ≤ v

theorem Heir.unique {h v w : String} (hv : s.Heir h v) (hw : s.Heir h w) : v = w :=
  le_antisymm (hw.last v hv.login hv.home) (hv.last w hw.login hw.home)

/-! ## One user -/

/-- The user settled in its home. -/
def house (s : State) (name timestamp : String) : State :=
  (State.ensureHomeUnit
    { s with users := s.users.modify name fun u => u.settle name } name).ensureHomeSession name
      timestamp

theorem assignHome_settled {user : User} (h : user.CanSettle name) :
    s.assignHome name user =
      .ok { s with users := s.users.modify name fun u => u.settle name } := by
  have hs : ¬(strip user.homeSessionId ≠ "" ∧
      strip user.homeSessionId ≠ accountHomeSessionId name) := by
    rcases h.session with h | h
    · rw [h]
      exact fun hc => hc.1 (by decide)
    · rw [h, strip_accountHomeSessionId]
      exact fun hc => hc.2 rfl
  have hu : ¬(strip user.homeUnitId ≠ "" ∧ strip user.homeUnitId ≠ accountHomeUnitId name) := by
    rcases h.unit with h | h
    · rw [h]
      exact fun hc => hc.1 (by decide)
    · rw [h, strip_accountHomeSessionId]
      exact fun hc => hc.2 rfl
  unfold assignHome
  dsimp only
  rw [if_neg hs, Except.ok_bind, if_neg hu, Except.ok_bind]
  rfl

theorem house_edges (s : State) (name timestamp : String) :
    (s.house name timestamp).sessionEdges = s.sessionEdges := by
  unfold house ensureHomeSession ensureHomeUnit
  dsimp only
  split_ifs <;> split <;> rfl

theorem house_users (s : State) (name timestamp : String) :
    (s.house name timestamp).users = s.users.modify name fun u => u.settle name := by
  unfold house ensureHomeSession ensureHomeUnit
  dsimp only
  split_ifs <;> split <;> rfl

theorem house_units (s : State) (name timestamp : String) :
    (s.house name timestamp).units = (State.ensureHomeUnit
      { s with users := s.users.modify name fun u => u.settle name } name).units := by
  unfold house ensureHomeSession
  dsimp only
  split_ifs <;> rfl

/-- Only the home Unit changes. -/
theorem house_unit_ne (s : State) (name timestamp : String) {id : String}
    (hne : id ≠ accountHomeSessionId name) :
    (s.house name timestamp).units.lookup id = s.units.lookup id := by
  rw [house_units]
  unfold ensureHomeUnit
  dsimp only
  split
  · exact AList.lookup_insert_ne hne
  · exact Dict.lookup_modify_ne _ _ hne

/-- The home Unit. -/
theorem house_unit (s : State) (name timestamp : String) :
    ∃ unit, (s.house name timestamp).units.lookup (accountHomeSessionId name) = some unit ∧
      HomeUnit (s.units.lookup (accountHomeSessionId name)) (accountHomeSessionId name) name unit := by
  rw [house_units]
  unfold ensureHomeUnit
  dsimp only
  unfold accountHomeUnitId
  cases hu : s.units.lookup (accountHomeSessionId name) with
  | none =>
    refine ⟨_, AList.lookup_insert _, rfl, rfl, rfl, rfl, fun _ => ⟨?_, ?_⟩⟩
    · rintro x ⟨⟩
    · rintro t ⟨⟩
      rfl
  | some unit =>
    refine ⟨{ unit with
      instancePolicy := .singleton
      singletonSessionId := accountHomeSessionId name
      ownerAccount := name }, ?_, rfl, rfl, rfl, rfl, fun h => ?_⟩
    · rw [modifyUnit, Dict.lookup_modify_self, hu]
      rfl
    · exact ⟨(h unit rfl).schedule, (h unit rfl).triggers⟩

/-- Only the home Session changes its post. -/
theorem house_post_ne (s : State) (name timestamp : String) {id : String}
    (hne : id ≠ accountHomeSessionId name) :
    (s.house name timestamp).post id = s.post id := by
  have hsessions : (State.ensureHomeUnit
      { s with users := s.users.modify name fun u => u.settle name } name).sessions = s.sessions := by
    unfold ensureHomeUnit
    dsimp only
    split <;> rfl
  unfold house ensureHomeSession post
  dsimp only
  rw [hsessions]
  split_ifs
  · rw [modifySession, Dict.lookup_modify_ne _ _ hne, hsessions]
  · dsimp only
    rw [AList.lookup_insert_ne hne]

/-- The home Session is the one of the home Unit. -/
theorem house_post (s : State) (name timestamp : String) :
    (s.house name timestamp).post (accountHomeSessionId name) =
      some ⟨accountHomeSessionId name, true⟩ := by
  unfold house ensureHomeSession post
  dsimp only
  split_ifs with h
  · obtain ⟨session, hs⟩ := Dict.mem_iff_lookup.1 h
    rw [modifySession, Dict.lookup_modify_self, hs]
    rfl
  · dsimp only
    rw [AList.lookup_insert]
    rfl

/-- **One round of `_ensure_user_home_sessions`.** -/
theorem ensureUserHome_eq {user : User} (hl : s.users.lookup name = some user)
    (ha : user.status = .active) (hc : user.CanSettle name) :
    s.ensureUserHome timestamp name =
      if hasPath s.sessionEdges rootSessionId (accountHomeSessionId name) then
        .ok (s.house name timestamp)
      else (s.house name timestamp).linkSessionsInState rootSessionId (accountHomeSessionId name) := by
  unfold ensureUserHome
  rw [hl]
  dsimp only
  rw [if_neg (by rw [ha]; decide), assignHome_settled hc, Except.ok_bind]
  unfold Except.require
  rw [if_pos (home_ne_root name), Except.ok_bind]
  have hedges : ((State.ensureHomeUnit
      { s with users := s.users.modify name fun u => u.settle name } name).ensureHomeSession name
        timestamp).sessionEdges = s.sessionEdges := house_edges s name timestamp
  rw [hedges]
  rfl

/-- A round that raises nothing only adds an edge to the new house. -/
theorem ensureUserHome_cases {user : User} (hl : s.users.lookup name = some user)
    (ha : user.status = .active) (hc : user.CanSettle name)
    (h : s.ensureUserHome timestamp name = .ok s') :
    ∃ edges, s' = { s.house name timestamp with sessionEdges := edges } := by
  rw [ensureUserHome_eq hl ha hc] at h
  split_ifs at h
  · cases h
    exact ⟨_, rfl⟩
  · unfold linkSessionsInState at h
    split_ifs at h <;> cases h
    · exact ⟨_, rfl⟩
    · exact ⟨_, rfl⟩

/-! ## All users -/

/-- The users in `done` have been settled, from `b` on. -/
structure HousedUpTo (b s : State) (done : List String) : Prop where
  users : ∀ n, s.users.lookup n = (b.users.lookup n).map fun user =>
    if user.status = .active ∧ n ∈ done then user.settle n else user
  other : ∀ id, (∀ n ∈ done, b.Login n → accountHomeSessionId n ≠ id) →
    s.units.lookup id = b.units.lookup id ∧ s.post id = b.post id
  unit : ∀ n ∈ done, b.Login n → ∃ v unit, b.Login v ∧
    accountHomeSessionId v = accountHomeSessionId n ∧
    (∀ w ∈ done, b.Login w → accountHomeSessionId w = accountHomeSessionId n → w ≤ v) ∧
    s.units.lookup (accountHomeSessionId n) = some unit ∧
    HomeUnit (b.units.lookup (accountHomeSessionId n)) (accountHomeSessionId n) v unit
  post : ∀ n ∈ done, b.Login n → s.post (accountHomeSessionId n) = some ⟨accountHomeSessionId n, true⟩

theorem HousedUpTo.start (b : State) : HousedUpTo b b [] where
  users n := by simp
  other _ _ := ⟨rfl, rfl⟩
  unit n hn := absurd hn List.not_mem_nil
  post n hn := absurd hn List.not_mem_nil

/-- A user who cannot log in is passed over. -/
theorem HousedUpTo.skip {done : List String} (h : HousedUpTo b s done) (hn : ¬b.Login name) :
    HousedUpTo b s (done ++ [name]) := by
  have hmem : ∀ n, b.Login n → (n ∈ done ++ [name] ↔ n ∈ done) := by
    intro n hl
    have hne : n ≠ name := fun he => hn (he ▸ hl)
    simp [hne]
  refine ⟨fun n => ?_, fun id hid => ?_, fun n hd hl => ?_, fun n hd hl => ?_⟩
  · rw [h.users n]
    cases hu : b.users.lookup n with
    | none => rfl
    | some user =>
      by_cases ha : user.status = .active
      · simp [ha, hmem n ⟨user, hu, ha⟩]
      · simp [ha]
  · exact h.other id fun n hd hl => hid n ((hmem n hl).2 hd) hl
  · obtain ⟨v, unit, hv, hhome, hlast, hunit⟩ := h.unit n ((hmem n hl).1 hd) hl
    exact ⟨v, unit, hv, hhome, fun w hw hwl => hlast w ((hmem w hwl).1 hw) hwl, hunit⟩
  · exact h.post n ((hmem n hl).1 hd) hl

/-- The next user, in the order of the names, is settled. -/
theorem HousedUpTo.settle {done : List String} (h : HousedUpTo b s done) (hn : b.Login name)
    (hle : ∀ n ∈ done, n ≤ name) (timestamp : String) (edges : List Edge) :
    HousedUpTo b { s.house name timestamp with sessionEdges := edges } (done ++ [name]) := by
  have hmem : ∀ n, n ∈ done ++ [name] ↔ n = name ∨ n ∈ done := by
    intro n
    simp [or_comm]
  refine ⟨fun n => ?_, fun id hid => ?_, fun n hd hl => ?_, fun n hd hl => ?_⟩
  · dsimp only
    rw [house_users, Dict.lookup_modify]
    split_ifs with hnn
    · subst hnn
      rw [h.users n]
      cases hu : b.users.lookup n with
      | none => rfl
      | some user =>
        obtain ⟨user', hu', ha⟩ := hn
        rw [hu] at hu'
        cases hu'
        by_cases hd : n ∈ done
        · simp [ha, hd, User.settle]
        · simp [ha, hd, User.settle]
    · rw [h.users n]
      simp [hnn]
  · have hne : id ≠ accountHomeSessionId name := fun he => hid name (by simp) hn he.symm
    obtain ⟨h₁, h₂⟩ := h.other id fun n hd => hid n ((hmem n).2 (.inr hd))
    exact ⟨(house_unit_ne s name timestamp hne).trans h₁, (house_post_ne s name timestamp hne).trans h₂⟩
  · by_cases hhome : accountHomeSessionId n = accountHomeSessionId name
    · rw [hhome]
      obtain ⟨unit, hunit, hnew⟩ := house_unit s name timestamp
      refine ⟨name, unit, hn, rfl, fun w hw _ _ => ?_, hunit, ?_⟩
      · rcases (hmem w).1 hw with rfl | hw
        · exact le_rfl
        · exact hle w hw
      · -- The Unit is from an earlier user with this home, or from before.
        by_cases hearlier : ∃ m ∈ done, b.Login m ∧
            accountHomeSessionId m = accountHomeSessionId name
        · obtain ⟨m, hm, hml, hmh⟩ := hearlier
          obtain ⟨v, u, -, -, -, hu, hhu⟩ := h.unit m hm hml
          rw [hmh] at hu hhu
          rw [hu] at hnew
          exact hhu.again hnew
        · rw [← (h.other _ fun m hm hml hmh => hearlier ⟨m, hm, hml, hmh⟩).1]
          exact hnew
    · have hd' : n ∈ done := by
        rcases (hmem n).1 hd with rfl | hd
        · exact absurd rfl hhome
        · exact hd
      obtain ⟨v, unit, hv, hvh, hlast, hu, hhu⟩ := h.unit n hd' hl
      refine ⟨v, unit, hv, hvh, fun w hw hwl hwh => ?_, ?_, hhu⟩
      · rcases (hmem w).1 hw with rfl | hw
        · exact absurd hwh.symm hhome
        · exact hlast w hw hwl hwh
      · exact (house_unit_ne s name timestamp hhome).trans hu
  · by_cases hhome : accountHomeSessionId n = accountHomeSessionId name
    · rw [hhome]
      exact house_post s name timestamp
    · rcases (hmem n).1 hd with rfl | hd
      · exact absurd rfl hhome
      · exact (house_post_ne s name timestamp hhome).trans (h.post n hd hl)

/-- The home ids of the login users are not yet set, or are their own. -/
def CanHouse (b : State) : Prop :=
  ∀ n user, b.users.lookup n = some user → user.status = .active → user.CanSettle n

/-- The users after a round. -/
theorem HousedUpTo.lookup {done : List String} (h : HousedUpTo b s done) (hb : b.CanHouse)
    {user : User} (hu : b.users.lookup name = some user) (ha : user.status = .active) :
    ∃ user', s.users.lookup name = some user' ∧ user'.status = .active ∧ user'.CanSettle name := by
  rw [h.users name, hu]
  by_cases hd : name ∈ done
  · refine ⟨user.settle name, by simp [ha, hd], ha, .inr rfl, .inr rfl⟩
  · exact ⟨user, by simp [hd], ha, hb name user hu ha⟩

/-- **One round** settles its user. -/
theorem HousedUpTo.round {done : List String} (h : HousedUpTo b s done) (hb : b.CanHouse)
    (hle : ∀ n ∈ done, n ≤ name) (hok : s.ensureUserHome timestamp name = .ok s') :
    HousedUpTo b s' (done ++ [name]) := by
  cases hu : b.users.lookup name with
  | none =>
    have hnone : s.users.lookup name = none := by rw [h.users name, hu]; rfl
    unfold ensureUserHome at hok
    rw [hnone] at hok
    cases hok
    refine h.skip ?_
    rintro ⟨user, hlook, -⟩
    rw [hu] at hlook
    cases hlook
  | some user =>
    by_cases ha : user.status = .active
    · obtain ⟨user', hu', ha', hc⟩ := h.lookup hb hu ha
      obtain ⟨edges, rfl⟩ := ensureUserHome_cases hu' ha' hc hok
      exact h.settle ⟨user, hu, ha⟩ hle timestamp edges
    · have hs : user.status = .service := by
        cases hst : user.status with
        | active => exact absurd hst ha
        | service => rfl
      have hlook : s.users.lookup name = some user := by
        rw [h.users name, hu]
        simp [ha]
      unfold ensureUserHome at hok
      rw [hlook] at hok
      dsimp only at hok
      rw [if_pos hs] at hok
      cases hok
      refine h.skip ?_
      rintro ⟨user', hlook', ha'⟩
      rw [hu] at hlook'
      cases hlook'
      exact ha ha'

/-- **All rounds**, in the order of the names. -/
theorem HousedUpTo.rounds (hb : b.CanHouse) : ∀ {rest done : List String} {s : State},
    HousedUpTo b s done → (done ++ rest).Pairwise (· ≤ ·) →
      rest.foldlM (fun s username => s.ensureUserHome timestamp username) s = .ok s' →
        HousedUpTo b s' (done ++ rest) := by
  intro rest
  induction rest with
  | nil =>
    intro done s h _ hok
    cases hok
    rwa [List.append_nil]
  | cons name rest ih =>
    intro done s h hsorted hok
    rw [List.foldlM_cons] at hok
    obtain ⟨s₁, h₁, hok⟩ := Except.bind_eq_ok.1 hok
    have hle : ∀ n ∈ done, n ≤ name := fun n hn =>
      (List.pairwise_append.1 hsorted).2.2 n hn name List.mem_cons_self
    have hsplit : done ++ name :: rest = (done ++ [name]) ++ rest := by simp
    rw [hsplit] at hsorted ⊢
    exact ih (h.round hb hle h₁) hsorted hok

/-- **Everyone is housed** after `_ensure_user_home_sessions`. -/
theorem housed_all (hb : b.CanHouse) (hok : b.ensureUserHomeSessions timestamp = .ok s') :
    ∃ done, HousedUpTo b s' done ∧ ∀ n, n ∈ done ↔ n ∈ b.users := by
  refine ⟨b.users.keys.insertionSort (· ≤ ·), ?_, fun n => ?_⟩
  · have h := HousedUpTo.rounds hb (HousedUpTo.start b) (by
      rw [List.nil_append]
      exact List.pairwise_insertionSort (· ≤ ·) _) hok
    rwa [List.nil_append] at h
  · rw [List.mem_insertionSort, AList.mem_keys]

/-! ## Housed states -/

theorem mem_sessions_iff {id : String} : id ∈ s.sessions ↔ ∃ p, s.post id = some p := by
  unfold post
  rw [Dict.mem_iff_lookup]
  constructor
  · rintro ⟨session, hs⟩
    exact ⟨_, by rw [hs]; rfl⟩
  · rintro ⟨p, hp⟩
    obtain ⟨session, hs, -⟩ := Option.map_eq_some_iff.1 hp
    exact ⟨session, hs⟩

/-- A state in which everyone can be housed, and every id refers to something. -/
structure Furnished (s : State) : Prop where
  name : ∀ n user, s.users.lookup n = some user → strip n = n ∧ n ≠ ""
  root : ∃ user, s.users.lookup rootUsername = some user
  account : ∀ spec ∈ providerServiceAccounts, ∃ user, s.users.lookup spec.account = some user
  canHouse : s.CanHouse
  service : ∀ n user, s.users.lookup n = some user → user.status = .service →
    user.homeSessionId = ""
  unitId : ∀ id unit, s.units.lookup id = some unit → strip id ≠ ""
  sessionId : ∀ id p, s.post id = some p → strip id ≠ ""
  owner : ∀ id unit, s.units.lookup id = some unit → unit.ownerAccount = "" ∨
    ∃ user, s.users.lookup unit.ownerAccount = some user
  normal : ∀ id unit, s.units.lookup id = some unit → unit.Normal
  unit : ∀ id p, s.post id = some p → strip p.unitId = p.unitId ∧
    (p.unitId = "" ∨ ∃ unit, s.units.lookup p.unitId = some unit)
  rootUnit : ∃ unit, s.units.lookup rootUnitId = some unit ∧ unit.instancePolicy = .singleton ∧
    unit.singletonSessionId = rootSessionId ∧ unit.ownerAccount = ""
  rootPost : s.post rootSessionId = some ⟨rootUnitId, true⟩

/-- **A state as it is stored**: everyone is housed. -/
structure Housed (s : State) : Prop extends Furnished s where
  home : ∀ n user, s.users.lookup n = some user → user.status = .active → user.settle n = user
  homeUnit : ∀ n, s.Login n → ∃ v unit, s.Heir (accountHomeSessionId n) v ∧
    s.units.lookup (accountHomeSessionId n) = some unit ∧ unit.instancePolicy = .singleton ∧
    unit.singletonSessionId = accountHomeSessionId n ∧ unit.ownerAccount = v
  homePost : ∀ n, s.Login n → s.post (accountHomeSessionId n) = some ⟨accountHomeSessionId n, true⟩

/-- A Unit that is there afterwards was there before. -/
theorem SameTenants.unit_before (h : SameTenants s s') {id : String} {unit' : UnitRecord}
    (hu : s'.units.lookup id = some unit') :
    ∃ unit, s.units.lookup id = some unit ∧ unit.Kept unit' := by
  have hr := h.unit id
  rw [hu] at hr
  cases hl : s.units.lookup id with
  | none => rw [hl] at hr; cases hr
  | some unit =>
    rw [hl] at hr
    cases hr with
    | some hk => exact ⟨unit, rfl, hk⟩

/-- A Unit that was there before is still there. -/
theorem SameTenants.unit_after (h : SameTenants s s') {id : String} {unit : UnitRecord}
    (hu : s.units.lookup id = some unit) :
    ∃ unit', s'.units.lookup id = some unit' ∧ unit.Kept unit' := by
  have hr := h.unit id
  rw [hu] at hr
  cases hl : s'.units.lookup id with
  | none => rw [hl] at hr; cases hr
  | some unit' =>
    rw [hl] at hr
    cases hr with
    | some hk => exact ⟨unit', rfl, hk⟩

theorem SameTenants.login_iff (h : SameTenants s s') {n : String} : s'.Login n ↔ s.Login n := by
  unfold Login
  rw [h.users n]

theorem SameTenants.heir_iff (h : SameTenants s s') {home v : String} :
    s'.Heir home v ↔ s.Heir home v := by
  constructor
  · intro hv
    exact ⟨h.login_iff.1 hv.login, hv.home, fun w hw => hv.last w (h.login_iff.2 hw)⟩
  · intro hv
    exact ⟨h.login_iff.2 hv.login, hv.home, fun w hw => hv.last w (h.login_iff.1 hw)⟩

theorem SameTenants.mem_units (h : SameTenants s t) {id : String} :
    id ∈ t.units ↔ id ∈ s.units := by
  rw [Dict.mem_iff_lookup, Dict.mem_iff_lookup]
  constructor
  · rintro ⟨u, hu⟩
    obtain ⟨u₀, hu₀, -⟩ := h.unit_before hu
    exact ⟨u₀, hu₀⟩
  · rintro ⟨u, hu⟩
    obtain ⟨u', hu', -⟩ := h.unit_after hu
    exact ⟨u', hu'⟩

theorem SameTenants.mem_sessions (h : SameTenants s t) {id : String} :
    id ∈ t.sessions ↔ id ∈ s.sessions := by
  rw [mem_sessions_iff, mem_sessions_iff, h.post]

theorem Furnished.same (hs : s.Furnished) (h : SameTenants s s') : s'.Furnished where
  name n user hu := hs.name n user (h.users n ▸ hu)
  root := by
    rw [h.users]
    exact hs.root
  account spec hm := by
    rw [h.users]
    exact hs.account spec hm
  canHouse n user hu := hs.canHouse n user (h.users n ▸ hu)
  service n user hu := hs.service n user (h.users n ▸ hu)
  unitId id unit hu := by
    obtain ⟨unit₀, hu₀, -⟩ := h.unit_before hu
    exact hs.unitId id unit₀ hu₀
  sessionId id p hp := hs.sessionId id p (h.post ▸ hp)
  owner id unit hu := by
    obtain ⟨unit₀, hu₀, hk⟩ := h.unit_before hu
    rw [hk.owner, h.users]
    exact hs.owner id unit₀ hu₀
  normal id unit hu := by
    obtain ⟨unit₀, hu₀, hk⟩ := h.unit_before hu
    exact hk.normal (hs.normal id unit₀ hu₀)
  unit id p hp := by
    obtain ⟨hstrip, hu⟩ := hs.unit id p (h.post ▸ hp)
    refine ⟨hstrip, hu.imp_right ?_⟩
    rintro ⟨unit, hu⟩
    obtain ⟨unit', hu', -⟩ := h.unit_after hu
    exact ⟨unit', hu'⟩
  rootUnit := by
    obtain ⟨unit, hu, hp, hsing, ho⟩ := hs.rootUnit
    obtain ⟨unit', hu', hk⟩ := h.unit_after hu
    exact ⟨unit', hu', hk.policy.trans hp, hk.singleton.trans hsing, hk.owner.trans ho⟩
  rootPost := by
    rw [h.post]
    exact hs.rootPost

/-- **The same tenants** are housed as before. -/
theorem Housed.same (hs : s.Housed) (h : SameTenants s s') : s'.Housed where
  toFurnished := hs.toFurnished.same h
  home n user hu := hs.home n user (h.users n ▸ hu)
  homeUnit n hn := by
    obtain ⟨v, unit, hv, hu, hp, hsing, ho⟩ := hs.homeUnit n (h.login_iff.1 hn)
    obtain ⟨unit', hu', hk⟩ := h.unit_after hu
    exact ⟨v, unit', h.heir_iff.2 hv, hu', hk.policy.trans hp, hk.singleton.trans hsing,
      hk.owner.trans ho⟩
  homePost n hn := by
    rw [h.post]
    exact hs.homePost n (h.login_iff.1 hn)

/-! ## Loading -/

theorem SameTenants.foldlM {α : Type} {f : State → α → Except Err State} {l : List α}
    (hf : ∀ s a s', f s a = .ok s' → SameTenants s s') (h : l.foldlM f s = .ok s') :
    SameTenants s s' :=
  Except.foldlM_invariant (P := SameTenants s) h (.refl s) fun a _ s₁ s₂ h₁ h₂ =>
    h₁.trans (hf s₁ a s₂ h₂)

theorem Housed.same_rootUnit (h : s.Housed) : SameTenants s s.ensureRootUnit := by
  obtain ⟨unit, hu, hp, hsing, -⟩ := h.rootUnit
  unfold ensureRootUnit
  rw [hu]
  refine (routine_modifyUnit _ _ fun u hlook => ?_).toSameTenants
  rw [hu] at hlook
  cases hlook
  exact ⟨rfl, hp.symm, hsing.symm, rfl, fun hn => ⟨hn.schedule, hn.triggers⟩⟩

theorem same_storedUnit {unitId : String} (h : s.normalizeStoredUnit unitId = .ok s') :
    SameTenants s s' := by
  unfold normalizeStoredUnit at h
  cases hu : s.units.lookup unitId with
  | none =>
    rw [hu] at h
    cases h
    exact .refl s
  | some unit =>
    rw [hu] at h
    obtain ⟨unit', hunit, h⟩ := Except.bind_eq_ok.1 h
    cases h
    refine (routine_modifyUnit _ _ fun u hlook => ?_).toSameTenants
    rw [hu] at hlook
    cases hlook
    exact (kept_of_normalize hunit).1

theorem Housed.same_rootSession (h : s.Housed) (hok : s.ensureRootSession timestamp = .ok s') :
    SameTenants s s' := by
  have hpost := h.rootPost
  unfold post at hpost
  obtain ⟨session, hs, hp⟩ := Option.map_eq_some_iff.1 hpost
  unfold ensureRootSession at hok
  rw [hs] at hok
  dsimp only at hok
  split_ifs at hok
  cases hok
  refine (routine_setSession _ _ fun x hx => ?_).toSameTenants
  rw [hs] at hx
  cases hx
  exact ⟨rfl, (congrArg Post.singleton hp).symm⟩

theorem Housed.same_accounts (h : s.Housed) : s.ensureAccounts.users = s.users := by
  unfold ensureAccounts
  dsimp only
  rw [if_pos (Dict.mem_iff_lookup.2 h.root)]
  have hfold : ∀ specs : List ProviderAccount, (∀ spec ∈ specs, spec.account ∈ s.users) →
      specs.foldl (fun users spec => if spec.account ∈ users then users
        else users.insert spec.account
          { groups := spec.groups, status := .service, provider := spec.provider }) s.users =
        s.users := by
    intro specs
    induction specs with
    | nil => exact fun _ => rfl
    | cons spec specs ih =>
      intro hmem
      rw [List.foldl_cons, if_pos (hmem spec List.mem_cons_self)]
      exact ih fun spec' hm => hmem spec' (List.mem_cons_of_mem spec hm)
  exact hfold _ fun spec hm => Dict.mem_iff_lookup.2 (h.account spec hm)

/-- **Everyone keeps the home** they have. -/
theorem Housed.same_homes (h : s.Housed) (hok : s.ensureUserHomeSessions timestamp = .ok s') :
    SameTenants s s' := by
  obtain ⟨done, hall, hdone⟩ := housed_all h.canHouse hok
  have hmem : ∀ n, s.Login n → n ∈ done := by
    rintro n ⟨user, hu, -⟩
    exact (hdone n).2 (Dict.mem_iff_lookup.2 ⟨user, hu⟩)
  refine ⟨fun n => ?_, funext fun id => ?_, fun id => ?_⟩
  · rw [hall.users n]
    cases hu : s.users.lookup n with
    | none => rfl
    | some user =>
      by_cases ha : user.status = .active
      · simp [ha, (hdone n).2 (Dict.mem_iff_lookup.2 ⟨user, hu⟩), h.home n user hu ha]
      · simp [ha]
  · by_cases hid : ∃ n ∈ done, s.Login n ∧ accountHomeSessionId n = id
    · obtain ⟨n, hn, hl, rfl⟩ := hid
      rw [hall.post n hn hl, h.homePost n hl]
    · exact (hall.other id fun n hn hl he => hid ⟨n, hn, hl, he⟩).2
  · by_cases hid : ∃ n ∈ done, s.Login n ∧ accountHomeSessionId n = id
    · obtain ⟨n, hn, hl, rfl⟩ := hid
      obtain ⟨v, unit, hv, hvh, hlast, hu, hhome⟩ := hall.unit n hn hl
      obtain ⟨w, unit₀, hw, hu₀, hp, hsing, ho⟩ := h.homeUnit n hl
      have hvw : v = w := Heir.unique ⟨hv, hvh, fun x hx => hlast x (hmem x hx) hx⟩ hw
      rw [hu₀] at hhome ⊢
      rw [hu]
      refine .some ⟨?_, hhome.policy.trans hp.symm, hhome.singleton.trans hsing.symm, hhome.groups,
        fun hn => hhome.normal fun u hu => ?_⟩
      · rw [hhome.owner, hvw, ho]
      · cases hu
        exact hn
    · rw [(hall.other id fun n hn hl he => hid ⟨n, hn, hl, he⟩).1]
      exact SameTenants.keeps_refl _

theorem same_link {p c : String} (h : s.linkSessionsInState p c = .ok s') : SameTenants s s' := by
  unfold linkSessionsInState at h
  split_ifs at h <;> cases h
  · exact .refl s
  · exact .of_fields rfl rfl rfl

/-- The edge from the owner leaves the tenants alone. -/
theorem same_ownerParent {sid : String} (h : s.ensureOwnerParent sid = .ok s') :
    SameTenants s s' := by
  unfold ensureOwnerParent at h
  dsimp only at h
  split at h
  · cases h
    exact .refl s
  · split_ifs at h
    · cases h
      exact .refl s
    all_goals obtain ⟨-, h⟩ := Except.require_bind_eq_ok.1 h
    · cases h
      exact .of_fields rfl rfl rfl
    · obtain ⟨s₁, h₁, h⟩ := Except.bind_eq_ok.1 h
      cases h
      exact (same_link h₁).trans (.of_fields rfl rfl rfl)

theorem same_rootEdges (ids : List String) (s : State) :
    SameTenants s (ids.foldl ensureRootEdge s) := by
  induction ids generalizing s with
  | nil => exact .refl s
  | cons id ids ih =>
    refine SameTenants.trans ?_ (ih _)
    unfold ensureRootEdge
    split_ifs
    · exact .refl s
    · exact .of_fields rfl rfl rfl

/-- **A load keeps the tenants** of a housed state. -/
theorem Housed.same_defaults (h : s.Housed) (hok : s.ensureDefaults timestamp = .ok s') :
    SameTenants s s' := by
  unfold ensureDefaults at hok
  dsimp only at hok
  obtain ⟨s₁, h₁, hok⟩ := Except.bind_eq_ok.1 hok
  obtain ⟨s₂, h₂, hok⟩ := Except.bind_eq_ok.1 hok
  obtain ⟨s₃, h₃, hok⟩ := Except.bind_eq_ok.1 hok
  obtain ⟨s₄, h₄, hok⟩ := Except.bind_eq_ok.1 hok
  obtain ⟨-, -, hok⟩ := Except.bind_eq_ok.1 hok
  cases hok
  have e₀ : SameTenants s (if s.dispatchLotSize = 0 then { s with dispatchLotSize := 1 } else s) := by
    split_ifs
    · exact .of_fields rfl rfl rfl
    · exact .refl s
  have e₁ := e₀.trans (((h.same e₀).same_rootUnit).trans
    (.foldlM (fun _ _ _ h => same_storedUnit h) h₁))
  have e₂ := e₁.trans ((h.same e₁).same_rootSession h₂)
  have e₃ := e₂.trans (.of_fields (h.same e₂).same_accounts rfl rfl : SameTenants s₂ _)
  have e₄ := e₃.trans ((h.same e₃).same_homes h₃)
  have e₅ := e₄.trans (.foldlM (fun _ _ _ h => same_ownerParent h) h₄)
  exact (e₅.trans (same_rootEdges _ _)).trans (.of_fields rfl rfl rfl)

theorem Housed.same_load (h : s.Housed) (hl : s.load env = .ok s') : SameTenants s s' := by
  have hstored : SameTenants s s.stored := .of_fields rfl rfl rfl
  exact hstored.trans ((h.same hstored).same_defaults hl)

/-! ## New homes -/

theorem home_ne_empty (name : String) : strip (accountHomeSessionId name) ≠ "" := by
  rw [strip_accountHomeSessionId]
  intro h
  have hlist := congrArg String.toList h
  rw [accountHomeSessionId, String.toList_append] at hlist
  exact absurd (List.append_eq_nil_iff.1 hlist).1 (by decide)

/-- What an id was, it still is, unless it is a home. -/
theorem HousedUpTo.home_or_same {done : List String} (h : HousedUpTo b s done) (id : String) :
    (∃ n, b.Login n ∧ accountHomeSessionId n = id) ∨
      s.units.lookup id = b.units.lookup id ∧ s.post id = b.post id := by
  by_cases hid : ∃ n, b.Login n ∧ accountHomeSessionId n = id
  · exact .inl hid
  · exact .inr (h.other id fun n _ hl he => hid ⟨n, hl, he⟩)

/-- The users afterwards: those who can log in have their home ids. -/
theorem housed_users (hb : b.CanHouse) (hok : b.ensureUserHomeSessions timestamp = .ok s')
    (n : String) : s'.users.lookup n = (b.users.lookup n).map fun u =>
      if u.status = .active then u.settle n else u := by
  obtain ⟨done, hall, hdone⟩ := housed_all hb hok
  rw [hall.users n]
  cases hu : b.users.lookup n with
  | none => rfl
  | some u => simp [(hdone n).2 (Dict.mem_iff_lookup.2 ⟨u, hu⟩)]

theorem housed_login (hb : b.CanHouse) (hok : b.ensureUserHomeSessions timestamp = .ok s')
    (n : String) : s'.Login n ↔ b.Login n := by
  unfold Login
  rw [housed_users hb hok n]
  cases hu : b.users.lookup n with
  | none => simp
  | some u => by_cases hact : u.status = .active <;> simp [hact, User.settle]

/-- The home Units afterwards. -/
theorem housed_unit (hb : b.CanHouse) (hok : b.ensureUserHomeSessions timestamp = .ok s')
    {n : String} (hn : b.Login n) : ∃ v unit, s'.Heir (accountHomeSessionId n) v ∧
      s'.units.lookup (accountHomeSessionId n) = some unit ∧
      HomeUnit (b.units.lookup (accountHomeSessionId n)) (accountHomeSessionId n) v unit := by
  obtain ⟨done, hall, hdone⟩ := housed_all hb hok
  have hmem : ∀ n, b.Login n → n ∈ done := by
    rintro n ⟨u, hu, -⟩
    exact (hdone n).2 (Dict.mem_iff_lookup.2 ⟨u, hu⟩)
  obtain ⟨v, unit, hv, hvh, hlast, hu, hhu⟩ := hall.unit n (hmem n hn) hn
  refine ⟨v, unit, ⟨(housed_login hb hok v).2 hv, hvh, fun w hw => ?_⟩, hu, hhu⟩
  have hw' := (housed_login hb hok w).1 hw
  exact hlast w (hmem w hw') hw'

/-- The home Sessions afterwards, and everything else. -/
theorem housed_post (hb : b.CanHouse) (hok : b.ensureUserHomeSessions timestamp = .ok s')
    (id : String) : (∃ n, b.Login n ∧ accountHomeSessionId n = id ∧ s'.post id = some ⟨id, true⟩) ∨
      s'.units.lookup id = b.units.lookup id ∧ s'.post id = b.post id := by
  obtain ⟨done, hall, hdone⟩ := housed_all hb hok
  rcases hall.home_or_same id with ⟨n, hn, rfl⟩ | hs
  · obtain ⟨u, hu, -⟩ := id hn
    exact .inl ⟨n, hn, rfl, hall.post n ((hdone n).2 (Dict.mem_iff_lookup.2 ⟨u, hu⟩)) hn⟩
  · exact .inr hs

/-- The Sessions of before are still there. -/
theorem housed_sessions (hb : b.CanHouse) (hok : b.ensureUserHomeSessions timestamp = .ok s')
    {id : String} (hid : id ∈ b.sessions) : id ∈ s'.sessions := by
  rcases housed_post hb hok id with ⟨n, -, rfl, hp⟩ | ⟨-, hsame⟩
  · exact mem_sessions_iff.2 ⟨_, hp⟩
  · obtain ⟨p, hp⟩ := mem_sessions_iff.1 hid
    exact mem_sessions_iff.2 ⟨p, hsame.trans hp⟩

/-- **Everyone is housed** once the homes are made. -/
theorem Furnished.housed (h : b.Furnished) (hok : b.ensureUserHomeSessions timestamp = .ok s') :
    s'.Housed := by
  have husers := housed_users h.canHouse hok
  have hlogin := housed_login h.canHouse hok
  have hunit := fun n => housed_unit h.canHouse hok (n := n)
  have hpost := housed_post h.canHouse hok
  have hexists : ∀ n, (∃ u, b.users.lookup n = some u) → ∃ u, s'.users.lookup n = some u := by
    rintro n ⟨u, hu⟩
    rw [husers n, hu]
    exact ⟨_, rfl⟩
  have hunits : ∀ x, (∃ unit, b.units.lookup x = some unit) →
      ∃ unit, s'.units.lookup x = some unit := by
    rintro x ⟨unit, hu⟩
    rcases hpost x with ⟨n, hn, rfl, -⟩ | ⟨hs, -⟩
    · obtain ⟨v, unit', -, hu', -⟩ := hunit n hn
      exact ⟨unit', hu'⟩
    · exact ⟨unit, hs.trans hu⟩
  have hroot : ¬∃ n, b.Login n ∧ accountHomeSessionId n = rootSessionId ∧
      s'.post rootSessionId = some ⟨rootSessionId, true⟩ := by
    rintro ⟨n, -, he, -⟩
    exact home_ne_root n he
  have hsettled : ∀ n u, s'.users.lookup n = some u → u.status = .active → u.settle n = u := by
    intro n u hu hact
    rw [husers n] at hu
    obtain ⟨u₀, -, rfl⟩ := Option.map_eq_some_iff.1 hu
    by_cases hact₀ : u₀.status = .active
    · simp [hact₀, User.settle]
    · simp [hact₀] at hact
  refine ⟨⟨?_, hexists _ h.root, fun spec hm => hexists _ (h.account spec hm), ?_, ?_, ?_, ?_, ?_, ?_,
    ?_, ?_, ?_⟩, hsettled, ?_, ?_⟩
  · intro n u hu
    rw [husers n] at hu
    obtain ⟨u₀, hu₀, -⟩ := Option.map_eq_some_iff.1 hu
    exact h.name n u₀ hu₀
  · intro n u hu hact
    have hset := hsettled n u hu hact
    exact ⟨.inr (congrArg User.homeSessionId hset).symm, .inr (congrArg User.homeUnitId hset).symm⟩
  · intro n u hu hs
    rw [husers n] at hu
    obtain ⟨u₀, hu₀, rfl⟩ := Option.map_eq_some_iff.1 hu
    by_cases hact₀ : u₀.status = .active
    · simp [hact₀, User.settle] at hs
    · rw [if_neg hact₀] at hs ⊢
      exact h.service n u₀ hu₀ hs
  · intro id unit hu
    rcases hpost id with ⟨n, -, rfl, -⟩ | ⟨hs, -⟩
    · exact home_ne_empty n
    · exact h.unitId id unit (hs ▸ hu)
  · intro id p hp
    rcases hpost id with ⟨n, -, rfl, -⟩ | ⟨-, hs⟩
    · exact home_ne_empty n
    · exact h.sessionId id p (hs ▸ hp)
  · intro id unit hu
    rcases hpost id with ⟨n, hn, rfl, -⟩ | ⟨hs, -⟩
    · obtain ⟨v, unit', hv, hu', hhu⟩ := hunit n hn
      rw [hu] at hu'
      cases hu'
      obtain ⟨u, hlook, -⟩ := hv.login
      exact .inr ⟨u, by rw [hhu.owner]; exact hlook⟩
    · exact (h.owner id unit (hs ▸ hu)).imp_right (hexists _)
  · intro id unit hu
    rcases hpost id with ⟨n, hn, rfl, -⟩ | ⟨hs, -⟩
    · obtain ⟨v, unit', -, hu', hhu⟩ := hunit n hn
      rw [hu] at hu'
      cases hu'
      exact hhu.normal fun u hu => h.normal _ u hu
    · exact h.normal id unit (hs ▸ hu)
  · intro id p hp
    rcases hpost id with ⟨n, hn, rfl, hp'⟩ | ⟨-, hs⟩
    · rw [hp'] at hp
      cases hp
      obtain ⟨v, unit', -, hu', -⟩ := hunit n hn
      exact ⟨strip_accountHomeSessionId n, .inr ⟨unit', hu'⟩⟩
    · obtain ⟨hstrip, hp'⟩ := h.unit id p (hs ▸ hp)
      exact ⟨hstrip, hp'.imp_right (hunits _)⟩
  · rcases hpost rootUnitId with hr | ⟨hs, -⟩
    · exact absurd hr hroot
    · rw [hs]
      exact h.rootUnit
  · rcases hpost rootSessionId with hr | ⟨-, hs⟩
    · exact absurd hr hroot
    · rw [hs]
      exact h.rootPost
  · intro n hn
    obtain ⟨v, unit, hv, hu, hhu⟩ := hunit n ((hlogin n).1 hn)
    exact ⟨v, unit, hv, hu, hhu.policy, hhu.singleton, hhu.owner⟩
  · intro n hn
    obtain ⟨done, hall, hdone⟩ := housed_all h.canHouse hok
    have hn' := (hlogin n).1 hn
    obtain ⟨u, hu, -⟩ := id hn'
    exact hall.post n ((hdone n).2 (Dict.mem_iff_lookup.2 ⟨u, hu⟩)) hn'

/-! ## A new user -/

/-- The state with a new user, before the home is made. -/
def enlist (s : State) (name : String) (user : User) : State :=
  { s with users := s.users.insert name user }

theorem lookup_enlist (s : State) (name : String) (user : User) (n : String) :
    (s.enlist name user).users.lookup n = if n = name then some user else s.users.lookup n := by
  rw [enlist, Dict.lookup_insert_of]

/-- A new user can be housed. -/
theorem Furnished.enlist (h : s.Furnished) {user : User} (hname : strip name = name ∧ name ≠ "")
    (hhome : user.homeSessionId = "" ∧ user.homeUnitId = "") : (s.enlist name user).Furnished := by
  have hlook := lookup_enlist s name user
  have hexists : ∀ n, (∃ u, s.users.lookup n = some u) →
      ∃ u, (s.enlist name user).users.lookup n = some u := by
    rintro n ⟨u, hu⟩
    rw [hlook n]
    split_ifs
    · exact ⟨_, rfl⟩
    · exact ⟨u, hu⟩
  refine ⟨?_, hexists _ h.root, fun spec hm => hexists _ (h.account spec hm), ?_, ?_, h.unitId,
    h.sessionId, fun id unit hu => (h.owner id unit hu).imp_right (hexists _), h.normal, h.unit,
    h.rootUnit, h.rootPost⟩
  · intro n u hu
    rw [hlook n] at hu
    split_ifs at hu with hn
    · rw [hn]
      exact hname
    · exact h.name n u hu
  · intro n u hu hact
    rw [hlook n] at hu
    split_ifs at hu
    · cases hu
      exact ⟨.inl hhome.1, .inl hhome.2⟩
    · exact h.canHouse n u hu hact
  · intro n u hu hs
    rw [hlook n] at hu
    split_ifs at hu
    · cases hu
      exact hhome.1
    · exact h.service n u hu hs

/-! ## A new store -/

/-- The root Unit of a new store. -/
def newRootUnit : UnitRecord :=
  { instancePolicy := .singleton
    singletonSessionId := rootSessionId
    activationTriggers := some ⟨true, false, false⟩ }

/-- A new store, with only the root Unit. -/
def newUnits : State := { dispatchLotSize := 1, units := AList.insert rootUnitId newRootUnit ∅ }

/-- The root Session of a new store. -/
def newRootSession (timestamp : String) : Session :=
  { unitId := rootUnitId, singleton := true, updatedAt := timestamp }

theorem normalize_newRootUnit : normalizeUnit
    { instancePolicy := .singleton, singletonSessionId := rootSessionId } = .ok newRootUnit := by
  have h : (normalizeUnit
      { instancePolicy := .singleton, singletonSessionId := rootSessionId }).toOption =
        some newRootUnit := by
    decide +kernel
  cases hn : normalizeUnit { instancePolicy := .singleton, singletonSessionId := rootSessionId } with
  | error e => rw [hn] at h; cases h
  | ok unit => rw [hn] at h; exact congrArg Except.ok (Option.some.inj h)

theorem new_units : (State.ensureRootUnit { dispatchLotSize := 1 }).units.keys.foldlM
    normalizeStoredUnit (State.ensureRootUnit { dispatchLotSize := 1 }) = .ok newUnits := by
  change [rootUnitId].foldlM normalizeStoredUnit (State.ensureRootUnit { dispatchLotSize := 1 }) = _
  rw [List.foldlM_cons]
  have hlook : (State.ensureRootUnit { dispatchLotSize := 1 }).units.lookup rootUnitId =
      some { instancePolicy := .singleton, singletonSessionId := rootSessionId } := rfl
  unfold normalizeStoredUnit
  rw [hlook]
  dsimp only
  rw [normalize_newRootUnit]
  rfl

/-- The accounts of a new store. -/
theorem new_accounts {s : State} (hs : s.users = ∅) {n : String} {user : User}
    (hu : s.ensureAccounts.users.lookup n = some user) :
    strip n = n ∧ n ≠ "" ∧ user.homeSessionId = "" ∧ user.homeUnitId = "" := by
  have hall : ∀ e ∈ (State.ensureAccounts {}).users.entries, strip e.1 = e.1 ∧ e.1 ≠ "" ∧
      e.2.homeSessionId = "" ∧ e.2.homeUnitId = "" := by
    decide +kernel
  have husers : s.ensureAccounts.users = (State.ensureAccounts {}).users := by
    unfold ensureAccounts
    rw [hs]
  rw [husers] at hu
  exact hall ⟨n, user⟩ (AList.mem_lookup_iff.1 hu)

/-- A new store can be housed. -/
theorem furnished_new {s : State} (hok : newUnits.ensureRootSession timestamp = .ok s) :
    s.ensureAccounts.Furnished := by
  have hs : s = { newUnits with
      sessions := AList.insert rootSessionId (newRootSession timestamp) ∅ } :=
    (Except.ok.inj hok).symm
  have hempty : s.users = ∅ := by rw [hs]; rfl
  have hunit : ∀ id, s.ensureAccounts.units.lookup id =
      if id = rootUnitId then some newRootUnit else none := by
    intro id
    rw [hs]
    exact Dict.lookup_insert_of _ _ _ _
  have hpost : ∀ id, s.ensureAccounts.post id =
      if id = rootSessionId then some ⟨rootUnitId, true⟩ else none := by
    intro id
    have hlook : s.ensureAccounts.sessions.lookup id =
        if id = rootSessionId then some (newRootSession timestamp) else none := by
      rw [hs]
      exact Dict.lookup_insert_of _ _ _ _
    rw [post, hlook]
    split_ifs <;> rfl
  have hnormal : newRootUnit.Normal := by
    constructor
    · rintro x ⟨⟩
    · rintro t ⟨⟩
      rfl
  have haccount : ∀ n ∈ (State.ensureAccounts {}).users.keys,
      ∃ user, s.ensureAccounts.users.lookup n = some user := by
    intro n hn
    have husers : s.ensureAccounts.users = (State.ensureAccounts {}).users := by
      unfold ensureAccounts
      rw [hempty]
    rw [husers]
    exact Dict.mem_iff_lookup.1 (AList.mem_keys.2 hn)
  refine ⟨fun n user hu => ?_, haccount _ (by decide +kernel), fun spec hm => ?_, fun n user hu _ => ?_,
    fun n user hu _ => (new_accounts hempty hu).2.2.1, fun id unit hu => ?_, fun id p hp => ?_,
    fun id unit hu => ?_, fun id unit hu => ?_, fun id p hp => ?_, ⟨newRootUnit, ?_, rfl, rfl, rfl⟩, ?_⟩
  · obtain ⟨h₁, h₂, -⟩ := new_accounts hempty hu
    exact ⟨h₁, h₂⟩
  · have hall : ∀ spec ∈ providerServiceAccounts,
        spec.account ∈ (State.ensureAccounts {}).users.keys := by
      decide +kernel
    exact haccount _ (hall spec hm)
  · obtain ⟨-, -, h₁, h₂⟩ := new_accounts hempty hu
    exact ⟨.inl h₁, .inl h₂⟩
  · rw [hunit] at hu
    split_ifs at hu with hid
    rw [hid]
    decide
  · rw [hpost] at hp
    split_ifs at hp with hid
    rw [hid]
    decide
  · rw [hunit] at hu
    split_ifs at hu
    cases hu
    exact .inl rfl
  · rw [hunit] at hu
    split_ifs at hu
    cases hu
    exact hnormal
  · rw [hpost] at hp
    split_ifs at hp
    cases hp
    refine ⟨by decide, .inr ⟨newRootUnit, ?_⟩⟩
    rw [hunit]
    exact if_pos rfl
  · rw [hunit]
    exact if_pos rfl
  · rw [hpost]
    exact if_pos rfl

/-- How a new store is made: its accounts are housed, and then only edges are drawn. -/
theorem initNew_spec (hok : State.initNew env = .ok s') :
    ∃ s₁ s₂ s₃, newUnits.ensureRootSession env.utcNow.text = .ok s₁ ∧
      s₁.ensureAccounts.ensureUserHomeSessions env.utcNow.text = .ok s₂ ∧
      s₂.ensureUnitSessionOwnerParents = .ok s₃ ∧
      s' = (s₃.sessions.keys.foldl ensureRootEdge s₃).ensureAgentProfiles.save := by
  unfold initNew at hok
  obtain ⟨s, hs, hok⟩ := Except.bind_eq_ok.1 hok
  cases hok
  change (do
    let s ← (State.ensureRootUnit { dispatchLotSize := 1 }).units.keys.foldlM normalizeStoredUnit
      (State.ensureRootUnit { dispatchLotSize := 1 })
    let s ← s.ensureRootSession env.utcNow.text
    let s ← s.ensureAccounts.ensureUserHomeSessions env.utcNow.text
    let s ← s.ensureUnitSessionOwnerParents
    (s.sessions.keys.foldl ensureRootEdge s).ensureAgentProfiles.checkWorkspaces
    pure (s.sessions.keys.foldl ensureRootEdge s).ensureAgentProfiles) = _ at hs
  rw [new_units, Except.ok_bind] at hs
  obtain ⟨s₁, h₁, hs⟩ := Except.bind_eq_ok.1 hs
  obtain ⟨s₂, h₂, hs⟩ := Except.bind_eq_ok.1 hs
  obtain ⟨s₃, h₃, hs⟩ := Except.bind_eq_ok.1 hs
  obtain ⟨-, -, hs⟩ := Except.bind_eq_ok.1 hs
  cases hs
  exact ⟨s₁, s₂, s₃, h₁, h₂, h₃, rfl⟩

/-- A new store, its accounts housed: the rest moves nothing. -/
theorem initNew_same (hok : State.initNew env = .ok s') :
    ∃ s₁ s₂, newUnits.ensureRootSession env.utcNow.text = .ok s₁ ∧
      s₁.ensureAccounts.ensureUserHomeSessions env.utcNow.text = .ok s₂ ∧ SameTenants s₂ s' := by
  obtain ⟨s₁, s₂, s₃, h₁, h₂, h₃, rfl⟩ := initNew_spec hok
  have e₃ : SameTenants s₂ s₃ := .foldlM (fun _ _ _ h => same_ownerParent h) h₃
  refine ⟨s₁, s₂, h₁, h₂, e₃.trans ((same_rootEdges s₃.sessions.keys s₃).trans ?_)⟩
  exact .of_fields rfl rfl rfl

/-- **A new store is housed.** -/
theorem housed_initNew (hok : State.initNew env = .ok s') : s'.Housed := by
  obtain ⟨s₁, s₂, h₁, h₂, hsame⟩ := initNew_same hok
  exact ((furnished_new h₁).housed h₂).same hsame

/-- Only the root user can log in to a new store. -/
theorem login_initNew (hok : State.initNew env = .ok s') {n : String} (hn : s'.Login n) :
    n = rootUsername := by
  obtain ⟨s₁, s₂, h₁, h₂, hsame⟩ := initNew_same hok
  have hn := (housed_login (furnished_new h₁).canHouse h₂ n).1 (hsame.login_iff.1 hn)
  obtain ⟨user, hu, ha⟩ := hn
  have husers : s₁.ensureAccounts.users = (State.ensureAccounts {}).users := by
    rw [← Except.ok.inj h₁]
    rfl
  have hall : ∀ e ∈ (State.ensureAccounts {}).users.entries,
      e.2.status = .active → e.1 = rootUsername := by
    decide +kernel
  rw [husers] at hu
  exact hall ⟨n, user⟩ (AList.mem_lookup_iff.1 hu) ha

end State
end Aize
