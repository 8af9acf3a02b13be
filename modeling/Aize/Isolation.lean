/-
  Creating users (`create_user`, with `_ensure_user_home_sessions`).

  A new user gets a home Session and a home Unit under an id that is made from the name.
  What already has this id is taken over without a check: a Unit gets another owner, a
  Session another Unit, and two users with names that are sanitised alike share a home.
  `isolates_iff`: nothing else can go wrong, so the creation leaves everything alone exactly
  when no Unit and no Session has the id.
-/
import Aize.Building
import Aize.Reachable

namespace Aize
namespace State

variable {s s' t t' : State} {env : Env} {name username password : String} {groups : List String}

/-- The creation of `name` leaves every Unit and Session with what it was, and gives the user
    a home that no other user has. -/
structure Isolates (s s' : State) (name : String) : Prop where
  unit : ∀ id unit, s.units.lookup id = some unit → ∃ unit', s'.units.lookup id = some unit' ∧
    unit'.ownerAccount = unit.ownerAccount ∧ unit'.instancePolicy = unit.instancePolicy ∧
    unit'.singletonSessionId = unit.singletonSessionId
  session : ∀ id session, s.sessions.lookup id = some session → ∃ session',
    s'.sessions.lookup id = some session' ∧ session'.unitId = session.unitId ∧
    session'.singleton = session.singleton
  home : ∀ user, s'.users.lookup name = some user → ∀ other v, other ≠ name →
    s'.users.lookup other = some v → v.status = .active →
    v.homeSessionId ≠ user.homeSessionId ∧ v.homeUnitId ≠ user.homeUnitId

/-- No Unit and no Session has the id that the home of `name` gets. -/
def HomeFree (s : State) (name : String) : Prop :=
  accountHomeSessionId name ∉ s.units ∧ accountHomeSessionId name ∉ s.sessions

instance decidableHomeFree (s : State) (name : String) : Decidable (s.HomeFree name) :=
  inferInstanceAs (Decidable (_ ∧ _))

/-- Distinct login users have distinct home Sessions. -/
def DistinctHomes (s : State) : Prop :=
  ∀ v w x y, s.users.lookup v = some x → s.users.lookup w = some y → x.status = .active →
    y.status = .active → x.homeSessionId = y.homeSessionId → v = w

/-! ## The homes of a housed state -/

theorem Housed.homeSessionId (hs : s.Housed) {user : User} (hu : s.users.lookup name = some user)
    (ha : user.status = .active) : user.homeSessionId = accountHomeSessionId name :=
  (congrArg User.homeSessionId (hs.home name user hu ha)).symm

theorem Housed.homeUnitId (hs : s.Housed) {user : User} (hu : s.users.lookup name = some user)
    (ha : user.status = .active) : user.homeUnitId = accountHomeSessionId name :=
  (congrArg User.homeUnitId (hs.home name user hu ha)).symm

theorem Housed.distinctHomes_iff (hs : s.Housed) : s.DistinctHomes ↔
    ∀ v w, s.Login v → s.Login w → accountHomeSessionId v = accountHomeSessionId w → v = w := by
  constructor
  · rintro h v w ⟨x, hx, hax⟩ ⟨y, hy, hay⟩ hvw
    refine h v w x y hx hy hax hay ?_
    rw [hs.homeSessionId hx hax, hs.homeSessionId hy hay, hvw]
  · intro h v w x y hx hy hax hay hxy
    refine h v w ⟨x, hx, hax⟩ ⟨y, hy, hay⟩ ?_
    rw [← hs.homeSessionId hx hax, ← hs.homeSessionId hy hay, hxy]

/-! ## One new user -/

/-- The creation of a login user, as the homes of a housed state with one user more. -/
structure Enlisted (s t t' : State) (name : String) (user : User) (now : String) : Prop where
  same : SameTenants s t
  housed : t.Housed
  named : strip name = name ∧ name ≠ ""
  new : name ∉ t.users
  active : user.status = .active
  furnished : (t.enlist name user).Furnished
  homes : (t.enlist name user).ensureUserHomeSessions now = .ok t'

theorem enlisted_of_createUser (hs : s.Housed)
    (h : s.createUser env username password groups = .ok s') :
    ∃ t t' user, s.load env = .ok t ∧ Enlisted s t t' (strip username) user env.utcNow.text ∧
      s' = t'.save := by
  obtain ⟨t, user, t', hl, hne, hnew, ha, hh, hu, ht', rfl⟩ := builds_createUser h
  have hname : strip (strip username) = strip username ∧ strip username ≠ "" :=
    ⟨strip_strip username, hne⟩
  have ht := hs.load hl
  exact ⟨t, t', user, hl, ⟨hs.same_load hl, ht, hname, hnew, ha,
    ht.toFurnished.enlist hname ⟨hh, hu⟩, ht'⟩, rfl⟩

namespace Enlisted

variable {user : User} {now : String}

/-- Who can log in afterwards. -/
theorem login (h : Enlisted s t t' name user now) (n : String) :
    t'.Login n ↔ n = name ∨ t.Login n := by
  rw [housed_login h.furnished.canHouse h.homes]
  unfold Login
  rw [lookup_enlist]
  by_cases hn : n = name
  · simp [hn, h.active]
  · simp [hn]

theorem housed' (h : Enlisted s t t' name user now) : t'.Housed := h.furnished.housed h.homes

theorem homeFree_iff (h : Enlisted s t t' name user now) : t.HomeFree name ↔ s.HomeFree name := by
  unfold HomeFree
  rw [h.same.mem_units, h.same.mem_sessions]

/-- Nobody lives at a free home. -/
theorem home_ne (h : Enlisted s t t' name user now) (hfree : t.HomeFree name) {n : String}
    (hn : t.Login n) : accountHomeSessionId n ≠ accountHomeSessionId name := by
  intro he
  have hmem : accountHomeSessionId n ∈ t.sessions :=
    mem_sessions_iff.2 ⟨_, h.housed.homePost n hn⟩
  exact hfree.2 (he ▸ hmem)

/-- **A new user with a free home** changes no Unit. -/
theorem unit_of_free (h : Enlisted s t t' name user now) (hfree : t.HomeFree name) {id : String}
    {unit : UnitRecord} (hu : t.units.lookup id = some unit) : ∃ unit', t'.units.lookup id = some unit' ∧
      unit'.ownerAccount = unit.ownerAccount ∧ unit'.instancePolicy = unit.instancePolicy ∧
      unit'.singletonSessionId = unit.singletonSessionId := by
  have hcan := h.furnished.canHouse
  rcases housed_post hcan h.homes id with ⟨n, hn, rfl, -⟩ | ⟨hsame, -⟩
  · -- The id is the home of `n`, and its heir is the one of before.
    have hn' := (h.login n).1 ((housed_login hcan h.homes n).2 hn)
    rcases hn' with rfl | hn'
    · exact absurd (Dict.mem_iff_lookup.2 ⟨unit, hu⟩) hfree.1
    obtain ⟨v, unit₀, hv, hu₀, hp, hsing, ho⟩ := h.housed.homeUnit n hn'
    rw [hu] at hu₀
    cases hu₀
    obtain ⟨v', unit', hv', hu', hnew⟩ := housed_unit hcan h.homes hn
    have hheir : t'.Heir (accountHomeSessionId n) v := by
      refine ⟨(h.login v).2 (.inr hv.login), hv.home, fun w hw hwh => ?_⟩
      rcases (h.login w).1 hw with rfl | hw
      · exact absurd hwh.symm (h.home_ne hfree hn')
      · exact hv.last w hw hwh
    refine ⟨unit', hu', ?_, hnew.policy.trans hp.symm, hnew.singleton.trans hsing.symm⟩
    rw [hnew.owner, ho]
    exact hv'.unique hheir
  · exact ⟨unit, hsame.trans hu, rfl, rfl, rfl⟩

/-- It changes no post. -/
theorem post_of_free (h : Enlisted s t t' name user now) (hfree : t.HomeFree name) {id : String}
    {p : Post} (hp : t.post id = some p) : t'.post id = some p := by
  have hcan := h.furnished.canHouse
  rcases housed_post hcan h.homes id with ⟨n, hn, rfl, hpost⟩ | ⟨-, hsame⟩
  · rcases (h.login n).1 ((housed_login hcan h.homes n).2 hn) with rfl | hn'
    · exact absurd (mem_sessions_iff.2 ⟨p, hp⟩) hfree.2
    · rw [hpost, ← h.housed.homePost n hn', hp]
  · rw [hsame]
    exact hp

/-- The new user can log in, and lives at the id made from the name. -/
theorem user_home (h : Enlisted s t t' name user now) : ∃ u, t'.users.lookup name = some u ∧
    u.status = .active ∧ u.homeSessionId = accountHomeSessionId name ∧
    u.homeUnitId = accountHomeSessionId name := by
  obtain ⟨u, hu, ha⟩ := (h.login name).2 (.inl rfl)
  exact ⟨u, hu, ha, h.housed'.homeSessionId hu ha, h.housed'.homeUnitId hu ha⟩

theorem isolates_of_free (h : Enlisted s t t' name user now) (hfree : t.HomeFree name) :
    Isolates s t' name where
  unit id unit hu := by
    obtain ⟨unit₁, hu₁, hk⟩ := h.same.unit_after hu
    obtain ⟨unit', hu', ho, hp, hsing⟩ := h.unit_of_free hfree hu₁
    exact ⟨unit', hu', ho.trans hk.owner, hp.trans hk.policy, hsing.trans hk.singleton⟩
  session id session hsession := by
    have hpost : t.post id = some ⟨session.unitId, session.singleton⟩ := by
      rw [h.same.post, post, hsession]
      rfl
    obtain ⟨session', hs', he⟩ := Option.map_eq_some_iff.1 (h.post_of_free hfree hpost)
    exact ⟨session', hs', congrArg Post.unitId he, congrArg Post.singleton he⟩
  home u hu other v hne hv ha := by
    obtain ⟨u', hu', -, hsession, hunit⟩ := h.user_home
    rw [hu] at hu'
    cases hu'
    rw [h.housed'.homeSessionId hv ha, h.housed'.homeUnitId hv ha, hsession, hunit]
    rcases (h.login other).1 ⟨v, hv, ha⟩ with he | hother
    · exact absurd he hne
    · exact ⟨h.home_ne hfree hother, h.home_ne hfree hother⟩

/-- If the creation is isolated, no Unit had the id of the home. -/
theorem unit_free (h : Enlisted s t t' name user now) (hs : s.Housed) (hi : Isolates s t' name) :
    accountHomeSessionId name ∉ s.units := by
  intro hmem
  obtain ⟨unit, hu⟩ := Dict.mem_iff_lookup.1 hmem
  obtain ⟨unit', hu', ho, -⟩ := hi.unit _ unit hu
  obtain ⟨v, unit₁, hv, hu₁, -, -, hv'⟩ := h.housed'.homeUnit name ((h.login name).2 (.inl rfl))
  rw [hu'] at hu₁
  cases hu₁
  by_cases hvn : v = name
  · -- The user owned the Unit before there was such a user.
    have hnone : s.users.lookup name = none := by
      rw [← h.same.users]
      exact AList.lookup_eq_none.2 h.new
    rcases hs.owner _ unit hu with hblank | ⟨u, hu⟩
    · exact h.named.2 (by rw [← hvn, ← hv', ho, hblank])
    · rw [← ho, hv', hvn, hnone] at hu
      cases hu
  · obtain ⟨x, hx, ha⟩ := hv.login
    obtain ⟨u, hu, -, hsession, -⟩ := h.user_home
    refine (hi.home u hu v x hvn hx ha).1 ?_
    rw [hsession, h.housed'.homeSessionId hx ha, hv.home]

/-- Then no Session had it, either. -/
theorem session_free (h : Enlisted s t t' name user now) (hs : s.Housed) (hi : Isolates s t' name) :
    accountHomeSessionId name ∉ s.sessions := by
  intro hmem
  obtain ⟨session, hsession⟩ := Dict.mem_iff_lookup.1 hmem
  obtain ⟨session', hs', hunit, -⟩ := hi.session _ session hsession
  have hpost := h.housed'.homePost name ((h.login name).2 (.inl rfl))
  rw [post, hs'] at hpost
  have hid : session.unitId = accountHomeSessionId name :=
    hunit.symm.trans (congrArg Post.unitId (Option.some.inj hpost))
  have hold : s.post (accountHomeSessionId name) = some ⟨session.unitId, session.singleton⟩ := by
    rw [post, hsession]
    rfl
  rcases (hs.unit _ _ hold).2 with hblank | ⟨unit, hu⟩
  · dsimp only at hblank
    rw [hid] at hblank
    exact home_ne_empty name (by rw [hblank]; decide)
  · dsimp only at hu
    rw [hid] at hu
    exact h.unit_free hs hi (Dict.mem_iff_lookup.2 ⟨unit, hu⟩)

end Enlisted

/-- **When creating a user is isolated**: exactly when its home is free. -/
theorem isolates_iff (hs : s.Housed) (h : s.createUser env username password groups = .ok s') :
    Isolates s s' (strip username) ↔ s.HomeFree (strip username) := by
  obtain ⟨t, t', user, -, he, rfl⟩ := enlisted_of_createUser hs h
  have hsave : Isolates s t'.save (strip username) ↔ Isolates s t' (strip username) :=
    ⟨fun h => ⟨h.unit, h.session, h.home⟩, fun h => ⟨h.unit, h.session, h.home⟩⟩
  rw [hsave]
  constructor
  · intro hi
    exact ⟨he.unit_free hs hi, he.session_free hs hi⟩
  · intro hfree
    exact he.isolates_of_free (he.homeFree_iff.2 hfree)

/-- A new user with a free home shares it with nobody. -/
theorem distinctHomes_createUser (hs : s.Housed) (hd : s.DistinctHomes)
    (h : s.createUser env username password groups = .ok s') (hfree : s.HomeFree (strip username)) :
    s'.DistinctHomes := by
  obtain ⟨t, t', user, -, he, rfl⟩ := enlisted_of_createUser hs h
  have hfree' := he.homeFree_iff.2 hfree
  have hlogin : ∀ n, t'.Login n ↔ n = strip username ∨ s.Login n := fun n => by
    rw [he.login, he.same.login_iff]
  have hold := hs.distinctHomes_iff.1 hd
  have hne : ∀ {n}, s.Login n → accountHomeSessionId n ≠ accountHomeSessionId (strip username) :=
    fun hn => he.home_ne hfree' (he.same.login_iff.2 hn)
  refine (hs.createUser h).distinctHomes_iff.2 fun v w hv hw hvw => ?_
  rcases (hlogin v).1 hv with rfl | hv <;> rcases (hlogin w).1 hw with rfl | hw
  · rfl
  · exact absurd hvw.symm (hne hw)
  · exact absurd hvw (hne hv)
  · exact hold v w hv hw hvw

theorem distinctHomes_initNew (hok : State.initNew env = .ok s') : s'.DistinctHomes := by
  refine (housed_initNew hok).distinctHomes_iff.2 fun v w hv hw _ => ?_
  rw [login_initNew hok hv, login_initNew hok hw]

/-- The same users can log in after steps of building. -/
theorem Extends.login_iff (h : Extends s s') : s'.Login name ↔ s.Login name := by
  constructor
  · rintro ⟨u, hu, ha⟩
    rcases h.newUser name u hu with hu | ⟨-, hservice, -⟩
    · exact ⟨u, hu, ha⟩
    · rw [ha] at hservice
      cases hservice
  · rintro ⟨u, hu, ha⟩
    exact ⟨u, h.user name u hu, ha⟩

theorem Housed.distinctHomes_of_login (hs : s.Housed) (hs' : s'.Housed) (hd : s.DistinctHomes)
    (h : ∀ n, s'.Login n ↔ s.Login n) : s'.DistinctHomes :=
  hs'.distinctHomes_iff.2 fun v w hv hw hvw =>
    hs.distinctHomes_iff.1 hd v w ((h v).1 hv) ((h w).1 hw) hvw

end State

open State

/-! ## Runs -/

/-- The operation creates a login user whose home is free, or no login user. -/
def Sys.CreatesIsolated (sys : Sys) (a : Action) : Prop :=
  ∀ username password groups s', a.op = .createUser username password groups →
    sys.store.createUser a.env username password groups = .ok s' →
    sys.store.HomeFree (strip username)

variable {sys : Sys}

theorem distinctHomes_next (hs : sys.store.Housed) (hd : sys.store.DistinctHomes) {a : Action}
    (ha : sys.CreatesIsolated a) : (sys.next a).store.DistinctHomes := by
  have hnext := housed_next hs a
  rcases next_cases hs a with (heq | ⟨t, hl, hb⟩) | ⟨loaded, ensured, -, hl, he, hr⟩ |
    ⟨username, password, groups, hop, hok⟩
  · rw [heq]
    exact hd
  · refine hs.distinctHomes_of_login hnext hd fun n => ?_
    rw [hb.extends.login_iff, (hs.same_load hl).login_iff]
  · refine hs.distinctHomes_of_login hnext hd fun n => ?_
    rw [hr.toSameTenants.login_iff, ((hs.load hl).same_defaults he).login_iff,
      (hs.same_load hl).login_iff]
  · exact distinctHomes_createUser hs hd hok (ha username password groups _ hop hok)

/-- **Creating a user is isolated if and only if its home is free**; and where every login user
    is created with a free home, no two of them ever share one. -/
theorem creating_user_isolates_iff (h : storeSystem.Reachable sys) :
    (∀ env username password groups s',
      sys.store.createUser env username password groups = .ok s' →
        (Isolates sys.store s' (strip username) ↔ sys.store.HomeFree (strip username))) ∧
    ((storeSystem.restrict Sys.CreatesIsolated).Reachable sys → sys.store.DistinctHomes) := by
  refine ⟨fun env username password groups s' hok => isolates_iff (housed_reachable h) hok,
    fun h => ?_⟩
  refine (h.of_step (P := fun sys => sys.store.Housed ∧ sys.store.DistinctHomes) ?_ ?_).2
  · rintro s ⟨env, hinit, -⟩
    exact ⟨housed_initNew hinit, distinctHomes_initNew hinit⟩
  · rintro s a s' - ⟨hs, hd⟩ ⟨rfl, ha⟩
    exact ⟨housed_next hs a, distinctHomes_next hs hd ha⟩

theorem createUser_next {env : Env} {username password : String} {groups : List String}
    (h : (sys.store.createUser env username password groups).isOk) :
    sys.store.createUser env username password groups =
      .ok (sys.next ⟨env, .createUser username password groups⟩).store := by
  have hget := ok_getD h
  generalize (sys.store.createUser env username password groups).toOption.getD {} = s' at hget
  have hexec : Op.exec env sys (.createUser username password groups) = .ok ⟨s', sys.leases⟩ :=
    Except.bind_eq_ok.2 ⟨s', hget, rfl⟩
  unfold Sys.next
  dsimp only
  rw [hexec]
  exact hget

theorem not_distinctHomes {s : State} (h : ∃ e ∈ s.users.items, ∃ f ∈ s.users.items,
    e.2.status = .active ∧ f.2.status = .active ∧ e.2.homeSessionId = f.2.homeSessionId ∧
      e.1 ≠ f.1) : ¬s.DistinctHomes := by
  intro hd
  obtain ⟨⟨v, x⟩, hx, ⟨w, y⟩, hy, hax, hay, hxy, hne⟩ := h
  exact hne (hd v w x y (Dict.mem_items.1 hx) (Dict.mem_items.1 hy) hax hay hxy)

/-- A user whose name is sanitised. -/
def spaced : List Action := [⟨clock 1, .createUser "a b" "secret" []⟩]

/-- Two users whose names are sanitised alike share their home. -/
theorem not_creating_user_isolates : ∃ sys env username password groups s',
    storeSystem.Reachable sys ∧ sys.store.createUser env username password groups = .ok s' ∧
      ¬Isolates sys.store s' (strip username) ∧ ¬s'.DistinctHomes := by
  have hreach := reachable_nexts spaced
  have hok : (newStore.nexts spaced).store.createUser (clock 2) "a-b" "secret" [] = _ :=
    createUser_next (by decide +kernel)
  refine ⟨newStore.nexts spaced, _, _, _, _, _, hreach, hok, ?_,
    not_distinctHomes (by decide +kernel)⟩
  rw [isolates_iff (housed_reachable hreach) hok]
  decide +kernel

/-- A user with a free home. -/
theorem creating_bob_isolates :
    Isolates newStore.store (newStore.next ⟨clock 1, .createUser "bob" "secret" []⟩).store (strip "bob") ∧
      (newStore.next ⟨clock 1, .createUser "bob" "secret" []⟩).store.DistinctHomes := by
  have hok : newStore.store.createUser (clock 1) "bob" "secret" [] =
      .ok (newStore.next ⟨clock 1, .createUser "bob" "secret" []⟩).store :=
    createUser_next (by decide +kernel)
  have hfree : newStore.store.HomeFree (strip "bob") := by decide +kernel
  have hreach : storeSystem.Reachable newStore := .init init_newStore
  refine ⟨((creating_user_isolates_iff hreach).1 _ _ _ _ _ hok).2 hfree, ?_⟩
  refine (creating_user_isolates_iff (hreach.step rfl)).2 ?_
  refine TransitionSystem.Reachable.step (.init init_newStore) ⟨rfl, ?_⟩
  rintro username password groups s' heq -
  cases heq
  exact hfree

end Aize
