/-
  The Session graph stays a rooted DAG.

  Operations add edges only from Sessions that were there when they loaded, and to new
  Sessions, so nobody gets above itself (`Grown`). The exception is `create_user`: the home
  Unit that it takes over may have Sessions above the home Session, and the next repair
  would hang these below it. `above_createUser_iff` says when this happens; in all other
  runs every state is a DAG that every load completes to a rooted one
  (`session_graph_rooted`).
-/
import Aize.Repairs
import Aize.Isolation

namespace Aize

open Relation

namespace State

variable {s s' t t' : State} {env : Env} {p c x y sid name username password timestamp : String}
  {groups : List String}

/-! ## Owners -/

/-- Whose home is above a Session, in a housed state. -/
theorem Housed.ownerHome_iff (hs : s.Housed) : s.ownerHome c = some x ↔
    ∃ p unit, s.post c = some p ∧ s.units.lookup p.unitId = some unit ∧
      s.Login unit.ownerAccount ∧ accountHomeSessionId unit.ownerAccount = x ∧ x ≠ c := by
  have hblank : s.users.lookup "" = none := by
    cases hu : s.users.lookup "" with
    | none => rfl
    | some user => exact absurd rfl (hs.name "" user hu).2
  have hempty : strip "" = "" := by decide
  have howner : ∀ {id unit}, s.units.lookup id = some unit →
      strip unit.ownerAccount = unit.ownerAccount := by
    intro id unit hu
    rcases hs.owner id unit hu with ho | ⟨user, huser⟩
    · rw [ho, hempty]
    · exact (hs.name _ user huser).1
  constructor
  · intro h
    have hown := hs.isOwnerHome h
    obtain ⟨session, hsess⟩ := Dict.mem_iff_lookup.1 hown.session
    have hpost : s.post c = some ⟨session.unitId, session.singleton⟩ := by
      rw [post, hsess]
      rfl
    have hunit := (hs.unit c _ hpost).1
    unfold ownerHome at h
    dsimp only at h hunit
    rw [hsess, Option.elim_some, hunit] at h
    cases hu : s.units.lookup session.unitId with
    | none => rw [hu, Option.elim_none, hblank] at h; cases h
    | some unit =>
      rw [hu, Option.elim_some, howner hu] at h
      cases hl : s.users.lookup unit.ownerAccount with
      | none => rw [hl] at h; cases h
      | some user =>
        rw [hl, Option.map_some] at h
        obtain ⟨hhome, hne⟩ := Option.filter_eq_some_iff.1 h
        cases Option.some.inj hhome
        have hne' : strip user.homeSessionId ≠ "" ∧ strip user.homeSessionId ≠ c := by
          simpa using hne
        cases ha : user.status with
        | service =>
          rw [hs.service _ user hl ha] at hne'
          exact absurd hempty hne'.1
        | active =>
          refine ⟨_, unit, hpost, hu, ⟨user, hl, ha⟩, ?_, hne'.2⟩
          rw [hs.homeSessionId hl ha, strip_accountHomeSessionId]
  · rintro ⟨p, unit, hpost, hu, ⟨user, hl, ha⟩, rfl, hne⟩
    obtain ⟨session, hsess, rfl⟩ := Option.map_eq_some_iff.1 hpost
    have hunit := (hs.unit c _ hpost).1
    unfold ownerHome
    dsimp only at hunit hu ⊢
    rw [hsess, Option.elim_some, hunit, hu, Option.elim_some, howner hu, hl, Option.map_some,
      hs.homeSessionId hl ha, strip_accountHomeSessionId]
    refine Option.filter_some_pos ?_
    have hne' : accountHomeSessionId unit.ownerAccount ≠ "" := fun he =>
      home_ne_empty unit.ownerAccount (by rw [he, hempty])
    simpa using ⟨hne', hne⟩

/-- A Session that was there keeps the home it is below. -/
theorem Extends.ownerHome_iff (h : Extends s s') (hs : s.Housed) (hs' : s'.Housed)
    (hc : c ∈ s.sessions) : s'.ownerHome c = some x ↔ s.ownerHome c = some x := by
  obtain ⟨p, hp⟩ := mem_sessions_iff.1 hc
  rw [hs.ownerHome_iff, hs'.ownerHome_iff]
  constructor
  · rintro ⟨p', unit', hp', hu', hlogin, hhome, hne⟩
    rw [h.post c p hp] at hp'
    cases hp'
    rcases (hs.unit c p hp).2 with hblank | ⟨unit, hu⟩
    · rw [hblank] at hu'
      exact absurd (by decide) (hs'.unitId "" unit' hu')
    · obtain ⟨unit'', hu'', ho, -⟩ := h.unit _ unit hu
      rw [hu'] at hu''
      cases hu''
      rw [ho] at hlogin hhome
      exact ⟨p, unit, hp, hu, h.login_iff.1 hlogin, hhome, hne⟩
  · rintro ⟨p', unit, hp', hu, hlogin, hhome, hne⟩
    obtain ⟨unit', hu', ho, -⟩ := h.unit _ unit hu
    refine ⟨p', unit', h.post c p' hp', hu', ?_, ?_, hne⟩
    · rw [ho]
      exact h.login_iff.2 hlogin
    · rw [ho]
      exact hhome

/-! ## Steps of an operation -/

/-- What the steps of an operation that has loaded `t` have made of the graph. -/
structure Grown (t s : State) : Prop where
  dag : s.RootedDag
  reach : ∀ c ∈ t.sessions, ReflTransGen s.Parent rootSessionId c
  leaf : ∀ p c, s.Parent p c → p ∈ t.sessions
  owned : ∀ c h, t.ownerHome c = some h → s.Parent h c

/-- A state whose graph a repair completes. -/
structure Grounded (s : State) : Prop where
  dag : s.RootedDag
  above : EdgeList.Acyclic s.Above

theorem Hung.grown (h : Hung s t) : Grown t t where
  dag := h.dag
  reach := h.reach
  leaf p c hp := (h.dag.mem p c hp).1
  owned c x ho := h.owned c x (h.same.ownerHome ▸ ho)

/-- New users, Units and Sessions, without edges. -/
theorem Grown.congr (h : Grown t s) (hext : Extends s s') (he : s'.sessionEdges = s.sessionEdges) :
    Grown t s' := by
  have hparent : s'.Parent = s.Parent := by
    unfold Parent
    rw [he]
  refine ⟨⟨?_, he ▸ h.dag.nodup, ?_, fun p c hp => ?_, ?_⟩, ?_, ?_, ?_⟩
  · rw [hparent]
    exact h.dag.self
  · unfold Acyclic
    rw [hparent]
    exact h.dag.acyclic
  · rw [hparent] at hp
    obtain ⟨h₁, h₂⟩ := h.dag.mem p c hp
    exact ⟨hext.sessions h₁, hext.sessions h₂⟩
  · rw [hparent]
    exact h.dag.root
  · rw [hparent]
    exact h.reach
  · rw [hparent]
    exact h.leaf
  · rw [hparent]
    exact h.owned

/-- A checked link. -/
theorem Grown.link (h : Grown t s) (hp : p ∈ t.sessions) (hok : s.linkSessionsInState p c = .ok s') :
    Grown t s' := by
  obtain ⟨hps, hcs, hne, ⟨-, rfl⟩ | ⟨hnew, hback, rfl⟩⟩ := link_eq_ok.1 hok
  · exact h
  have hedge : ∀ x y, State.Parent { s with sessionEdges := s.sessionEdges ++ [⟨p, c⟩] } x y ↔
      EdgeList.Add s.Parent p c x y := fun x y => mem_append_edge
  have hroot : c ≠ rootSessionId := by
    rintro rfl
    exact hback (h.reach p hp)
  refine ⟨⟨fun x hx => ?_, ?_, ?_, fun x y hxy => ?_, fun x hx => ?_⟩, fun x hx => ?_, fun x y hxy => ?_,
    fun x y ho => (hedge y x).2 (.inl (h.owned x y ho))⟩
  · rcases (hedge x x).1 hx with hx | ⟨rfl, rfl⟩
    · exact h.dag.self x hx
    · exact hne rfl
  · refine List.Nodup.append h.dag.nodup (List.nodup_singleton _) ?_
    have hnot : (⟨p, c⟩ : Edge) ∉ s.sessionEdges := hnew
    simpa using hnot
  · exact (EdgeList.Acyclic.add h.dag.acyclic hback).mono fun x y => (hedge x y).1
  · rcases (hedge x y).1 hxy with hxy | ⟨rfl, rfl⟩
    · exact h.dag.mem x y hxy
    · exact ⟨hps, hcs⟩
  · rcases (hedge x _).1 hx with hx | ⟨-, rfl⟩
    · exact h.dag.root x hx
    · exact hroot rfl
  · exact ReflTransGen.mono (fun a y hp => (hedge a y).2 (.inl hp)) _ _ (h.reach x hx)
  · rcases (hedge x y).1 hxy with hxy | ⟨rfl, rfl⟩
    · exact h.leaf x y hxy
    · exact hp

/-- **One step** of an operation. -/
theorem Grown.build (h : Grown t s) (hb : Build t s s') : Grown t s' := by
  have hext := hb.extends
  cases hb with
  | work hw => exact h.congr hext hw.edges
  | link hp hl => exact h.link hp hl
  | start => exact h.congr hext (edges_start ..)
  | found => exact h.congr hext rfl
  | restrict => exact h.congr hext rfl
  | hire => exact h.congr hext rfl

/-- **All steps** of an operation. -/
theorem Grown.builds (h : Grown t t) (hb : Builds t t s) : Grown t s := by
  induction hb with
  | refl => exact h
  | tail _ hstep ih => exact ih.build hstep

/-- Whoever is above someone was there at the load, so nobody is above itself. -/
theorem Grown.grounded (h : Grown t s) (ht : t.Housed) (hs : s.Housed) (hext : Extends t s) :
    s.Grounded := by
  have hsource : ∀ {p c}, s.Above p c → p ∈ t.sessions := by
    rintro p c (hp | ho)
    · exact h.leaf p c hp
    · obtain ⟨n, hn, rfl⟩ := (hs.isOwnerHome ho).home
      exact ht.home_mem (hext.login_iff.1 hn)
  refine ⟨h.dag, EdgeList.Acyclic.of_target h.dag.acyclic ?_⟩
  rintro p c z (hp | ho) hcz
  · exact hp
  · exact h.owned c p ((hext.ownerHome_iff ht hs (hsource hcz)).1 ho)

/-! ## Loads -/

/-- What a load makes of the graph. -/
theorem hung_of_load (hs : s.Housed) (hg : s.RootedDag) (hl : s.load env = .ok t) : Hung s t := by
  have hstored : SameTenants s s.stored := .of_fields rfl rfl rfl
  have hh := (hs.same hstored).hung (hg.congr hstored rfl) hl
  exact ⟨hs.same_load hl, hh.dag, hh.above, hh.owned, hh.reach, hh.sub, hh.keep⟩

/-- A load of a grounded state raises nothing. -/
theorem Grounded.load (hg : s.Grounded) (hs : s.Housed) (env : Env) :
    ∃ t, s.load env = .ok t ∧ Hung s t := by
  have hstored : SameTenants s s.stored := .of_fields rfl rfl rfl
  obtain ⟨t, ht⟩ := (hs.same hstored).defaults_ok (hg.dag.congr hstored rfl) hg.above env.utcNow.text
  exact ⟨t, ht, hung_of_load hs hg.dag ht⟩

/-- The completed graph is grounded, too. -/
theorem Hung.grounded (h : Hung s t) : t.Grounded := by
  refine ⟨h.dag, EdgeList.Acyclic.mono h.dag.acyclic ?_⟩
  rintro p c (hp | ho)
  · exact hp
  · exact h.owned c p (h.same.ownerHome ▸ ho)

theorem Grounded.congr (hg : s.Grounded) (h : SameTenants s s') (he : s'.sessionEdges = s.sessionEdges) :
    s'.Grounded :=
  ⟨hg.dag.congr h he, above_congr h.ownerHome he ▸ hg.above⟩

/-! ## Creating a user -/

/-- No Session of the Unit that becomes the home Unit of `name`, but for the home Session,
    is above the home Session. -/
def LoopFree (s : State) (name : String) : Prop :=
  ∀ x p, s.post x = some p → p.unitId = accountHomeSessionId name → x ≠ accountHomeSessionId name →
    ¬ReflTransGen s.Above x (accountHomeSessionId name)

/-- A home that nothing is above does not loop. -/
theorem loopFree_of_top (h : ∀ p, ¬s.Above p (accountHomeSessionId name)) : s.LoopFree name := by
  intro x p _ _ hne hpath
  rcases hpath.cases_tail with heq | ⟨b, -, hb⟩
  · exact hne heq.symm
  · exact h b hb

namespace Enlisted

variable {user : User} {now : String}

/-- The homes above the Sessions are those of before, and the new home above the Sessions of
    the new home Unit. -/
theorem ownerHome_cases (h : Enlisted s t t' name user now) (ho : t'.ownerHome c = some x) :
    t.ownerHome c = some x ∨ x = accountHomeSessionId name ∧
      ∃ p, t.post c = some p ∧ p.unitId = accountHomeSessionId name ∧ c ≠ accountHomeSessionId name := by
  have hcan := h.furnished.canHouse
  have hlogin : ∀ {n}, (t.enlist name user).Login n → n = name ∨ t.Login n := fun hn =>
    (h.login _).1 ((housed_login hcan h.homes _).2 hn)
  obtain ⟨p, unit, hp, hu, hl, rfl, hne⟩ := h.housed'.ownerHome_iff.1 ho
  rcases housed_post hcan h.homes c with ⟨n, hn, rfl, hpost⟩ | ⟨-, hpost⟩
  · -- A home Session belongs to the home Unit, and its owner lives there.
    rw [hp] at hpost
    cases hpost
    obtain ⟨v, unit', hv, hu', hhome⟩ := housed_unit hcan h.homes hn
    rw [hu] at hu'
    cases hu'
    exact absurd (by rw [hhome.owner, hv.home]) hne
  have hpt : t.post c = some p := hpost.symm.trans hp
  rcases housed_post hcan h.homes p.unitId with ⟨n, hn, hid, -⟩ | ⟨hunit, -⟩
  · obtain ⟨v, unit', hv, hu', hhome⟩ := housed_unit hcan h.homes hn
    rw [hid, hu] at hu'
    cases hu'
    have howner : accountHomeSessionId unit.ownerAccount = p.unitId := by
      rw [hhome.owner, hv.home, hid]
    rw [howner] at hne ⊢
    by_cases hnew : p.unitId = accountHomeSessionId name
    · exact .inr ⟨hnew, p, hpt, hnew, fun hc => hne (hnew.trans hc.symm)⟩
    · refine .inl (h.housed.ownerHome_iff.2 ?_)
      rcases hlogin hn with rfl | hn
      · exact absurd hid.symm hnew
      · obtain ⟨w, unit₁, hw, hu₁, -, -, ho₁⟩ := h.housed.homeUnit n hn
        rw [hid] at hu₁
        exact ⟨p, unit₁, hpt, hu₁, ho₁ ▸ hw.login, by rw [ho₁, hw.home, hid], hne⟩
  · have hut : t.units.lookup p.unitId = some unit := hunit.symm.trans hu
    refine .inl (h.housed.ownerHome_iff.2 ⟨p, unit, hpt, hut, ?_, rfl, hne⟩)
    rcases (h.login _).1 hl with hname | hl
    · rcases h.housed.owner _ unit hut with hblank | ⟨u, hu⟩
      · exact absurd (hname.symm.trans hblank) h.named.2
      · rw [hname] at hu
        exact absurd (Dict.mem_iff_lookup.2 ⟨u, hu⟩) h.new
    · exact hl

/-- The new home is above the Sessions of the Unit that has been taken over. -/
theorem ownerHome_taken (h : Enlisted s t t' name user now) {p : Post} (hp : t.post c = some p)
    (hunit : p.unitId = accountHomeSessionId name) (hne : c ≠ accountHomeSessionId name) :
    t'.ownerHome c = some (accountHomeSessionId name) := by
  have hcan := h.furnished.canHouse
  obtain ⟨v, unit, hv, hu, -, -, ho⟩ := h.housed'.homeUnit name ((h.login name).2 (.inl rfl))
  rcases housed_post hcan h.homes c with ⟨n, hn, rfl, -⟩ | ⟨-, hpost⟩
  · rcases (h.login n).1 ((housed_login hcan h.homes n).2 hn) with rfl | hn
    · exact absurd rfl hne
    · rw [h.housed.homePost n hn] at hp
      cases hp
      exact absurd hunit hne
  · refine h.housed'.ownerHome_iff.2 ⟨p, unit, hpost.trans hp, hunit ▸ hu, ho ▸ hv.login, ?_, hne.symm⟩
    rw [ho, hv.home]

/-- At most one edge is new, from the root. -/
theorem homing (h : Enlisted s t t' name user now) :
    Homing (t.enlist name user) t' ((t.enlist name user).users.keys.insertionSort (· ≤ ·)) :=
  homing_all h.furnished.canHouse h.homes

theorem dag (h : Enlisted s t t' name user now) (hg : t.RootedDag) : t'.RootedDag := by
  have hg' : (t.enlist name user).RootedDag := ⟨hg.self, hg.nodup, hg.acyclic, hg.mem, hg.root⟩
  have hcan := h.furnished.canHouse
  exact h.homing.dag h.housed' hg' (fun c hc => housed_sessions hcan h.homes hc) fun n hn =>
    (housed_login hcan h.homes n).2 hn

/-- The Sessions of a Unit that can become a home Unit do not include the root Session. -/
theorem ne_root (h : Enlisted s t t' name user now) {p : Post} (hp : t.post c = some p)
    (hunit : p.unitId = accountHomeSessionId name) : c ≠ rootSessionId := by
  rintro rfl
  rw [h.housed.rootPost] at hp
  cases hp
  exact home_ne_root name hunit.symm

/-- **When the new user's home loops.** -/
theorem above_iff (h : Enlisted s t t' name user now) (hh : Hung s t) (hs : s.Housed)
    (hg : s.RootedDag) : EdgeList.Acyclic t'.Above ↔ s.LoopFree name := by
  have hhoming := h.homing
  have hpost : t.post = s.post := h.same.post
  constructor
  · intro hac x p hp hunit hne hpath
    rw [← hpost] at hp
    -- Above the home, and below it.
    have hback : ReflTransGen t.Parent x (accountHomeSessionId name) := by
      refine EdgeList.path_of_source (fun a y hay => ?_) (fun a => hg.above_root hs a)
        (h.ne_root hp hunit) hpath
      by_cases ha : a = rootSessionId
      · exact .inr ha
      · refine .inl ?_
        rcases hay with hay | ho
        · exact hh.keep a y hay ha
        · exact hh.owned y a ho
    refine hac (accountHomeSessionId name) (.head' (.inr (h.ownerHome_taken hp hunit hne)) ?_)
    exact ReflTransGen.mono (fun a y hay => .inl (hhoming.mono a y hay)) _ _ hback
  · intro hfree
    -- But for the edges from the root, the graph is the loaded one with those of the home.
    have hfan : EdgeList.Acyclic fun a y => t'.Above a y ∧ a ≠ rootSessionId := by
      refine EdgeList.Acyclic.fan (h := accountHomeSessionId name) (T := fun y => ∃ p,
        t.post y = some p ∧ p.unitId = accountHomeSessionId name ∧ y ≠ accountHomeSessionId name)
        hh.dag.acyclic ?_ ?_
      · rintro a y ⟨hay | ho, ha⟩
        · exact .inl ((hhoming.sub a y hay).resolve_right fun hr => ha hr.1)
        · rcases h.ownerHome_cases ho with ho | hnew
          · exact .inl (hh.owned y a (hh.same.ownerHome ▸ ho))
          · exact .inr hnew
      · rintro y ⟨p, hp, hunit, hne⟩ hpath
        refine hfree y p (hpost ▸ hp) hunit hne ?_
        exact EdgeList.path_of_source (fun a y hay => hh.sub a y hay) hh.dag.root
          (h.ne_root hp hunit) hpath
    refine EdgeList.Acyclic.of_source hfan (a := rootSessionId) (fun a y hay => ?_) fun a =>
      (h.dag hh.dag).above_root h.housed' a
    by_cases ha : a = rootSessionId
    · exact .inr ha
    · exact .inl ⟨hay, ha⟩

end Enlisted

/-- **A created user leaves a graph that can be repaired** exactly if its home does not loop. -/
theorem grounded_createUser_iff (hs : s.Housed) (hg : s.Grounded)
    (h : s.createUser env username password groups = .ok s') :
    s'.RootedDag ∧ (s'.Grounded ↔ s.LoopFree (strip username)) := by
  obtain ⟨t, t', user, hl, he, rfl⟩ := enlisted_of_createUser hs h
  have hh := hung_of_load hs hg.dag hl
  have hdag : t'.save.RootedDag := (he.dag hh.dag).congr (.of_fields rfl rfl rfl) rfl
  have habove : t'.save.Above = t'.Above := above_congr rfl rfl
  refine ⟨hdag, ?_⟩
  rw [← he.above_iff hh hs hg.dag, ← habove]
  exact ⟨Grounded.above, fun ha => ⟨hdag, ha⟩⟩

/-- The new store. -/
theorem grounded_initNew (h : State.initNew env = .ok s') : s'.Grounded := by
  obtain ⟨s₁, s₂, s₃, h₁, h₂, h₃, rfl⟩ := initNew_spec h
  have hf := furnished_new h₁
  have hedges : s₁.ensureAccounts.sessionEdges = [] := by
    rw [← Except.ok.inj h₁]
    rfl
  have hg : s₁.ensureAccounts.RootedDag := by
    have hno : ∀ p c, ¬s₁.ensureAccounts.Parent p c := by
      intro p c hp
      unfold Parent at hp
      rw [hedges] at hp
      cases hp
    refine ⟨fun p => hno p p, ?_, fun x hx => ?_, fun p c hp => absurd hp (hno p c), fun p => hno p _⟩
    · rw [hedges]
      exact List.nodup_nil
    · obtain ⟨y, hy, -⟩ := TransGen.head'_iff.1 hx
      exact hno x y hy
  have hs := hf.housed h₂
  have hg₂ := (homing_all hf.canHouse h₂).dag hs hg (fun c hc => housed_sessions hf.canHouse h₂ hc)
    fun n hn => (housed_login hf.canHouse h₂ n).2 hn
  exact (hs.hung_rest hg₂ h₃).grounded.congr (.of_fields rfl rfl rfl) rfl

end State

open State

/-! ## Runs -/

/-- The operation creates a login user whose home does not loop, or no login user. -/
def Sys.CreatesLoopFree (sys : Sys) (a : Action) : Prop :=
  ∀ username password groups s', a.op = .createUser username password groups →
    sys.store.createUser a.env username password groups = .ok s' →
    sys.store.LoopFree (strip username)

variable {sys : Sys}

theorem grounded_next (hs : sys.store.Housed) (hg : sys.store.Grounded) {a : Action}
    (ha : sys.CreatesLoopFree a) : (sys.next a).store.Grounded := by
  have hnext := housed_next hs a
  rcases next_cases hs a with (heq | ⟨t, hl, hb⟩) | ⟨loaded, ensured, -, hl, he, hr⟩ |
    ⟨username, password, groups, hop, hok⟩
  · rw [heq]
    exact hg
  · have hgrown := (hung_of_load hs hg.dag hl).grown.builds hb
    exact hgrown.grounded (hs.load hl) hnext hb.extends
  · have hloaded := hs.load hl
    have hh := hloaded.hung (hung_of_load hs hg.dag hl).dag he
    exact hh.grounded.congr hr.toSameTenants hr.edges
  · exact (grounded_createUser_iff hs hg hok).2.2 (ha username password groups _ hop hok)

/-- **The Session graph is a rooted DAG** in every run in which no created user's home loops, and
    every load completes it to one in which all Sessions are below the root. After a user is
    created whose home does loop, every load raises. -/
theorem session_graph_rooted (h : (storeSystem.restrict Sys.CreatesLoopFree).Reachable sys) :
    sys.store.RootedDag ∧
    (∀ env, ∃ t, sys.store.load env = .ok t ∧ t.RootedDag ∧
      ∀ sid ∈ t.sessions, ReflTransGen t.Parent rootSessionId sid) ∧
    ∀ env username password groups s',
      sys.store.createUser env username password groups = .ok s' →
      ¬sys.store.LoopFree (strip username) → ∀ env', ¬∃ t, s'.load env' = .ok t := by
  have hs : sys.store.Housed := housed_reachable h.of_restrict
  have hg : sys.store.Grounded := by
    refine (h.of_step (P := fun sys => sys.store.Housed ∧ sys.store.Grounded) ?_ ?_).2
    · rintro s ⟨env, hinit, -⟩
      exact ⟨housed_initNew hinit, grounded_initNew hinit⟩
    · rintro s a s' - ⟨hs, hg⟩ ⟨rfl, ha⟩
      exact ⟨housed_next hs a, grounded_next hs hg ha⟩
  refine ⟨hg.dag, fun env => ?_, fun env username password groups s' hok hloop env' => ?_⟩
  · obtain ⟨t, hl, hh⟩ := hg.load hs env
    exact ⟨t, hl, hh.dag, hh.reach⟩
  · rintro ⟨t, hl⟩
    obtain ⟨hdag, hiff⟩ := grounded_createUser_iff hs hg hok
    exact hloop (hiff.1 ⟨hdag, (hung_of_load (hs.createUser hok) hdag hl).above⟩)

/-- A Session of the Unit `account-bob`, and below it a Session of this name. -/
def looped : List Action :=
  [⟨clock 1, .createUnit "account-bob" {}⟩,
    ⟨clock 2, .createSession "s" "account-bob" ["root"] "root"⟩,
    ⟨clock 3, .createSession "account-bob" "" ["s"] "root"⟩]

/-- The user `bob` takes over both, and no load succeeds any more. -/
theorem not_session_graph_rooted : ∃ sys env, storeSystem.Reachable sys ∧
    (sys.store.load env).isOk = false := by
  refine ⟨newStore.nexts (looped ++ [⟨clock 4, .createUser "bob" "secret" []⟩]), clock 5,
    reachable_nexts _, ?_⟩
  decide +kernel

/-- A Session of the Unit `account-bob`. -/
def claimed : List Action :=
  [⟨clock 1, .createUnit "account-bob" {}⟩,
    ⟨clock 2, .createSession "s" "account-bob" ["root"] "root"⟩]

/-- The user `bob` takes the Unit over, and gets a Session below the new home. -/
def takenOver : List Action :=
  claimed ++ [⟨clock 3, .createUser "bob" "secret" []⟩] ++
    [⟨clock 4, .createSession "task" "" ["account-bob"] "root"⟩]

/-- Nothing is above a home that is not there. -/
theorem loopFree_claimed : (newStore.nexts claimed).store.LoopFree "bob" := by
  have hedges : ∀ e ∈ (newStore.nexts claimed).store.sessionEdges,
      e.child ≠ accountHomeSessionId "bob" := by decide +kernel
  have howner : (newStore.nexts claimed).store.ownerHome (accountHomeSessionId "bob") = none := by
    decide +kernel
  generalize (newStore.nexts claimed).store = s at hedges howner
  refine State.loopFree_of_top fun p => ?_
  rintro (hp | ho)
  · exact hedges _ hp rfl
  · exact absurd (howner.symm.trans ho) (by simp)

/-- The home of `bob` does not loop, and every load completes the graph. -/
theorem session_graph_rooted_takenOver :
    (newStore.nexts takenOver).store.RootedDag ∧
    "task" ∈ (newStore.nexts takenOver).store.sessions ∧
    ∃ t, (newStore.nexts takenOver).store.load (clock 5) = .ok t ∧
      ∀ sid ∈ t.sessions, ReflTransGen t.Parent rootSessionId sid := by
  have hother : ∀ {sys : Sys} {a : Action}, (∀ username password groups,
      a.op ≠ .createUser username password groups) → sys.CreatesLoopFree a :=
    fun hop username password groups _ heq _ => absurd heq (hop username password groups)
  have hbob : (newStore.nexts claimed).CreatesLoopFree ⟨clock 3, .createUser "bob" "secret" []⟩ :=
    fun username password groups _ heq _ => by
      obtain ⟨rfl, -, -⟩ := Op.createUser.inj heq
      exact loopFree_claimed
  have hrun : (storeSystem.restrict Sys.CreatesLoopFree).Reachable (newStore.nexts takenOver) :=
    reachable_restrict (.init init_newStore) ⟨hother (by rintro _ _ _ ⟨⟩),
      hother (by rintro _ _ _ ⟨⟩), hbob, hother (by rintro _ _ _ ⟨⟩), trivial⟩
  obtain ⟨hdag, hload, -⟩ := session_graph_rooted hrun
  obtain ⟨t, hl, -, hreach⟩ := hload (clock 5)
  exact ⟨hdag, by decide +kernel, t, hl, hreach⟩

end Aize
