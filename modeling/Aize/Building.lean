/-
  What the operations build: new users, Units, Sessions and edges.

  `Build t s s'` is one thing an operation does after it has loaded `t`. A whole operation
  is a load and then such steps, or the creation of a login user, who gets a home at once
  (`next_cases`). What was there stays (`Extends`), so the state stays housed, and every
  reachable state is (`housed_reachable`).
-/
import Aize.Housing

namespace Aize

open Relation

namespace State

variable {t s s₁ s₂ s' : State} {env : Env} {sid unitId createdAt : String}

/-! ## What stays -/

/-- Everything that was there is still there. A singleton Unit may get another Session, if
    the one it had is gone; what is new refers to something. -/
structure Extends (s s' : State) : Prop where
  user : ∀ n u, s.users.lookup n = some u → s'.users.lookup n = some u
  newUser : ∀ n u, s'.users.lookup n = some u → s.users.lookup n = some u ∨
    (strip n = n ∧ n ≠ "") ∧ u.status = .service ∧ u.homeSessionId = ""
  post : ∀ id p, s.post id = some p → s'.post id = some p
  newPost : ∀ id p, s'.post id = some p → s.post id = some p ∨ strip id ≠ "" ∧
    strip p.unitId = p.unitId ∧ (p.unitId = "" ∨ ∃ unit, s'.units.lookup p.unitId = some unit)
  unit : ∀ id u, s.units.lookup id = some u → ∃ u', s'.units.lookup id = some u' ∧
    u'.ownerAccount = u.ownerAccount ∧ u'.instancePolicy = u.instancePolicy ∧
    (u.Normal → u'.Normal) ∧ (u'.singletonSessionId = u.singletonSessionId ∨
      u.singletonSessionId = "" ∨ u.singletonSessionId ∉ s.sessions)
  newUnit : ∀ id u', s'.units.lookup id = some u' → (∃ u, s.units.lookup id = some u) ∨
    strip id ≠ "" ∧ u'.Normal ∧
      (u'.ownerAccount = "" ∨ ∃ user, s'.users.lookup u'.ownerAccount = some user)

namespace Extends

theorem refl (s : State) : Extends s s where
  user _ _ := id
  newUser _ _ := .inl
  post _ _ := id
  newPost _ _ := .inl
  unit _ u hu := ⟨u, hu, rfl, rfl, id, .inl rfl⟩
  newUnit _ u hu := .inl ⟨u, hu⟩

theorem sessions (h : Extends s s') (hs : sid ∈ s.sessions) : sid ∈ s'.sessions := by
  obtain ⟨p, hp⟩ := mem_sessions_iff.1 hs
  exact mem_sessions_iff.2 ⟨p, h.post sid p hp⟩

theorem trans (h₁ : Extends s s₁) (h₂ : Extends s₁ s') : Extends s s' where
  user n u hu := h₂.user n u (h₁.user n u hu)
  newUser n u hu := (h₂.newUser n u hu).elim (h₁.newUser n u) .inr
  post id p hp := h₂.post id p (h₁.post id p hp)
  newPost id p hp := by
    rcases h₂.newPost id p hp with hp | hp
    · rcases h₁.newPost id p hp with hp | ⟨hid, hstrip, hp⟩
      · exact .inl hp
      · refine .inr ⟨hid, hstrip, hp.imp_right ?_⟩
        rintro ⟨u, hu⟩
        obtain ⟨u', hu', -⟩ := h₂.unit _ u hu
        exact ⟨u', hu'⟩
    · exact .inr hp
  unit id u hu := by
    obtain ⟨u₁, hu₁, ho₁, hp₁, hn₁, hs₁⟩ := h₁.unit id u hu
    obtain ⟨u₂, hu₂, ho₂, hp₂, hn₂, hs₂⟩ := h₂.unit id u₁ hu₁
    refine ⟨u₂, hu₂, ho₂.trans ho₁, hp₂.trans hp₁, hn₂ ∘ hn₁, ?_⟩
    rcases hs₁ with hs₁ | hs₁
    · rw [hs₁] at hs₂
      exact hs₂.imp_right fun h => h.imp_right fun h hs => h (h₁.sessions hs)
    · exact .inr hs₁
  newUnit id u hu := by
    rcases h₂.newUnit id u hu with ⟨u₁, hu₁⟩ | hnew
    · rcases h₁.newUnit id u₁ hu₁ with hold | ⟨hid, hn, ho⟩
      · exact .inl hold
      · obtain ⟨u₂, hu₂, ho₂, -, hn₂, -⟩ := h₂.unit id u₁ hu₁
        rw [hu] at hu₂
        cases hu₂
        refine .inr ⟨hid, hn₂ hn, ?_⟩
        rw [ho₂]
        exact ho.imp_right fun ⟨user, hu⟩ => ⟨user, h₂.user _ _ hu⟩
    · exact .inr hnew

end Extends

theorem SameTenants.extends (h : SameTenants s s') : Extends s s' where
  user n u hu := (h.users n).trans hu
  newUser n u hu := .inl ((h.users n).symm.trans hu)
  post id p hp := by rw [h.post]; exact hp
  newPost id p hp := .inl (h.post ▸ hp)
  unit id u hu := by
    obtain ⟨u', hu', hk⟩ := h.unit_after hu
    exact ⟨u', hu', hk.owner, hk.policy, hk.normal, .inl hk.singleton⟩
  newUnit id u hu := by
    obtain ⟨u₀, hu₀, -⟩ := h.unit_before hu
    exact .inl ⟨u₀, hu₀⟩

/-- **What is housed stays housed.** -/
theorem Housed.extends (hs : s.Housed) (h : Extends s s') : s'.Housed := by
  -- The new users cannot log in, so the homes are the old ones.
  have hlogin : ∀ n, s'.Login n ↔ s.Login n := by
    intro n
    constructor
    · rintro ⟨u, hu, hact⟩
      rcases h.newUser n u hu with hu | ⟨-, hservice, -⟩
      · exact ⟨u, hu, hact⟩
      · rw [hact] at hservice
        cases hservice
    · rintro ⟨u, hu, hact⟩
      exact ⟨u, h.user n u hu, hact⟩
  have huser : ∀ n, (∃ u, s.users.lookup n = some u) → ∃ u, s'.users.lookup n = some u :=
    fun n ⟨u, hu⟩ => ⟨u, h.user n u hu⟩
  have hkept : ∀ {id : String} {u : UnitRecord}, s.units.lookup id = some u →
      strip u.singletonSessionId ≠ "" → u.singletonSessionId ∈ s.sessions →
      ∃ u', s'.units.lookup id = some u' ∧ u'.ownerAccount = u.ownerAccount ∧
        u'.instancePolicy = u.instancePolicy ∧ u'.singletonSessionId = u.singletonSessionId := by
    intro id u hu hne hmem
    obtain ⟨u', hu', ho, hp, -, hsing | hsing | hsing⟩ := h.unit id u hu
    · exact ⟨u', hu', ho, hp, hsing⟩
    · exact absurd (by rw [hsing]; decide) hne
    · exact absurd hmem hsing
  refine ⟨⟨fun n u hu => ?_, huser _ hs.root, fun spec hm => huser _ (hs.account spec hm),
    fun n u hu hact => ?_, fun n u hu hservice => ?_, fun id u hu => ?_, fun id p hp => ?_,
    fun id u hu => ?_, fun id u hu => ?_, fun id p hp => ?_, ?_, h.post _ _ hs.rootPost⟩,
    fun n u hu hact => ?_, fun n hn => ?_, fun n hn => h.post _ _ (hs.homePost n ((hlogin n).1 hn))⟩
  · rcases h.newUser n u hu with hu | ⟨hname, -⟩
    · exact hs.name n u hu
    · exact hname
  · rcases h.newUser n u hu with hu | ⟨-, hservice, -⟩
    · exact hs.canHouse n u hu hact
    · rw [hact] at hservice
      cases hservice
  · rcases h.newUser n u hu with hu | ⟨-, -, hhome⟩
    · exact hs.service n u hu hservice
    · exact hhome
  · rcases h.newUnit id u hu with ⟨u₀, hu₀⟩ | ⟨hid, -⟩
    · exact hs.unitId id u₀ hu₀
    · exact hid
  · rcases h.newPost id p hp with hp | ⟨hid, -⟩
    · exact hs.sessionId id p hp
    · exact hid
  · rcases h.newUnit id u hu with ⟨u₀, hu₀⟩ | ⟨-, -, ho⟩
    · obtain ⟨u', hu', ho, -⟩ := h.unit id u₀ hu₀
      rw [hu] at hu'
      cases hu'
      rw [ho]
      exact (hs.owner id u₀ hu₀).imp_right (huser _)
    · exact ho
  · rcases h.newUnit id u hu with ⟨u₀, hu₀⟩ | ⟨-, hn, -⟩
    · obtain ⟨u', hu', -, -, hn, -⟩ := h.unit id u₀ hu₀
      rw [hu] at hu'
      cases hu'
      exact hn (hs.normal id u₀ hu₀)
    · exact hn
  · rcases h.newPost id p hp with hp | ⟨-, hstrip, hunit⟩
    · obtain ⟨hstrip, hunit⟩ := hs.unit id p hp
      refine ⟨hstrip, hunit.imp_right ?_⟩
      rintro ⟨u, hu⟩
      obtain ⟨u', hu', -⟩ := h.unit _ u hu
      exact ⟨u', hu'⟩
    · exact ⟨hstrip, hunit⟩
  · obtain ⟨u, hu, hp, hsing, ho⟩ := hs.rootUnit
    have hmem : u.singletonSessionId ∈ s.sessions := by
      rw [hsing]
      exact mem_sessions_iff.2 ⟨_, hs.rootPost⟩
    obtain ⟨u', hu', ho', hp', hsing'⟩ := hkept hu (by rw [hsing]; decide) hmem
    exact ⟨u', hu', hp'.trans hp, hsing'.trans hsing, ho'.trans ho⟩
  · rcases h.newUser n u hu with hu | ⟨-, hservice, -⟩
    · exact hs.home n u hu hact
    · rw [hact] at hservice
      cases hservice
  · have hn' := (hlogin n).1 hn
    obtain ⟨v, u, hv, hu, hp, hsing, ho⟩ := hs.homeUnit n hn'
    have hmem : u.singletonSessionId ∈ s.sessions := by
      rw [hsing]
      exact mem_sessions_iff.2 ⟨_, hs.homePost n hn'⟩
    obtain ⟨u', hu', ho', hp', hsing'⟩ := hkept hu (by rw [hsing]; exact home_ne_empty n) hmem
    exact ⟨v, u', ⟨(hlogin v).2 hv.login, hv.home, fun w hw => hv.last w ((hlogin w).1 hw)⟩, hu',
      hp'.trans hp, hsing'.trans hsing, ho'.trans ho⟩

/-! ## One step -/

/-- One step of an operation that has loaded `t`. Edges go out only from Sessions that were
    there at the load. -/
inductive Build (t : State) : State → State → Prop
  | work {s s' : State} (h : Unmoved s s') : Build t s s'
  | link {s s' : State} {p c : String} (hp : p ∈ t.sessions)
      (h : s.linkSessionsInState p c = .ok s') : Build t s s'
  | start {s : State} {sid unitId createdAt : String} (hnew : sid ∉ s.sessions)
      (hname : strip sid ≠ "") (hstrip : strip unitId = unitId)
      (hunit : unitId = "" ∨ ∃ unit, s.units.lookup unitId = some unit)
      (hfree : (s.units.lookup unitId).bind s.singletonSession? = none) :
      Build t s ((s.insertSession sid unitId createdAt).recordSingletonSession sid unitId)
  | found {s : State} {unitId : String} {unit : UnitRecord} (hnew : unitId ∉ s.units)
      (hname : strip unitId ≠ "") (hnormal : unit.Normal)
      (howner : unit.ownerAccount = "" ∨ ∃ user, s.users.lookup unit.ownerAccount = some user) :
      Build t s { s with units := s.units.insert unitId unit }
  | restrict {s : State} (unitId : String) (groups : List String) :
      Build t s (s.modifyUnit unitId fun unit => { unit with spawnGroups := groups })
  | hire {s : State} {name : String} {user : User} (hnew : name ∉ s.users)
      (hname : strip name = name ∧ name ≠ "") (hs : user.status = .service)
      (hhome : user.homeSessionId = "") : Build t s (s.enlist name user)

/-- Some steps of an operation that has loaded `t`. -/
abbrev Builds (t : State) : State → State → Prop := ReflTransGen (Build t)

theorem Unmoved.builds (h : Unmoved s s') : Builds t s s' := .single (.work h)

theorem Routine.builds (h : Routine s s') : Builds t s s' := h.toUnmoved.builds

/-- The posts after a Session has been started. -/
theorem post_start (s : State) (sid unitId createdAt id : String) :
    ((s.insertSession sid unitId createdAt).recordSingletonSession sid unitId).post id =
      if id = sid then
        some ⟨unitId, (s.units.lookup unitId).any fun unit => unit.instancePolicy = .singleton⟩
      else s.post id := by
  unfold recordSingletonSession insertSession State.post
  dsimp only
  split_ifs with hsing hid hid
  · subst hid
    rw [modifySession, Dict.lookup_modify_self]
    dsimp only [modifyUnit]
    rw [AList.lookup_insert, hsing]
    rfl
  · rw [modifySession, Dict.lookup_modify_ne _ _ hid]
    dsimp only [modifyUnit]
    rw [AList.lookup_insert_ne hid]
  · subst hid
    rw [AList.lookup_insert, Bool.eq_false_iff.2 hsing]
    rfl
  · rw [AList.lookup_insert_ne hid]

/-- The Units after a Session has been started. -/
theorem units_start (s : State) (sid unitId createdAt id : String) :
    ((s.insertSession sid unitId createdAt).recordSingletonSession sid unitId).units.lookup id =
      (s.units.lookup id).map fun unit =>
        if id = unitId ∧ unit.instancePolicy = .singleton then
          { unit with singletonSessionId := sid } else unit := by
  have hunits : (s.insertSession sid unitId createdAt).units = s.units := rfl
  unfold recordSingletonSession
  rw [hunits]
  split_ifs with hsing
  · dsimp only [modifySession, modifyUnit]
    rw [hunits, Dict.lookup_modify]
    split_ifs with hid
    · subst hid
      cases hu : s.units.lookup id with
      | none => rfl
      | some unit =>
        rw [hu] at hsing
        have hp : unit.instancePolicy = .singleton := by simpa using hsing
        simp [hp]
    · simp [hid]
  · rw [hunits]
    cases hu : s.units.lookup id with
    | none => rfl
    | some unit =>
      have hne : ¬(id = unitId ∧ unit.instancePolicy = .singleton) := by
        rintro ⟨rfl, hp⟩
        rw [hu] at hsing
        simp [hp] at hsing
      simp [hne]

theorem users_start (s : State) (sid unitId createdAt : String) :
    ((s.insertSession sid unitId createdAt).recordSingletonSession sid unitId).users = s.users := by
  unfold recordSingletonSession
  split_ifs <;> rfl

theorem edges_start (s : State) (sid unitId createdAt : String) :
    ((s.insertSession sid unitId createdAt).recordSingletonSession sid unitId).sessionEdges =
      s.sessionEdges := by
  unfold recordSingletonSession
  split_ifs <;> rfl

/-- A singleton Unit without a Session. -/
theorem not_mem_of_free {unit : UnitRecord} (hu : s.units.lookup unitId = some unit)
    (hp : unit.instancePolicy = .singleton)
    (hfree : (s.units.lookup unitId).bind s.singletonSession? = none) :
    unit.singletonSessionId = "" ∨ unit.singletonSessionId ∉ s.sessions := by
  rw [hu] at hfree
  change s.singletonSession? unit = none at hfree
  unfold singletonSession? at hfree
  split_ifs at hfree with hc
  by_contra hno
  push Not at hno
  exact hc ⟨hp, hno⟩

theorem extends_start (hnew : sid ∉ s.sessions) (hname : strip sid ≠ "")
    (hstrip : strip unitId = unitId)
    (hunit : unitId = "" ∨ ∃ unit, s.units.lookup unitId = some unit)
    (hfree : (s.units.lookup unitId).bind s.singletonSession? = none) (createdAt : String) :
    Extends s ((s.insertSession sid unitId createdAt).recordSingletonSession sid unitId) where
  user n u hu := by
    rw [users_start]
    exact hu
  newUser n u hu := by
    rw [users_start] at hu
    exact .inl hu
  post id p hp := by
    rw [post_start, if_neg]
    · exact hp
    · rintro rfl
      exact hnew (mem_sessions_iff.2 ⟨p, hp⟩)
  newPost id p hp := by
    rw [post_start] at hp
    split_ifs at hp with hid
    · cases hp
      subst hid
      refine .inr ⟨hname, hstrip, hunit.imp_right ?_⟩
      rintro ⟨unit, hu⟩
      rw [units_start, hu]
      exact ⟨_, rfl⟩
    · exact .inl hp
  unit id u hu := by
    rw [units_start, hu]
    refine ⟨_, rfl, ?_⟩
    dsimp only
    split_ifs with hc
    · obtain ⟨rfl, hp⟩ := hc
      exact ⟨rfl, rfl, fun hn => ⟨hn.schedule, hn.triggers⟩, .inr (not_mem_of_free hu hp hfree)⟩
    · exact ⟨rfl, rfl, fun hn => hn, .inl rfl⟩
  newUnit id u hu := by
    rw [units_start] at hu
    obtain ⟨u₀, hu₀, -⟩ := Option.map_eq_some_iff.1 hu
    exact .inl ⟨u₀, hu₀⟩

/-- **A step keeps what was there.** -/
theorem Build.extends (h : Build t s s') : Extends s s' := by
  cases h with
  | work h => exact h.toSameTenants.extends
  | link _ h => exact (same_link h).extends
  | start hnew hname hstrip hunit hfree =>
    exact extends_start hnew hname hstrip hunit hfree _
  | @found unitId unit hnew hname hnormal howner =>
    have hlook : ∀ id, (s.units.insert unitId unit).lookup id =
        if id = unitId then some unit else s.units.lookup id := fun id => Dict.lookup_insert_of ..
    refine ⟨fun _ _ => id, fun _ _ => .inl, fun _ _ => id, fun _ _ => .inl, fun id u hu => ?_,
      fun id u hu => ?_⟩
    · dsimp only
      rw [hlook, if_neg]
      · exact ⟨u, hu, rfl, rfl, fun hn => hn, .inl rfl⟩
      · rintro rfl
        exact hnew (Dict.mem_iff_lookup.2 ⟨u, hu⟩)
    · dsimp only at hu
      rw [hlook] at hu
      split_ifs at hu with hid
      · cases hu
        subst hid
        exact .inr ⟨hname, hnormal, howner⟩
      · exact .inl ⟨u, hu⟩
  | restrict unitId groups =>
    have hlook : ∀ id, (s.modifyUnit unitId fun unit =>
        { unit with spawnGroups := groups }).units.lookup id =
          (s.units.lookup id).map fun unit =>
            if id = unitId then { unit with spawnGroups := groups } else unit := by
      intro id
      unfold modifyUnit
      dsimp only
      rw [Dict.lookup_modify]
      split_ifs with hid
      · subst hid
        simp
      · simp
    refine ⟨fun _ _ => id, fun _ _ => .inl, fun _ _ => id, fun _ _ => .inl, fun id u hu => ?_,
      fun id u hu => ?_⟩
    · rw [hlook, hu]
      refine ⟨_, rfl, ?_⟩
      dsimp only
      split_ifs
      · exact ⟨rfl, rfl, fun hn => ⟨hn.schedule, hn.triggers⟩, .inl rfl⟩
      · exact ⟨rfl, rfl, fun hn => hn, .inl rfl⟩
    · rw [hlook] at hu
      obtain ⟨u₀, hu₀, -⟩ := Option.map_eq_some_iff.1 hu
      exact .inl ⟨u₀, hu₀⟩
  | @hire name user hnew hname hservice hhome =>
    have hlook := lookup_enlist s name user
    refine ⟨fun n u hu => ?_, fun n u hu => ?_, fun _ _ => id, fun _ _ => .inl,
      fun id u hu => ⟨u, hu, rfl, rfl, fun hn => hn, .inl rfl⟩, fun id u hu => .inl ⟨u, hu⟩⟩
    · rw [hlook, if_neg]
      · exact hu
      · rintro rfl
        exact hnew (Dict.mem_iff_lookup.2 ⟨u, hu⟩)
    · rw [hlook] at hu
      split_ifs at hu with hn
      · cases hu
        subst hn
        exact .inr ⟨hname, hservice, hhome⟩
      · exact .inl hu

/-- **A whole operation keeps what was there.** -/
theorem Builds.extends (h : Builds t s s') : Extends s s' := by
  induction h with
  | refl => exact .refl s
  | tail _ hstep ih => exact ih.trans hstep.extends

/-! ## Activations -/

theorem mem_parentsOrRoot {parents : List String} {p : String} (h : p ∈ parentsOrRoot parents) :
    p = rootSessionId ∨ p ∈ parents := by
  unfold parentsOrRoot at h
  split_ifs at h
  · exact .inl (List.mem_singleton.1 h)
  · exact .inr h

theorem builds_setState (h : Builds t s s₁) (goalId : Nat) (goal : Goal)
    (completionState : CompletionState) (reason actor : String) (runId : Option Nat)
    (now : String) (deferGoalManager : Bool) : Builds t s (s₁.setGoalCompletionState goalId goal
      completionState reason actor runId now deferGoalManager) :=
  h.trans (routine_setState ..).builds

/-- The existing Session of a singleton Unit is activated, or an error stops this on the
    way. -/
theorem builds_activate {parents : List String} {body createdBy : String} {trigger : Trigger}
    (hp : ∀ p ∈ parentsOrRoot parents, p ∈ s.sessions → p ∈ t.sessions) : Builds t s (leftBy
      (s.activateSingletonUnitSession env unitId sid parents body createdBy createdAt trigger)) := by
  unfold activateSingletonUnitSession
  dsimp only
  refine leftBy_linkParents (P := Builds t s) (fun p hmem _ _ hl h => h.tail (.link ?_ hl))
    (Routine.builds (routine_modifySession s sid fun _ => ⟨rfl, rfl⟩)) fun s₂ h₂ => ?_
  · obtain ⟨hp₁, hp₂⟩ := List.mem_filter.1 hmem
    have hmem : p ∈ (s.modifySession sid fun session =>
        { session with active := true, updatedAt := createdAt }).sessions := by
      simp only [Bool.and_eq_true, decide_eq_true_eq] at hp₂
      exact hp₂.1
    exact hp p hp₁ (Dict.mem_modify.1 hmem)
  · cases s₂.currentGoalForSession sid with
    | none =>
      dsimp only [leftBy, pure, Except.pure]
      refine builds_setState (h₂.trans (Routine.builds ?_)) ..
      exact (routine_createGoal ..).trans (routine_signal ..)
    | some g =>
      dsimp only [leftBy, pure, Except.pure]
      refine builds_setState (h₂.trans (Routine.builds ?_)) ..
      exact (routine_modifyGoal ..).trans (routine_signal ..)

/-- A Unit that a new Session of it may be made for. -/
theorem unit_of_checkActivation {trigger : Trigger} {createdBy : String} {x : PUnit}
    (h : s.checkUnitActivation unitId trigger createdBy = .ok x) :
    unitId = "" ∨ ∃ unit, s.units.lookup unitId = some unit := by
  unfold checkUnitActivation at h
  split_ifs at h with he
  · exact .inl he
  · cases hu : s.units.lookup unitId with
    | none => rw [hu] at h; cases h
    | some unit => exact .inr ⟨unit, rfl⟩

/-- **`_start_goal_session`**: what it leaves behind, whether it succeeds or raises. -/
theorem builds_start {parents : List String} {label body createdBy : String} {trigger : Trigger}
    (hp : ∀ p ∈ parentsOrRoot parents, p ∈ s.sessions → p ∈ t.sessions)
    (hname : strip sid ≠ "" ∨ ∃ r, s.startGoalSessionInState env sid unitId parents label body
      createdBy createdAt trigger = .ok r) : Builds t s (leftBy
      (s.startGoalSessionInState env sid unitId parents label body createdBy createdAt trigger)) := by
  unfold startGoalSessionInState at hname ⊢
  dsimp only at hname ⊢
  generalize (if strip body = "" then strip label else strip body) = body at hname ⊢
  cases hsing : (s.units.lookup (strip unitId)).bind s.singletonSession? with
  | some existing =>
    refine leftBy_check (P := Builds t s) .refl fun _ _ => leftBy_check .refl fun _ _ =>
      leftBy_check .refl fun _ _ => ?_
    exact builds_activate hp
  | none =>
    rw [hsing] at hname
    have hne : strip sid ≠ "" := by
      rcases hname with hne | ⟨r, hr⟩
      · exact hne
      obtain ⟨-, -, hr⟩ := check_bind_ok.1 hr
      obtain ⟨-, -, hr⟩ := check_bind_ok.1 hr
      obtain ⟨-, -, hr⟩ := check_bind_ok.1 hr
      obtain ⟨-, -, hr⟩ := check_bind_ok.1 hr
      obtain ⟨⟨⟩, hstrip, -⟩ := check_bind_ok.1 hr
      exact Except.require_eq_ok.1 hstrip
    refine leftBy_check (P := Builds t s) .refl fun _ _ => leftBy_check .refl fun _ hact =>
      leftBy_check .refl fun ⟨⟩ hnew => leftBy_check .refl fun _ hparents => ?_
    have hnamed : ∀ s : State, check s (Except.require (strip sid ≠ "")
        (.storeError "session_id is required for workspace creation")) = .ok ⟨⟩ := by
      intro s
      rw [Except.require, if_pos hne]
      rfl
    rw [hnamed, Except.ok_bind]
    have hstart : Builds t s ((s.insertSession sid (strip unitId) createdAt).recordSingletonSession
        sid (strip unitId)) :=
      .single (.start (Except.require_eq_ok.1 hnew) hne (strip_strip unitId)
        (unit_of_checkActivation hact) hsing)
    refine leftBy_linkParents (P := Builds t s) (fun p hmem _ _ hl h => h.tail (.link ?_ hl)) hstart
      fun s₂ h₂ => ?_
    · refine hp p hmem ?_
      unfold checkParents at hparents
      split at hparents
      · cases hparents
      · rename_i hnone
        simpa using List.find?_eq_none.1 hnone p hmem
    · dsimp only [leftBy, pure, Except.pure]
      exact builds_setState (h₂.trans (routine_createGoal ..).builds) ..

/-! ## Batches -/

theorem Housed.load (hs : s.Housed) (hl : s.load env = .ok s') : s'.Housed :=
  hs.same (hs.same_load hl)

/-- A parent of a launch was there at the load, if it is there. -/
theorem mem_of_launchIdentity (ht : t.Housed) (hb : Builds t t s) {unit : UnitRecord}
    {parent createdBy launchParent launchUser : String} (hparent : parent ∈ t.sessions)
    (h : s.unitLaunchIdentity unit parent createdBy = .ok (launchParent, launchUser)) :
    launchParent ∈ t.sessions := by
  unfold unitLaunchIdentity at h
  cases hu : s.users.lookup (strip unit.ownerAccount) with
  | none =>
    dsimp only at h
    rw [hu] at h
    cases h
    exact hparent
  | some user =>
    dsimp only at h
    rw [hu] at h
    dsimp only at h
    split_ifs at h with hin
    cases h
    have hs : s.Housed := ht.extends hb.extends
    have hblank : user.homeSessionId ≠ "" := by
      intro he
      rw [he] at hin
      obtain ⟨p, hp⟩ := mem_sessions_iff.1 hin
      exact hs.sessionId _ p hp (by decide)
    cases ha : user.status with
    | service => exact absurd (hs.service _ user hu ha) hblank
    | active =>
      have hut : t.users.lookup (strip unit.ownerAccount) = some user := by
        rcases hb.extends.newUser _ user hu with h | ⟨-, h, -⟩
        · exact h
        · rw [ha] at h
          cases h
      have hhome : user.homeSessionId = accountHomeSessionId (strip unit.ownerAccount) :=
        (congrArg User.homeSessionId (ht.home _ user hut ha)).symm
      rw [hhome, strip_accountHomeSessionId]
      exact mem_sessions_iff.2 ⟨_, ht.homePost _ ⟨user, hut, ha⟩⟩

theorem builds_runUnit {trigger : Trigger} {parent createdBy : String} {nowText : Stamp} {now : Int}
    {r r' : State × List UnitResult} (ht : t.Housed) (hparent : parent ∈ t.sessions)
    (hb : Builds t t r.1) (h : runUnit env trigger parent createdBy nowText now r unitId = .ok r') :
    Builds t t r'.1 := by
  obtain ⟨s, results⟩ := r
  unfold runUnit at h
  dsimp only at h hb
  cases hunit : s.units.lookup unitId with
  | none => rw [hunit] at h; cases h; exact hb
  | some unit =>
    rw [hunit] at h
    obtain ⟨selected, -, h⟩ := Except.bind_eq_ok.1 h
    cases selected with
    | false => cases h; exact hb
    | true =>
      obtain ⟨⟨launchParent, launchUser⟩, hid, h⟩ := Except.bind_eq_ok.1 h
      dsimp only at h
      have hmem := mem_of_launchIdentity ht hb hparent hid
      have hstart : Builds t s (leftBy (s.launchUnit env unitId unit trigger
          (s.triggeredSessionId unitId trigger nowText.text) launchParent launchUser nowText)) := by
        refine builds_start (fun p hp _ => ?_) (.inl (s.strip_triggeredSessionId unitId trigger nowText.text))
        rcases mem_parentsOrRoot hp with rfl | hp
        · exact mem_sessions_iff.2 ⟨_, ht.rootPost⟩
        · exact List.mem_singleton.1 hp ▸ hmem
      generalize s.triggeredSessionId unitId trigger nowText.text = sid at h hstart
      generalize s.launchUnit env unitId unit trigger sid launchParent launchUser nowText = out
        at h hstart
      rcases out with ⟨err | key | -, s₁⟩ | ⟨s₁, payload⟩
      · cases h; exact hb.trans hstart
      · cases h
      · cases h
      · refine (hb.trans hstart).trans ?_
        cases trigger with
        | scheduled =>
          obtain ⟨s₂, h₂, h⟩ := Except.bind_eq_ok.1 h
          rw [← Except.pure_eq_ok.1 h]
          exact (routine_finishScheduled h₂).builds
        | startup =>
          obtain ⟨s₂, h₂, h⟩ := Except.bind_eq_ok.1 h
          rw [← Except.pure_eq_ok.1 h]
          exact (routine_finishStartup h₂).builds
        | manual =>
          obtain ⟨s₂, h₂, h⟩ := Except.bind_eq_ok.1 h
          rw [← Except.pure_eq_ok.1 h]
          exact (routine_finishStartup h₂).builds

theorem builds_batch {trigger : Trigger} {parent createdBy : String} {nowText : Stamp} {now : Int}
    {l : List String} {results : List UnitResult} {r' : State × List UnitResult} (ht : t.Housed)
    (hparent : parent ∈ t.sessions)
    (h : l.foldlM (runUnit env trigger parent createdBy nowText now) (t, results) = .ok r') :
    Builds t t r'.1 :=
  Except.foldlM_invariant (P := fun r => Builds t t r.1) h .refl fun _ _ _ _ h₁ h₂ =>
    builds_runUnit ht hparent h₁ h₂

/-! ## Whole operations -/

/-- Nothing has happened, or a load and some steps of building. -/
def AfterBuilds (s : State) (env : Env) (s' : State) : Prop :=
  s' = s ∨ ∃ t, s.load env = .ok t ∧ Builds t t s'

theorem Builds.saved (h : Builds t s s') : Builds t s s'.save := h.trans (routine_save s').builds

theorem builds_createSession {parents : List String} {createdBy : String}
    (h : s.createSession env sid unitId parents createdBy = .ok s') :
    ∃ t, s.load env = .ok t ∧ Builds t t s' := by
  obtain ⟨t, t', hl, hact, hnew, hname, hparents, hsing, hlink, rfl⟩ := createSession_spec h
  refine ⟨t, hl, Builds.saved ?_⟩
  have hstart : Builds t t ((t.insertSession sid (strip unitId) env.utcNow.text).recordSingletonSession
      sid (strip unitId)) :=
    .single (.start hnew hname (strip_strip unitId) (unit_of_checkActivation hact) hsing)
  refine Except.foldlM_invariant (P := Builds t t) hlink hstart fun p hp s₁ s₂ hb hl => ?_
  refine hb.tail (.link ?_ hl)
  split_ifs at hp with hroot
  · cases hp
  · have hcheck := hparents hroot
    unfold checkParents at hcheck
    split at hcheck
    · cases hcheck
    · rename_i hnone
      simpa using List.find?_eq_none.1 hnone p hp

theorem builds_startGoal {parents : List String} {label body createdBy : String}
    (h : s.startGoalSession env sid unitId parents label body createdBy = .ok s') :
    ∃ t, s.load env = .ok t ∧ Builds t t s' := by
  unfold startGoalSession at h
  obtain ⟨-, h⟩ := Except.require_bind_eq_ok.1 h
  obtain ⟨t, hl, h⟩ := Except.bind_eq_ok.1 h
  obtain ⟨-, h⟩ := Except.require_bind_eq_ok.1 h
  refine ⟨t, hl, ?_⟩
  cases hr : t.startGoalSessionInState env sid unitId parents label body createdBy env.utcNow.text
    .manual with
  | error raised => rw [hr] at h; cases h
  | ok r =>
    rw [hr] at h
    have hstart := builds_start (t := t) (fun p _ hp => hp) (.inr ⟨r, hr⟩)
    rw [hr] at hstart
    obtain rfl := Except.ok.inj h
    exact Builds.saved hstart

theorem builds_createServiceUser {username provider : String} {groups : List String}
    (h : s.createServiceUser env username groups provider = .ok s') :
    ∃ t, s.load env = .ok t ∧ Builds t t s' := by
  unfold createServiceUser at h
  obtain ⟨hne, h⟩ := Except.require_bind_eq_ok.1 h
  obtain ⟨-, h⟩ := Except.require_bind_eq_ok.1 h
  obtain ⟨t, hl, h⟩ := Except.bind_eq_ok.1 h
  obtain ⟨hnew, h⟩ := Except.require_bind_eq_ok.1 h
  rw [← Except.pure_eq_ok.1 h]
  exact ⟨t, hl, Builds.saved (.single (.hire hnew ⟨strip_strip username, hne⟩ rfl rfl))⟩

theorem builds_createUnit {spec : UnitSpec} (h : s.createUnit env unitId spec = .ok s') :
    ∃ t, s.load env = .ok t ∧ Builds t t s' := by
  unfold createUnit at h
  obtain ⟨t, hl, h⟩ := Except.bind_eq_ok.1 h
  obtain ⟨schedule, hschedule, h⟩ := Except.bind_eq_ok.1 h
  obtain ⟨triggers, htriggers, h⟩ := Except.bind_eq_ok.1 h
  obtain ⟨hnew, h⟩ := Except.require_bind_eq_ok.1 h
  obtain ⟨howner, h⟩ := Except.require_bind_eq_ok.1 h
  obtain ⟨hname, h⟩ := Except.require_bind_eq_ok.1 h
  rw [← Except.pure_eq_ok.1 h]
  refine ⟨t, hl, Builds.saved (.single (.found hnew hname ⟨normal_of_normalize hschedule, ?_⟩
    (howner.imp_right Dict.mem_iff_lookup.1)))⟩
  rintro _ ⟨⟩
  exact triggers_of_normalize htriggers

theorem builds_setSpawnGroups {groups : List String}
    (h : s.setUnitSpawnGroups env unitId groups = .ok s') :
    ∃ t, s.load env = .ok t ∧ Builds t t s' := by
  unfold setUnitSpawnGroups at h
  obtain ⟨t, hl, h⟩ := Except.bind_eq_ok.1 h
  obtain ⟨-, h⟩ := Except.require_bind_eq_ok.1 h
  rw [← Except.pure_eq_ok.1 h]
  exact ⟨t, hl, Builds.saved (.single (.restrict unitId _))⟩

theorem builds_link {parent child : String}
    (h : s.linkSessions env parent child = .ok s') : ∃ t, s.load env = .ok t ∧ Builds t t s' := by
  unfold linkSessions at h
  obtain ⟨t, hl, h⟩ := Except.bind_eq_ok.1 h
  obtain ⟨t₁, h₁, h⟩ := Except.bind_eq_ok.1 h
  rw [← Except.pure_eq_ok.1 h]
  refine ⟨t, hl, Builds.saved (.single (.link ?_ h₁))⟩
  unfold linkSessionsInState at h₁
  split_ifs at h₁ with hp
  all_goals exact hp

theorem builds_profiles (s : State) (profiles : Dict Role AgentProfile) :
    Builds t s (State.save { s with agentProfiles := profiles }) :=
  Builds.saved (Unmoved.builds ⟨.of_fields rfl rfl rfl, rfl⟩)

theorem builds_setAccounts {role : String} {accounts : List String}
    (h : s.setAgentAccounts env role accounts = .ok s') :
    ∃ t, s.load env = .ok t ∧ Builds t t s' := by
  unfold setAgentAccounts at h
  cases hrole : normalizeAgentRole role with
  | none => rw [hrole] at h; cases h
  | some r =>
    rw [hrole] at h
    obtain ⟨t, hl, h⟩ := Except.bind_eq_ok.1 h
    obtain ⟨-, -, h⟩ := Except.bind_eq_ok.1 h
    rw [← Except.pure_eq_ok.1 h]
    exact ⟨t, hl, builds_profiles t _⟩

theorem builds_setProvider {role provider : String}
    (h : s.setAgentProvider env role provider = .ok s') : ∃ t, s.load env = .ok t ∧ Builds t t s' := by
  unfold setAgentProvider at h
  cases hrole : normalizeAgentRole role with
  | none => rw [hrole] at h; cases h
  | some r =>
    rw [hrole] at h
    obtain ⟨-, h⟩ := Except.require_bind_eq_ok.1 h
    obtain ⟨t, hl, h⟩ := Except.bind_eq_ok.1 h
    refine ⟨t, hl, ?_⟩
    generalize lower (strip provider) = provider at h
    split_ifs at h
    · rw [← Except.pure_eq_ok.1 h]
      exact builds_profiles _ _
    · obtain ⟨⟨t₁, account, user⟩, h₁, h⟩ := Except.bind_eq_ok.1 h
      obtain ⟨-, h⟩ := Except.require_bind_eq_ok.1 h
      rw [← Except.pure_eq_ok.1 h]
      refine ReflTransGen.trans ?_ (builds_profiles _ _)
      unfold ensureProviderServiceAccount at h₁
      cases hf : providerServiceAccounts.find? fun spec => spec.provider = lower (strip provider) with
      | none => rw [hf] at h₁; cases h₁
      | some spec =>
        rw [hf] at h₁
        dsimp only at h₁
        have hnamed : ∀ spec ∈ providerServiceAccounts,
            strip spec.account = spec.account ∧ spec.account ≠ "" := by
          decide
        cases hu : t.users.lookup spec.account with
        | some user => rw [hu] at h₁; cases h₁; exact .refl
        | none =>
          rw [hu] at h₁
          cases h₁
          exact .single (.hire (AList.lookup_eq_none.1 hu)
            (hnamed spec (List.mem_of_find?_eq_some hf)) rfl rfl)

theorem builds_scheduled {parent createdBy : String} {now : Option Stamp}
    {r : State × List UnitResult} (hs : s.Housed)
    (h : s.runScheduledUnits env parent createdBy now = .ok r) :
    ∃ t, s.load env = .ok t ∧ Builds t t r.1 := by
  unfold runScheduledUnits at h
  obtain ⟨t, hl, h⟩ := Except.bind_eq_ok.1 h
  obtain ⟨_, hcheck, h⟩ := Except.bind_eq_ok.1 h
  obtain ⟨nowDt, -, h⟩ := Except.bind_eq_ok.1 h
  obtain ⟨⟨t₁, results₁⟩, h₁, h⟩ := Except.bind_eq_ok.1 h
  have hparent := (Except.require_bind_eq_ok.1 hcheck).1
  cases h
  exact ⟨t, hl, Builds.saved (builds_batch (hs.load hl) hparent h₁)⟩

theorem builds_startup {parent createdBy : String} {now : Option Stamp}
    {r : State × List UnitResult} (hs : s.Housed)
    (h : s.runStartupUnits env parent createdBy now = .ok r) :
    ∃ t, s.load env = .ok t ∧ Builds t t r.1 := by
  unfold runStartupUnits at h
  obtain ⟨t, hl, h⟩ := Except.bind_eq_ok.1 h
  obtain ⟨_, hcheck, h⟩ := Except.bind_eq_ok.1 h
  obtain ⟨⟨t₁, results₁⟩, h₁, h⟩ := Except.bind_eq_ok.1 h
  have hparent := (Except.require_bind_eq_ok.1 hcheck).1
  cases h
  exact ⟨t, hl, Builds.saved (builds_batch (hs.load hl) hparent h₁)⟩

/-- A lease moves nothing. -/
theorem unmoved_leaseEntry (s : State) (env : Env) (c : Candidate) (goal : Goal)
    (session : Session) : Unmoved s (s.leaseEntry env c goal session).1 := by
  unfold leaseEntry
  lift_lets
  intro e sid sA queuedAt sB profile appointed profileProvider provider agentUser run
  obtain ⟨threads, n, hn, hth⟩ := sB.ensureAgentThread_frame sid e.role agentUser provider
  generalize sB.ensureAgentThread sid e.role agentUser provider = thread at hth ⊢
  obtain ⟨s₃, key⟩ := thread
  obtain ⟨full, hfull⟩ : ∃ full, s₃.readSessionLog sid = { s₃ with fullIds := full } := by
    unfold readSessionLog
    split_ifs
    · exact ⟨s₃.fullIds, rfl⟩
    · exact ⟨_, rfl⟩
  dsimp only at hth ⊢
  rw [hfull, hth]
  have hB : Unmoved s sB :=
    Routine.toUnmoved ((routine_modifyReadiness s _ _).trans
      (routine_modifySession _ _ fun _ => ⟨rfl, rfl⟩))
  exact hB.trans ⟨.of_fields rfl rfl rfl, rfl⟩

/-- **A lease builds nothing.** -/
theorem built_acquire {filter : Option String} {lease : Option Lease}
    (h : s.acquireDispatchLease env filter = .ok (s', lease)) : AfterBuilds s env s' := by
  obtain ⟨loaded, hl, ⟨-, -, rfl | rfl⟩ | ⟨c, goal, session, -, -, rfl, -⟩⟩ := acquire_cases h
  · exact .inl rfl
  · exact .inr ⟨loaded, hl, Builds.saved (routine_chosenEntry ..).builds⟩
  · refine .inr ⟨loaded, hl, Builds.saved ?_⟩
    exact (routine_chosenEntry ..).builds.trans (unmoved_leaseEntry ..).builds

/-- A new login user: a load, the user, the homes. -/
theorem builds_createUser {username password : String} {groups : List String}
    (h : s.createUser env username password groups = .ok s') :
    ∃ t user t', s.load env = .ok t ∧ strip username ≠ "" ∧ strip username ∉ t.users ∧
      user.status = .active ∧ user.homeSessionId = "" ∧ user.homeUnitId = "" ∧
      (t.enlist (strip username) user).ensureUserHomeSessions env.utcNow.text = .ok t' ∧
      s' = t'.save := by
  unfold createUser at h
  obtain ⟨hne, h⟩ := Except.require_bind_eq_ok.1 h
  obtain ⟨-, h⟩ := Except.require_bind_eq_ok.1 h
  obtain ⟨-, h⟩ := Except.require_bind_eq_ok.1 h
  obtain ⟨t, hl, h⟩ := Except.bind_eq_ok.1 h
  obtain ⟨hnew, h⟩ := Except.require_bind_eq_ok.1 h
  obtain ⟨t', ht', h⟩ := Except.bind_eq_ok.1 h
  exact ⟨t, _, t', hl, hne, hnew, rfl, rfl, rfl, ht', (Except.pure_eq_ok.1 h).symm⟩

/-- The state after `create_user` is housed. -/
theorem Housed.createUser (hs : s.Housed) {username password : String} {groups : List String}
    (h : s.createUser env username password groups = .ok s') : s'.Housed := by
  obtain ⟨t, user, t', hl, hne, -, -, hh, hu, ht', rfl⟩ := builds_createUser h
  have hname : strip (strip username) = strip username ∧ strip username ≠ "" :=
    ⟨strip_strip username, hne⟩
  have ht := (hs.load hl).toFurnished.enlist hname ⟨hh, hu⟩
  exact (ht.housed ht').same (routine_save t').toSameTenants

end State

open State

/-- **Every operation but `create_user` and a restart builds on a load.** -/
theorem built_apply {s s' : State} {env : Env} {op : Op} (hs : s.Housed)
    (hop : (∀ username password groups, op ≠ .createUser username password groups) ∧ op ≠ .restart)
    (h : op.apply env s = .ok s') : AfterBuilds s env s' := by
  by_cases hr : op.isRoutine
  · rcases after_apply hr h with rfl | ⟨t, hl, hroutine⟩
    · exact .inl rfl
    · exact .inr ⟨t, hl, hroutine.builds⟩
  refine .inr ?_
  cases op with
  | createUser username password groups => exact absurd rfl (hop.1 username password groups)
  | restart => exact absurd rfl hop.2
  | createServiceUser => rw [Op.apply] at h; exact builds_createServiceUser h
  | createUnit => rw [Op.apply] at h; exact builds_createUnit h
  | setUnitSpawnGroups => rw [Op.apply] at h; exact builds_setSpawnGroups h
  | setAgentProvider => rw [Op.apply] at h; exact builds_setProvider h
  | setAgentAccounts => rw [Op.apply] at h; exact builds_setAccounts h
  | createSession => rw [Op.apply] at h; exact builds_createSession h
  | startGoalSession => rw [Op.apply] at h; exact builds_startGoal h
  | linkSessions => rw [Op.apply] at h; exact builds_link h
  | runScheduledUnits =>
    obtain ⟨r, hr, rfl⟩ := Except.map_eq_ok.1 h
    exact builds_scheduled hs hr
  | runStartupUnits =>
    obtain ⟨r, hr, rfl⟩ := Except.map_eq_ok.1 h
    exact builds_startup hs hr
  | _ => exact absurd rfl hr

variable {sys : Sys}

/-- **What an operation does to the store**: nothing, a load and some steps, the double load
    of a restart, or the creation of a login user. -/
theorem next_cases (hs : sys.store.Housed) (a : Action) :
    AfterBuilds sys.store a.env (sys.next a).store ∨
    (∃ loaded ensured, a.op = .restart ∧ sys.store.load a.env = .ok loaded ∧
      loaded.ensureDefaults a.env.utcNow.text = .ok ensured ∧ Routine ensured (sys.next a).store) ∨
    ∃ username password groups, a.op = .createUser username password groups ∧
      sys.store.createUser a.env username password groups = .ok (sys.next a).store := by
  unfold Sys.next
  cases hok : a.op.exec a.env sys with
  | error => exact .inl (.inl rfl)
  | ok sys' =>
    obtain ⟨env, op⟩ := a
    dsimp only at hok ⊢
    have built : ∀ {op : Op}, (∀ username password groups, op ≠ .createUser username password groups) ∧
        op ≠ .restart →
        (do return ⟨← op.apply env sys.store, sys.leases⟩ : Except Err Sys) = .ok sys' →
        AfterBuilds sys.store env sys'.store := by
      intro op hop hok
      obtain ⟨s', hs', hok⟩ := Except.bind_eq_ok.1 hok
      rw [← Except.pure_eq_ok.1 hok]
      exact built_apply hs hop hs'
    cases op with
    | acquire filter =>
      obtain ⟨⟨store, lease⟩, ha, hok⟩ := Except.bind_eq_ok.1 hok
      rw [← Except.pure_eq_ok.1 hok]
      exact .inl (built_acquire ha)
    | commit lease agentEnd =>
      obtain ⟨-, hok⟩ := Except.require_bind_eq_ok.1 hok
      obtain ⟨store, hc, hok⟩ := Except.bind_eq_ok.1 hok
      rw [← Except.pure_eq_ok.1 hok]
      rcases after_commit hc with rfl | ⟨t, hl, hroutine⟩
      · exact .inl (.inl rfl)
      · exact .inl (.inr ⟨t, hl, hroutine.builds⟩)
    | createUser username password groups =>
      obtain ⟨s', hs', hok⟩ := Except.bind_eq_ok.1 hok
      rw [← Except.pure_eq_ok.1 hok]
      rw [Op.apply] at hs'
      exact .inr (.inr ⟨username, password, groups, rfl, hs'⟩)
    | restart =>
      obtain ⟨s', hs', hok⟩ := Except.bind_eq_ok.1 hok
      rw [← Except.pure_eq_ok.1 hok]
      obtain ⟨⟨memory, s'⟩, hi, rfl⟩ := Except.map_eq_ok.1 hs'
      obtain ⟨loaded, ensured, hl, he, rfl | rfl⟩ := initExisting_cases hi
      · refine .inr (.inl ⟨loaded, ensured, rfl, hl, he, ?_⟩)
        exact ((routine_replay ensured).trans (routine_refresh _ env)).save
      · exact .inl (.inl rfl)
    | _ => exact .inl (built ⟨by rintro _ _ _ ⟨⟩, by rintro ⟨⟩⟩ hok)

/-- An operation keeps the store housed. -/
theorem housed_next (hs : sys.store.Housed) (a : Action) : (sys.next a).store.Housed := by
  rcases next_cases hs a with (heq | ⟨t, hl, hb⟩) | ⟨loaded, ensured, -, hl, he, hr⟩ |
    ⟨username, password, groups, -, hok⟩
  · rw [heq]
    exact hs
  · exact (hs.load hl).extends hb.extends
  · have hloaded := hs.load hl
    exact (hloaded.same (hloaded.same_defaults he)).same hr.toSameTenants
  · exact hs.createUser hok

/-- **Every reachable state is housed.** -/
theorem housed_reachable (h : storeSystem.Reachable sys) : sys.store.Housed := by
  refine h.of_step (P := fun sys => sys.store.Housed) ?_ ?_
  · rintro s ⟨env, hinit, -⟩
    exact housed_initNew hinit
  · rintro s a s' - hs rfl
    exact housed_next hs a

end Aize
