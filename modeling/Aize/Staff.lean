/-
  Who may act: the service users, the agent profiles and the appointments of the runs.

  `Retains` says what an operation leaves of them: a user keeps its groups and its provider,
  a profile stays as it was set, and a run keeps its role and the identity it was appointed
  with. Every load retains them.
-/
import Aize.Errors

namespace Aize

namespace State

variable {s s₁ s' : State}

/-- What appointments look at in a user. -/
def groupsAndProvider (s : State) (username : String) : Option (List String × String) :=
  (s.users.lookup username).map fun user => (user.groups, user.provider)

/-- The role of a run, the user who is appointed to it and the provider. -/
def appointment (s : State) (runId : Nat) : Option (Role × String × String) :=
  (s.dispatchRuns.lookup runId).map fun run => (run.role, run.agentUser, run.agentProvider)

/-- Users, profiles and appointments are as they were; there may be more users, and profiles
    that had been missing are the default one. -/
structure Retains (s s' : State) : Prop where
  user : ∀ name v, s.groupsAndProvider name = some v → s'.groupsAndProvider name = some v
  profile : ∀ role p, s'.agentProfiles.lookup role = some p →
    s.agentProfiles.lookup role = some p ∨ p = defaultProfile
  run : s'.appointment = s.appointment

namespace Retains

theorem refl (s : State) : Retains s s := ⟨fun _ _ h => h, fun _ _ => .inl, rfl⟩

theorem trans (h₁ : Retains s s₁) (h₂ : Retains s₁ s') : Retains s s' where
  user name v h := h₂.user name v (h₁.user name v h)
  profile role p h := (h₂.profile role p h).elim (h₁.profile role p) .inr
  run := h₂.run.trans h₁.run

theorem of_fields (hu : s'.users = s.users) (hp : s'.agentProfiles = s.agentProfiles)
    (hr : s'.dispatchRuns = s.dispatchRuns) : Retains s s' where
  user name v h := by unfold groupsAndProvider at *; rwa [hu]
  profile role p h := .inl (hp ▸ h)
  run := by unfold appointment; rw [hr]

theorem foldl {α : Type} {f : State → α → State} {l : List α} (hf : ∀ s a, Retains s (f s a)) :
    Retains s (l.foldl f s) := by
  induction l generalizing s with
  | nil => exact .refl s
  | cons a l ih => exact (hf s a).trans ih

theorem foldlM {α : Type} {f : State → α → Except Err State} {l : List α}
    (hf : ∀ s a s', f s a = .ok s' → Retains s s') (h : l.foldlM f s = .ok s') : Retains s s' :=
  Except.foldlM_invariant (P := Retains s) h (.refl s) fun a _ s₁ s₂ h₁ h₂ =>
    h₁.trans (hf s₁ a s₂ h₂)

theorem modifyRun (runId : Nat) {f : DispatchRun → DispatchRun}
    (hf : ∀ r, (f r).role = r.role ∧ (f r).agentUser = r.agentUser ∧
      (f r).agentProvider = r.agentProvider) : Retains s (s.modifyRun runId f) where
  user _ _ h := h
  profile _ _ := .inl
  run := by
    funext id
    unfold appointment State.modifyRun
    rw [Dict.lookup_modify]
    split_ifs with h
    · subst h
      cases s.dispatchRuns.lookup id <;> simp [hf]
    · rfl

end Retains

/-! ## Loading -/

theorem retains_link {p c : String} (h : s.linkSessionsInState p c = .ok s') : Retains s s' := by
  unfold linkSessionsInState at h
  split_ifs at h <;> cases h
  · exact .refl s
  · exact .of_fields rfl rfl rfl

theorem retains_rename {old new : String} (h : s.renameSessionId old new = .ok s') :
    Retains s s' := by
  unfold renameSessionId at h
  split at h
  · cases h; exact .refl s
  · split_ifs at h <;> cases h
    · exact .refl s
    · refine ⟨fun _ _ h => h, fun _ _ => .inl, ?_⟩
      funext id
      unfold appointment moveSession
      rw [Dict.lookup_mapVals]
      cases s.dispatchRuns.lookup id <;> rfl

theorem retains_homeIds {username home unit : String}
    (hu : s'.users = s.users.modify username fun u =>
      { u with homeSessionId := home, homeUnitId := unit })
    (hp : s'.agentProfiles = s.agentProfiles) (hr : s'.dispatchRuns = s.dispatchRuns) :
    Retains s s' := by
  refine ⟨fun name v hv => ?_, fun role p h => .inl (hp ▸ h), by unfold appointment; rw [hr]⟩
  unfold groupsAndProvider at *
  rw [hu, Dict.lookup_modify]
  split_ifs with hname
  · subst hname
    rwa [Option.map_map]
  · exact hv

theorem retains_assignHome {username : String} {user : User}
    (h : s.assignHome username user = .ok s') : Retains s s' := by
  unfold assignHome at h
  dsimp only at h
  rw [ite_bind] at h
  obtain ⟨s₁, h₁, h⟩ := Except.bind_eq_ok.1 h
  have hsession : Retains s s₁ := by
    split_ifs at h₁
    · exact retains_rename h₁
    · cases h₁; exact .refl s
  refine hsession.trans ?_
  split_ifs at h with hu hm
  · cases hl : s₁.units.lookup (strip user.homeUnitId) with
    | none => rw [hl] at h; cases h; exact retains_homeIds rfl rfl rfl
    | some unit => rw [hl] at h; cases h
  · cases hl : s₁.units.lookup (strip user.homeUnitId) with
    | none => rw [hl] at h; cases h; exact retains_homeIds rfl rfl rfl
    | some unit =>
      rw [hl] at h
      cases h
      exact retains_homeIds rfl rfl rfl
  · cases h
    exact retains_homeIds rfl rfl rfl

theorem retains_homeUnit (s : State) (username : String) : Retains s (s.ensureHomeUnit username) := by
  unfold ensureHomeUnit
  dsimp only
  split
  · exact .of_fields rfl rfl rfl
  · exact .of_fields rfl rfl rfl

theorem retains_homeSession (s : State) (username timestamp : String) :
    Retains s (s.ensureHomeSession username timestamp) := by
  unfold ensureHomeSession
  dsimp only
  split_ifs
  · exact .of_fields rfl rfl rfl
  · exact .of_fields rfl rfl rfl

theorem retains_userHome {timestamp username : String}
    (h : s.ensureUserHome timestamp username = .ok s') : Retains s s' := by
  unfold ensureUserHome at h
  split at h
  · cases h; exact .refl s
  · split_ifs at h
    · cases h; exact .refl s
    · obtain ⟨s₁, h₁, h⟩ := Except.bind_eq_ok.1 h
      obtain ⟨-, h⟩ := Except.require_bind_eq_ok.1 h
      refine (retains_assignHome h₁).trans (((retains_homeUnit s₁ username).trans
        (retains_homeSession _ username timestamp)).trans ?_)
      dsimp only at h
      split_ifs at h
      · cases h; exact .refl _
      · exact retains_link h

theorem retains_ownerParent {sid : String} (h : s.ensureOwnerParent sid = .ok s') :
    Retains s s' := by
  unfold ensureOwnerParent at h
  dsimp only at h
  split at h
  · cases h; exact .refl s
  · split_ifs at h
    · cases h; exact .refl s
    · obtain ⟨-, h⟩ := Except.require_bind_eq_ok.1 h
      cases h
      exact .of_fields rfl rfl rfl
    · obtain ⟨-, h⟩ := Except.require_bind_eq_ok.1 h
      obtain ⟨s₁, h₁, h⟩ := Except.bind_eq_ok.1 h
      cases h
      exact (retains_link h₁).trans (.of_fields rfl rfl rfl)

theorem retains_storedUnit {unitId : String} (h : s.normalizeStoredUnit unitId = .ok s') :
    Retains s s' := by
  unfold normalizeStoredUnit at h
  split at h
  · cases h; exact .refl s
  · obtain ⟨unit, -, h⟩ := Except.bind_eq_ok.1 h
    cases h
    exact .of_fields rfl rfl rfl

theorem retains_accounts (s : State) : Retains s s.ensureAccounts := by
  have hinsert : ∀ (users : Dict String User) (name : String) (user : User) n v,
      (users.lookup n).map (fun u => (u.groups, u.provider)) = some v →
      ((if name ∈ users then users else users.insert name user).lookup n).map
        (fun u => (u.groups, u.provider)) = some v := by
    intro users name user n v hv
    split_ifs with hm
    · exact hv
    · rw [AList.lookup_insert_ne]
      · exact hv
      · rintro rfl
        rw [AList.lookup_eq_none.2 hm] at hv
        cases hv
  refine ⟨fun n v hv => ?_, fun _ _ => .inl, rfl⟩
  unfold groupsAndProvider ensureAccounts at *
  dsimp only
  generalize providerServiceAccounts = specs
  have hroot := hinsert s.users rootUsername { groups := ["root", "admin"] } n v hv
  generalize (if rootUsername ∈ s.users then s.users else s.users.insert rootUsername
    { groups := ["root", "admin"] }) = users at hroot ⊢
  induction specs generalizing users with
  | nil => exact hroot
  | cons spec specs ih => exact ih _ (hinsert users _ _ n v hroot)

theorem retains_profiles (s : State) : Retains s s.ensureAgentProfiles := by
  refine ⟨fun _ _ h => h, fun role p hp => ?_, rfl⟩
  unfold ensureAgentProfiles at hp
  dsimp only at hp
  generalize Role.all = roles at hp
  generalize s.agentProfiles = profiles at hp ⊢
  induction roles generalizing profiles with
  | nil => exact .inl hp
  | cons r roles ih =>
    rw [List.foldl_cons] at hp
    rcases ih _ hp with h | h
    · split_ifs at h with hm
      · exact .inl h
      · rw [Dict.lookup_insert_of] at h
        split_ifs at h
        · cases h
          exact .inr rfl
        · exact .inl h
    · exact .inr h

theorem retains_rootEdge (s : State) (sid : String) : Retains s (s.ensureRootEdge sid) := by
  unfold ensureRootEdge
  split_ifs
  · exact .refl s
  · exact .of_fields rfl rfl rfl

theorem ensureDefaults_retains {timestamp : String} (h : s.ensureDefaults timestamp = .ok s') :
    Retains s s' := by
  unfold ensureDefaults at h
  dsimp only at h
  obtain ⟨s₁, h₁, h⟩ := Except.bind_eq_ok.1 h
  obtain ⟨s₂, h₂, h⟩ := Except.bind_eq_ok.1 h
  obtain ⟨s₃, h₃, h⟩ := Except.bind_eq_ok.1 h
  obtain ⟨s₄, h₄, h⟩ := Except.bind_eq_ok.1 h
  obtain ⟨-, -, h⟩ := Except.bind_eq_ok.1 h
  cases h
  have e₀ : Retains s (if s.dispatchLotSize = 0 then { s with dispatchLotSize := 1 } else s) := by
    split_ifs
    · exact .of_fields rfl rfl rfl
    · exact .refl s
  have eroot : ∀ s : State, Retains s s.ensureRootUnit := fun s => by
    unfold ensureRootUnit
    split <;> exact .of_fields rfl rfl rfl
  have esession : Retains s₁ s₂ := by
    unfold ensureRootSession at h₂
    split at h₂
    · cases h₂; exact .of_fields rfl rfl rfl
    · split_ifs at h₂
      cases h₂
      exact .of_fields rfl rfl rfl
  have estart : Retains s s₂ := (e₀.trans (eroot _)).trans
    ((Retains.foldlM (fun _ _ _ h => retains_storedUnit h) h₁).trans esession)
  have ehome : Retains s₂ s₃ := (retains_accounts s₂).trans
    (Retains.foldlM (fun _ _ _ h => retains_userHome h) h₃)
  have eowner : Retains s₃ s₄ := Retains.foldlM (fun _ _ _ h => retains_ownerParent h) h₄
  exact ((estart.trans ehome).trans eowner).trans ((Retains.foldl retains_rootEdge).trans (retains_profiles _))

variable {env : Env}

/-- **Loading** retains users, profiles and appointments. -/
theorem retains_load (h : s.load env = .ok s') : Retains s s' :=
  (Retains.of_fields rfl rfl rfl : Retains s s.stored).trans (ensureDefaults_retains h)

end State
end Aize
