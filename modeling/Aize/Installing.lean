/-
  What a migration does to the state root, step by step.

  `staged` is the data directory that a migration builds; it does not depend on
  the root. `install_ok_iff` says when it is installed, `install_after` what the
  root is then, and `install_leaves` what a kill can leave: a root that still
  starts from the legacy data (`Killed.building`), one with a manifest of the
  new version without a data directory (`Killed.initialized`), or one with the
  data directory in place (`Killed.installed`).
-/
import Aize.Migration

namespace Aize

open SplitStateStorage

variable {E : Type}

/-! ## Roots -/

/-- Nothing but the manifest and the data directory `name` is different. -/
structure Root.SameBut (name : String) (R R' : Root E) : Prop where
  legacyState : R'.legacyState = R.legacyState
  generations : R'.generations = R.generations
  texts : R'.texts = R.texts
  dirs : ∀ name', name' ≠ name → R'.dataDirs.lookup name' = R.dataDirs.lookup name'

namespace Root.SameBut

variable {name : String} {R R₁ R₂ R₃ : Root E}

theorem refl (R : Root E) : R.SameBut name R := ⟨rfl, rfl, rfl, fun _ _ => rfl⟩

theorem trans (h₁ : R₁.SameBut name R₂) (h₂ : R₂.SameBut name R₃) : R₁.SameBut name R₃ :=
  ⟨h₂.legacyState.trans h₁.legacyState, h₂.generations.trans h₁.generations,
    h₂.texts.trans h₁.texts, fun n hn => (h₂.dirs n hn).trans (h₁.dirs n hn)⟩

theorem setData (R : Root E) (name : String) (d : DataDir) : R.SameBut name (R.setData name d) where
  legacyState := rfl
  generations := rfl
  texts := rfl
  dirs _ hn := AList.lookup_insert_ne hn

theorem setManifest (R : Root E) (manifest : Option Manifest) :
    R.SameBut name { R with manifest } := ⟨rfl, rfl, rfl, fun _ _ => rfl⟩

theorem mem (h : R₁.SameBut name R₂) {name' : String} (hne : name' ≠ name) :
    name' ∈ R₂.dataDirs ↔ name' ∈ R₁.dataDirs := by
  rw [Dict.mem_iff_lookup, Dict.mem_iff_lookup, h.dirs name' hne]

end Root.SameBut

/-- Work in one data directory. -/
theorem zoomData_leaves {name : String} {m : Durable Err DataDir α} {R R' : Root E}
    (h : (Durable.zoom (fun R : Root E => R.data name) (Root.setData name) m).Leaves R R') :
    R.SameBut name R' ∧ R'.manifest = R.manifest ∧ (name ∈ R.dataDirs → name ∈ R'.dataDirs) := by
  rcases Durable.leaves_zoom.1 h with rfl | ⟨d, -, rfl⟩
  · exact ⟨.refl _, rfl, id⟩
  · exact ⟨.setData _ _ _, rfl, fun _ => (AList.mem_insert _).2 (.inl rfl)⟩

theorem zoomData_data {name : String} (m : Durable Err DataDir α) (R : Root E) :
    ((Durable.zoom (fun R : Root E => R.data name) (Root.setData name) m).after R).data name =
      m.after (R.data name) :=
  @Durable.get_after_zoom _ _ _ _ (fun R : Root E => R.data name) _ _ _ fun t R => by
    rw [Root.data_setData, if_pos rfl]

/-- The manifest that a storage object writes. -/
def SplitStateStorage.newManifest (st : SplitStateStorage) (createdAt : String) : Manifest :=
  { storageVersion := 2, stateVersion, createdAt, dataDir := st.dataName }

namespace SplitStateStorage

variable {H : Host} {st : SplitStateStorage} {state : Snapshot E}

/-! ## A save -/

/-- **A save succeeds** when the version is right and the data directory can be written. -/
theorem save_ok_iff {J : Json E} {R : Root E} : (st.save H J state).result R = .ok () ↔
    state.version = stateVersion ∧ (st.saveData H J state).result (R.data st.dataName) = .ok () := by
  have hdata : ((st.prepareDataDirectories (E := E)).after R).data st.dataName =
      R.data st.dataName := by
    change (R.setData st.dataName (R.data st.dataName)).data st.dataName = _
    rw [Root.data_setData, if_pos rfl]
  unfold save
  by_cases hv : state.version = stateVersion
  · rw [Durable.result_bind_ok (Durable.result_require_pos _ hv _), Durable.after_require,
      Durable.result_bind_ok (m := st.prepareDataDirectories) (a := ()) rfl, Durable.bind_eq_ok,
      Durable.result_zoom, hdata]
    constructor
    · rintro ⟨u, h, -⟩
      exact ⟨hv, h⟩
    · rintro ⟨-, h⟩
      refine ⟨(), h, ?_⟩
      unfold Durable.result
      rw [Durable.read_bind]
      split_ifs <;> rfl
  · rw [Durable.result_bind_error (Durable.result_require_neg _ hv _)]
    exact iff_of_false (by rintro ⟨⟩) fun h => hv h.1

/-- What a kill of a save leaves of the root. -/
theorem save_leaves {J : Json E} {R R' : Root E} (h : (st.save H J state).Leaves R R') :
    R.SameBut st.dataName R' ∧ (R'.manifest = R.manifest ∨
      R.manifest = none ∧ R'.manifest = some (st.newManifest state.createdAt)) := by
  unfold save at h
  rcases Durable.leaves_bind.1 h with h | ⟨u, -, h⟩
  · rw [Durable.leaves_require] at h
    exact h ▸ ⟨.refl _, .inl rfl⟩
  rw [Durable.after_require] at h
  rcases Durable.leaves_bind.1 h with h | ⟨u, -, h⟩
  · rcases (Durable.leaves_write _ _).1 h with rfl | rfl
    · exact ⟨.refl _, .inl rfl⟩
    · exact ⟨.setData _ _ _, .inl rfl⟩
  have hprep : R.SameBut st.dataName ((st.prepareDataDirectories (E := E)).after R) :=
    .setData _ _ _
  have hman : ((st.prepareDataDirectories (E := E)).after R).manifest = R.manifest := rfl
  generalize (st.prepareDataDirectories (E := E)).after R = R₁ at *
  rcases Durable.leaves_bind.1 h with h | ⟨u, -, h⟩
  · obtain ⟨hsame, hm, -⟩ := zoomData_leaves h
    exact ⟨hprep.trans hsame, .inl (hm.trans hman)⟩
  obtain ⟨hsame, hm, -⟩ := zoomData_leaves (Durable.leaves_after
    (.zoom (fun R : Root E => R.data st.dataName) (Root.setData st.dataName)
      (st.saveData H J state)) R₁)
  generalize Durable.after _ R₁ = R₂ at *
  unfold Durable.Leaves at h
  rw [Durable.read_bind] at h
  have hsame₂ := hprep.trans hsame
  have hm₂ := hm.trans hman
  split_ifs at h with hinit
  · rcases h with rfl | h
    · exact ⟨hsame₂, .inl hm₂⟩
    · cases h
  · rcases (Durable.leaves_write _ _).1 h with rfl | rfl
    · exact ⟨hsame₂, .inl hm₂⟩
    · refine ⟨hsame₂.trans (.setManifest _ _), .inr ⟨?_, rfl⟩⟩
      rw [← hm₂]
      simpa using hinit

/-- **The root after a save.** -/
theorem save_after {J : Json E} {R : Root E} (h : (st.save H J state).result R = .ok ()) :
    let R' := (st.save H J state).after R
    R.SameBut st.dataName R' ∧ st.dataName ∈ R'.dataDirs ∧
      R'.data st.dataName = (st.saveData H J state).after (R.data st.dataName) ∧
      R'.manifest = some (R.manifest.getD (st.newManifest state.createdAt)) := by
  intro R'
  obtain ⟨hv, hsave⟩ := save_ok_iff.1 h
  have hleaves := (save_leaves (Durable.leaves_after (st.save H J state) R)).1
  refine ⟨hleaves, ?_⟩
  have hdata : ((st.prepareDataDirectories (E := E)).after R).data st.dataName =
      R.data st.dataName := by
    change (R.setData st.dataName (R.data st.dataName)).data st.dataName = _
    rw [Root.data_setData, if_pos rfl]
  have hmem : st.dataName ∈ ((st.prepareDataDirectories (E := E)).after R).dataDirs :=
    (AList.mem_insert _).2 (.inl rfl)
  have hman : ((st.prepareDataDirectories (E := E)).after R).manifest = R.manifest := rfl
  have hR' : R' = (st.save H J state).after R := rfl
  unfold save at hR'
  rw [Durable.after_bind_ok (Durable.result_require_pos _ hv _), Durable.after_require,
    Durable.after_bind_ok (m := st.prepareDataDirectories) (a := ()) rfl] at hR'
  generalize (st.prepareDataDirectories (E := E)).after R = R₁ at *
  have hzoom : (Durable.zoom (fun R : Root E => R.data st.dataName) (Root.setData st.dataName)
      (st.saveData H J state)).result R₁ = .ok () := by
    rw [Durable.result_zoom, hdata, hsave]
  rw [Durable.after_bind_ok hzoom] at hR'
  obtain ⟨-, hm, hmem'⟩ := zoomData_leaves (Durable.leaves_after
    (.zoom (fun R : Root E => R.data st.dataName) (Root.setData st.dataName)
      (st.saveData H J state)) R₁)
  have hd := @zoomData_data E _ st.dataName (st.saveData H J state) R₁
  rw [hdata] at hd
  generalize Durable.after _ R₁ = R₂ at *
  unfold Durable.after at hR'
  rw [Durable.read_bind] at hR'
  rw [hR']
  cases hR : R.manifest with
  | some manifest =>
    have hinit : R₂.manifest = some manifest := hm.trans (hman.trans hR)
    rw [hinit]
    exact ⟨hmem' hmem, hd, hinit⟩
  | none =>
    have hinit : R₂.manifest = none := hm.trans (hman.trans hR)
    rw [hinit]
    exact ⟨hmem' hmem, hd, rfl⟩

/-! ## An installation -/

variable (H) (J : LogJson E)

/-- The logs that a migration writes, in a directory of their own. -/
def stagedLogs (state : Snapshot E) : DataDir := (replaceLogs J state).after .empty

/-- **The data directory that a migration builds.** -/
def staged (id : String) (state : Snapshot E) : DataDir :=
  ((staging id).saveData H J.toJson state).after (stagedLogs J state)

/-- The staging directory can be built. -/
def Buildable (id : String) (state : Snapshot E) : Prop :=
  state.version = stateVersion ∧
    ((staging id).saveData H J.toJson state).result (stagedLogs J state) = .ok ()

theorem staging_ne_store (id : String) : (staging id).dataName ≠ store.dataName := by
  intro h
  have := congrArg (fun s : String => s.toList.length) h
  simp [staging, store] at this

/-- What a kill of an installation leaves, of a root that had the manifest `manifest`. -/
inductive Killed (name createdAt : String) (d : DataDir) (R R' : Root E) : Prop
  /-- the staging directory is being built -/
  | building (same : R.SameBut name R') (manifest : R'.manifest = R.manifest)
  /-- the save of the staging directory has written a manifest -/
  | initialized (none : R.manifest = none) (same : R.SameBut name R')
      (version : ∃ m, R'.manifest = some m ∧ m.storageVersion = 2)
  /-- the data directory is in place -/
  | installed (data : R'.dataDirs.lookup store.dataName = some d)
      (manifest : R'.manifest = R.manifest ∧ R.manifest ≠ none ∨ ∃ m, R'.manifest = some m ∧
        m.storageVersion = 2 ∧ m.stateVersion = stateVersion ∧ m.createdAt = createdAt)

variable {H J}

theorem replaceLogs_ok (state : Snapshot E) (d : DataDir) :
    (replaceLogs J state).result d = .ok () :=
  Durable.forEach_ok (fun ⟨_, entries⟩ _ d => by
    cases entries with
    | none => rfl
    | some entries => cases entries <;> rfl) d

/-- The root when the staging directory holds the logs. -/
theorem install_logs {id : String} (state : Snapshot E) {R : Root E}
    (hn : (staging id).dataName ∉ R.dataDirs) :
    let m : Durable Err (Root E) Unit := do
      (staging id).prepareDataDirectories
      .zoom (fun R => R.data (staging id).dataName) (Root.setData (staging id).dataName)
        (replaceLogs J state)
    m.result R = .ok () ∧ (m.after R).data (staging id).dataName = stagedLogs J state ∧
      ∀ R', m.Leaves R R' → R.SameBut (staging id).dataName R' ∧ R'.manifest = R.manifest := by
  intro m
  have hprep : R.SameBut (staging id).dataName
      ((staging id).prepareDataDirectories.after R) := .setData _ _ _
  have hman : ((staging id).prepareDataDirectories.after R).manifest = R.manifest := rfl
  have hdata : ((staging id).prepareDataDirectories.after R).data (staging id).dataName =
      .empty := by
    change (R.setData _ (R.data _)).data _ = _
    rw [Root.data_setData, if_pos rfl, Root.data, AList.lookup_eq_none.2 hn]
    rfl
  have hok : (staging id).prepareDataDirectories.result R = .ok () := rfl
  have hleaves : ∀ R', (staging id).prepareDataDirectories.Leaves R R' →
      R.SameBut (staging id).dataName R' ∧ R'.manifest = R.manifest := by
    intro R' h
    rcases (Durable.leaves_write _ _).1 h with rfl | rfl
    · exact ⟨.refl _, rfl⟩
    · exact ⟨.setData _ _ _, rfl⟩
  refine ⟨?_, ?_, fun R' h => ?_⟩
  · rw [Durable.result_bind_ok hok, Durable.result_zoom]
    exact replaceLogs_ok state _
  · rw [Durable.after_bind_ok hok]
    refine (zoomData_data (replaceLogs J state) _).trans ?_
    rw [hdata]
    rfl
  · rcases Durable.leaves_bind.1 h with h | ⟨-, -, h⟩
    · exact hleaves R' h
    · obtain ⟨hsame, hm, -⟩ := zoomData_leaves h
      exact ⟨hprep.trans hsame, hm.trans hman⟩

/-- **An installation succeeds** when the staging directory can be built and there is no data
    directory. -/
theorem install_ok_iff {id : String} {state : Snapshot E} {backup : Option Manifest} {R : Root E}
    (hn : (staging id).dataName ∉ R.dataDirs) :
    (store.installMigratedState H J id state backup).result R = .ok () ↔
      Buildable H J id state ∧ store.dataName ∉ R.dataDirs := by
  obtain ⟨hok, hdata, hleaves⟩ := install_logs (J := J) state hn
  obtain ⟨hsame, -⟩ := hleaves _ (Durable.leaves_after _ R)
  unfold installMigratedState Buildable
  rw [← Durable.bind_assoc, Durable.result_bind_ok hok]
  generalize Durable.after _ R = R₂ at *
  rw [← hdata, ← save_ok_iff, ← hsame.mem (staging_ne_store id).symm, Durable.bind_eq_ok]
  constructor
  · rintro ⟨u, hsave, h⟩
    obtain ⟨hsame₃, -⟩ := save_after hsave
    refine ⟨hsave, fun hmem => ?_⟩
    unfold Durable.result at h
    rw [Durable.read_bind, decide_eq_true ((hsame₃.mem (staging_ne_store id).symm).2 hmem)] at h
    cases h
  · rintro ⟨hsave, hmem⟩
    obtain ⟨hsame₃, -⟩ := save_after hsave
    refine ⟨(), hsave, ?_⟩
    unfold Durable.result
    rw [Durable.read_bind,
      decide_eq_false fun h => hmem ((hsame₃.mem (staging_ne_store id).symm).1 h)]
    cases backup <;> rfl

/-- **The root after an installation**, and what a kill of it leaves. -/
theorem install_after {id : String} {state : Snapshot E} {backup : Option Manifest} {R : Root E}
    (hn : (staging id).dataName ∉ R.dataDirs)
    (h : (store.installMigratedState H J id state backup).result R = .ok ()) :
    let R' := (store.installMigratedState H J id state backup).after R
    R'.dataDirs.lookup store.dataName = some (staged H J id state) ∧
      R'.manifest = some (store.newManifest state.createdAt) ∧
      R'.legacyState = R.legacyState ∧ R'.texts = R.texts ∧
      (∀ name, name ≠ store.dataName → R'.dataDirs.lookup name =
        if name = (staging id).dataName then none else R.dataDirs.lookup name) ∧
      ∀ R'', (store.installMigratedState H J id state backup).Leaves R R'' →
        Killed (staging id).dataName state.createdAt (staged H J id state) R R'' := by
  intro R'
  obtain ⟨⟨hv, hbuild⟩, hmem⟩ := (install_ok_iff hn).1 h
  have hne := staging_ne_store id
  obtain ⟨hok, hdata, hleaves⟩ := install_logs (J := J) state hn
  obtain ⟨hsame, hman⟩ := hleaves _ (Durable.leaves_after _ R)
  have hR' : R' = (store.installMigratedState H J id state backup).after R := rfl
  unfold installMigratedState at hR' ⊢
  rw [← Durable.bind_assoc] at hR' ⊢
  rw [Durable.after_bind_ok hok] at hR'
  -- the logs are there: `R₂`
  generalize hR₂ : Durable.after _ R = R₂ at hsame hman hdata hR'
  have hsave : ((staging id).save H J.toJson state).result R₂ = .ok () :=
    save_ok_iff.2 ⟨hv, by rw [hdata]; exact hbuild⟩
  obtain ⟨hsame₃, hmem₃, hdata₃, hman₃⟩ := save_after hsave
  rw [hdata] at hdata₃
  rw [hman] at hman₃
  rw [Durable.after_bind_ok hsave] at hR'
  have hkill₃ : ∀ R'', ((staging id).save H J.toJson state).Leaves R₂ R'' →
      Killed (staging id).dataName state.createdAt (staged H J id state) R R'' := by
    intro R'' hl
    obtain ⟨hs, hm | ⟨hnone, hm⟩⟩ := save_leaves hl
    · exact .building (hsame.trans hs) (hm.trans hman)
    · exact .initialized (hman ▸ hnone) (hsame.trans hs) ⟨_, hm, rfl⟩
  -- the staging directory is complete: `R₃`
  generalize hR₃ : ((staging id).save H J.toJson state).after R₂ = R₃ at hsame₃ hmem₃ hdata₃ hman₃ hR'
  have hpresent : decide (store.dataName ∈ R₃.dataDirs) = false :=
    decide_eq_false fun hin => hmem ((hsame.mem hne.symm).1 ((hsame₃.mem hne.symm).1 hin))
  rw [Durable.after_read_bind, Durable.after_bind_ok (Durable.result_require_pos _ hpresent _),
    Durable.after_require, Durable.after_bind_ok (m := store.installData _) (a := ()) rfl] at hR'
  have hinstalled : (store.installData (E := E) (staging id).dataName).after R₃ = { R₃ with
      dataDirs := (R₃.dataDirs.erase (staging id).dataName).insert store.dataName
        (R₃.data (staging id).dataName) } := rfl
  rw [hinstalled] at hR'
  have hlookup : ∀ name, ((R₃.dataDirs.erase (staging id).dataName).insert store.dataName
      (R₃.data (staging id).dataName)).lookup name =
        if name = store.dataName then some (staged H J id state)
        else if name = (staging id).dataName then none else R.dataDirs.lookup name := by
    intro name
    rw [Dict.lookup_insert_of, hdata₃]
    split_ifs with h₁ h₂
    · rfl
    · rw [h₂]
      exact AList.lookup_erase _ _
    · rw [AList.lookup_erase_ne h₂, hsame₃.dirs name h₂, hsame.dirs name h₂]
  generalize hdirs : (R₃.dataDirs.erase (staging id).dataName).insert store.dataName
    (R₃.data (staging id).dataName) = dirs at hR' hlookup hinstalled
  have hbackup : ∀ R₄ : Root E, (writeBackup (E := E) backup).result R₄ = .ok () := fun R₄ => by
    cases backup <;> rfl
  have hmanifest : R₃.manifest = R.manifest ∧ R.manifest ≠ none ∨ ∃ m, R₃.manifest = some m ∧
      m.storageVersion = 2 ∧ m.stateVersion = stateVersion ∧ m.createdAt = state.createdAt := by
    cases hR : R.manifest with
    | some m => exact .inl ⟨by rw [hman₃, hR]; rfl, by rintro ⟨⟩⟩
    | none => exact .inr ⟨_, by rw [hman₃, hR, Option.getD_none], rfl, rfl, rfl⟩
  rw [Durable.after_bind_ok (hbackup _)] at hR'
  have hstore := (hlookup store.dataName).trans (if_pos rfl)
  refine ⟨?_, ?_, ?_, ?_, ?_, ?_⟩
  · rw [hR']
    cases backup <;> exact hstore
  · rw [hR']
    rfl
  · rw [hR', ← hsame.legacyState, ← hsame₃.legacyState]
    cases backup <;> rfl
  · rw [hR', ← hsame.texts, ← hsame₃.texts]
    cases backup <;> rfl
  · intro name hname
    have := (hlookup name).trans (if_neg hname)
    rw [hR']
    cases backup <;> exact this
  · intro R'' hl
    rcases Durable.leaves_bind.1 hl with hl | ⟨-, -, hl⟩
    · obtain ⟨hs, hm⟩ := hleaves R'' hl
      exact .building hs hm
    rw [hR₂] at hl
    rcases Durable.leaves_bind.1 hl with hl | ⟨-, -, hl⟩
    · exact hkill₃ R'' hl
    have hself := hkill₃ R₃ (hR₃ ▸ Durable.leaves_after _ R₂)
    rw [hR₃, Durable.leaves_read_bind] at hl
    rcases Durable.leaves_bind.1 hl with hl | ⟨-, -, hl⟩
    · rw [Durable.leaves_require] at hl
      exact hl ▸ hself
    rw [Durable.after_require] at hl
    rcases Durable.leaves_bind.1 hl with hl | ⟨-, -, hl⟩
    · rcases (Durable.leaves_write _ _).1 hl with rfl | rfl
      · exact hself
      · exact .installed (by rw [← hdirs] at hstore; exact hstore) hmanifest
    rw [hinstalled] at hl
    rcases Durable.leaves_bind.1 hl with hl | ⟨-, -, hl⟩
    · cases backup with
      | none =>
        rw [writeBackup, Durable.leaves_pure] at hl
        exact hl ▸ .installed hstore hmanifest
      | some m =>
        rcases (Durable.leaves_write _ _).1 hl with rfl | rfl
        · exact .installed hstore hmanifest
        · exact .installed hstore hmanifest
    · rcases (Durable.leaves_write _ _).1 hl with rfl | rfl
      · cases backup <;> exact .installed hstore hmanifest
      · cases backup <;> exact .installed hstore (.inr ⟨_, rfl, rfl, rfl, rfl⟩)

end SplitStateStorage

end Aize
