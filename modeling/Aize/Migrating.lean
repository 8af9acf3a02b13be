/-
  A migration as a whole: from a legacy root to the state that `init` goes on
  with.

  `legacySnapshot` is what a migration builds from; `migrate_ok_iff` and
  `migrate_after` are about the migration, `open_ok_iff` about what `init` does
  after it. `staged_sessions` and `staged_load` say what a load finds in the
  data directory that a migration has built.
-/
import Aize.Installing

namespace Aize

open Except (require)
open SplitStateStorage

variable {E : Type} {H : Host} {J : LogJson E} {location : List String}

/-! ## Legacy data -/

namespace Root

/-- A root in one of the legacy formats. -/
def Legacy (R : Root E) : Prop :=
  (∃ m, R.manifest = some m ∧ m.storageVersion = 1) ∨ (R.manifest = none ∧ R.legacyState.isSome)

variable (H J location) in
/-- **What a migration of a legacy root builds from**, and the manifest that it keeps. -/
def legacySnapshot (R : Root E) : Except Err (Snapshot E × Option Manifest) :=
  match R.manifest with
  | some m => do
    let state ← R.loadGenerationState m
    let state ← R.hydrateLegacyTranscripts H location state
    return (J.embedLegacyMessages H state, some m)
  | none =>
    match R.legacyState with
    | some state => .ok (J.embedLegacyMessages H state, none)
    | none => .error (.storeError "state file is missing: state.json")

/-- All files that a legacy root may name are still there. -/
structure Extends (R R' : Root E) : Prop where
  manifest : R'.manifest = R.manifest
  legacyState : R'.legacyState = R.legacyState
  generations : R'.generations = R.generations
  texts : ∀ path text, R.readText path = some text → R'.readText path = some text

theorem SameBut.extends {name : String} {R R' : Root E} (h : R.SameBut name R')
    (hm : R'.manifest = R.manifest) (hn : name ∉ R.dataDirs) : R.Extends R' where
  manifest := hm
  legacyState := h.legacyState
  generations := h.generations
  texts path text hp := by
    unfold readText at hp ⊢
    rw [h.texts]
    cases htext : R.texts.lookup path with
    | some t =>
      rw [htext] at hp
      exact hp
    | none =>
      rw [htext] at hp
      have hp : R.readArtifact path = some text := hp
      change R'.readArtifact path = some text
      unfold readArtifact at hp ⊢
      split at hp
      · rename_i dir rest _
        rw [h.dirs dir, hp]
        rintro rfl
        rw [AList.lookup_eq_none.2 hn] at hp
        cases hp
      · cases hp

theorem hydrateField_mono {R R' : Root E} (h : R.Extends R') {field pathField : String}
    {record record' : Fields}
    (hr : R.hydrateField location field pathField record = .ok record') :
    R'.hydrateField location field pathField record = .ok record' := by
  unfold hydrateField at hr ⊢
  split_ifs at hr ⊢ with hin
  · exact hr
  · split at hr
    · split_ifs at hr ⊢ with hempty
      · exact hr
      · rw [Except.bind_eq_ok] at hr ⊢
        obtain ⟨resolved, hres, hr⟩ := hr
        refine ⟨resolved, hres, ?_⟩
        cases ht : R.readText resolved with
        | none =>
          rw [ht] at hr
          cases hr
        | some text =>
          rw [ht] at hr
          rw [h.texts resolved text ht]
          exact hr
    · exact hr

theorem hydrateFields_mono {R R' : Root E} (h : R.Extends R') {fields : List (String × String)}
    {record record' : Fields}
    (hr : fields.foldlM (fun record f => R.hydrateField location f.1 f.2 record) record =
      .ok record') :
    fields.foldlM (fun record f => R'.hydrateField location f.1 f.2 record) record =
      .ok record' := by
  induction fields generalizing record with
  | nil => exact hr
  | cons f fields ih =>
    rw [List.foldlM_cons, Except.bind_eq_ok] at hr ⊢
    obtain ⟨r, hf, hr⟩ := hr
    exact ⟨r, hydrateField_mono h hf, ih hr⟩

theorem hydrateRecord_mono {R R' : Root E} (h : R.Extends R') {fields : List (String × String)}
    {v v' : Value} (hr : R.hydrateRecord location fields v = .ok v') :
    R'.hydrateRecord location fields v = .ok v' := by
  cases v with
  | obj record =>
    unfold hydrateRecord at hr ⊢
    rw [Except.bind_eq_ok] at hr ⊢
    obtain ⟨r, hf, hr⟩ := hr
    exact ⟨r, hydrateFields_mono h hf, hr⟩
  | _ => exact hr

theorem mapM_mono {α β : Type} {f f' : α → Except Err β}
    (hf : ∀ a b, f a = .ok b → f' a = .ok b) {l : List α} {bs : List β}
    (h : l.mapM f = .ok bs) : l.mapM f' = .ok bs := by
  induction l generalizing bs with
  | nil => exact h
  | cons a l ih =>
    rw [List.mapM_cons, Except.bind_eq_ok] at h ⊢
    obtain ⟨b, hb, h⟩ := h
    refine ⟨b, hf a b hb, ?_⟩
    rw [Except.bind_eq_ok] at h ⊢
    obtain ⟨bs', hbs, h⟩ := h
    exact ⟨bs', ih hbs, h⟩

theorem hydrateItem_mono {R R' : Root E} (h : R.Extends R') {name : String} {v v' : Value}
    (hr : R.hydrateItem location name v = .ok v') : R'.hydrateItem location name v = .ok v' := by
  cases v with
  | obj item =>
    unfold hydrateItem at hr ⊢
    cases htf : transcriptFields name with
    | none =>
      rw [htf] at hr
      exact hr
    | some lf =>
      obtain ⟨list, fields⟩ := lf
      simp only [htf] at hr ⊢
      cases hget : Fields.get? item list with
      | none =>
        rw [hget] at hr
        exact hr
      | some v =>
        rw [hget] at hr
        cases v with
        | arr records =>
          simp only [Except.bind_eq_ok] at hr ⊢
          obtain ⟨rs, hrs, hr⟩ := hr
          exact ⟨rs, mapM_mono (fun _ _ => hydrateRecord_mono h) hrs, hr⟩
        | _ => exact hr
  | _ => exact hr

/-- **The legacy data can still be read** from a root that has more files. -/
theorem legacySnapshot_mono {R R' : Root E} (h : R.Extends R')
    {s : Snapshot E × Option Manifest} (hs : legacySnapshot H J location R = .ok s) :
    legacySnapshot H J location R' = .ok s := by
  have hcoll : ∀ {name identity : String} {state state' : Snapshot E},
      R.hydrateCollection H location name identity state = .ok state' →
      R'.hydrateCollection H location name identity state = .ok state' := by
    intro name identity state state' hr
    unfold hydrateCollection at hr ⊢
    split at hr
    · rw [Except.bind_eq_ok] at hr ⊢
      obtain ⟨vs, hvs, hr⟩ := hr
      exact ⟨vs, mapM_mono (fun _ _ => hydrateItem_mono h) hvs, hr⟩
    · exact hr
  unfold legacySnapshot at hs ⊢
  rw [h.manifest, h.legacyState]
  cases hm : R.manifest with
  | none =>
    rw [hm] at hs
    exact hs
  | some m =>
    rw [hm] at hs
    simp only [Except.bind_eq_ok] at hs ⊢
    obtain ⟨s₁, h₁, s₂, h₂, hs⟩ := hs
    refine ⟨s₁, ?_, s₂, ?_, hs⟩
    · unfold loadGenerationState at h₁ ⊢
      rw [h.generations]
      exact h₁
    · unfold hydrateLegacyTranscripts at h₂ ⊢
      rw [Except.bind_eq_ok] at h₂ ⊢
      obtain ⟨s₃, h₃, h₄⟩ := h₂
      exact ⟨s₃, hcoll h₃, hcoll h₄⟩

end Root

namespace SplitStateStorage

/-! ## The migration -/

/-- The migration of a generation is its installation. -/
theorem migrate_generation {id : String} {R : Root E} {m : Manifest} (hm : R.manifest = some m)
    (hv : m.storageVersion = 1) :
    (∀ s b, R.legacySnapshot H J location = .ok (s, b) →
      (store.migrate H J location id).result R =
          (store.installMigratedState H J id s b).result R ∧
        (store.migrate H J location id).after R =
          (store.installMigratedState H J id s b).after R ∧
        ∀ R', (store.migrate H J location id).Leaves R R' →
          (store.installMigratedState H J id s b).Leaves R R') ∧
    (∀ e, R.legacySnapshot H J location = .error e →
      (store.migrate H J location id).result R = .error e) := by
  have hv₂ : ¬m.storageVersion = 2 := by rw [hv]; decide
  have hmig : (store.migrate H J location id) R = (do
      let loaded ← Durable.read fun R : Root E => do
        let state ← R.loadGenerationState m
        R.hydrateLegacyTranscripts H location state
      let state ← Durable.ofExcept loaded
      store.installMigratedState H J id (J.embedLegacyMessages H state) (some m) :
        Durable Err (Root E) Unit) R := by
    unfold migrate
    rw [Durable.read_bind, hm]
    simp only [ensureCurrentFormat, if_neg hv₂]
    rw [Durable.bind_apply_ok (Durable.result_require_pos _ hv _), Durable.after_require]
    unfold Durable.require
    rw [if_pos hv]
    rfl
  unfold Durable.result Durable.after Durable.Leaves
  rw [hmig, Durable.read_bind]
  unfold Root.legacySnapshot
  rw [hm]
  generalize hl : (do
      let state ← R.loadGenerationState m
      R.hydrateLegacyTranscripts H location state) = loaded
  have hsnap : (do
      let state ← R.loadGenerationState m
      let state ← R.hydrateLegacyTranscripts H location state
      return (J.embedLegacyMessages H state, some m)) =
      (fun state => (J.embedLegacyMessages H state, some m)) <$> loaded := by
    rw [← hl]
    cases R.loadGenerationState m with
    | error e => rfl
    | ok state => rfl
  simp only [hsnap]
  cases loaded with
  | error e =>
    refine ⟨fun s b h => (by cases h), fun e' h => ?_⟩
    obtain rfl := Except.error.inj h
    rfl
  | ok state =>
    refine ⟨fun s b h => ?_, fun e' h => (by cases h)⟩
    obtain ⟨rfl, rfl⟩ := Prod.mk.inj (Except.ok.inj h)
    rw [Durable.bind_apply_ok (Durable.result_ofExcept _ _), Durable.after_ofExcept]
    exact ⟨rfl, rfl, fun R' h => h⟩

/-- The migration of `state.json` is its installation, and a renaming. -/
theorem migrate_stateJson {id : String} {R : Root E} {s : Snapshot E} (hm : R.manifest = none)
    (hl : R.legacyState = some s) :
    let m := store.installMigratedState H J id (J.embedLegacyMessages H s) none
    ((store.migrate H J location id).result R = .ok () ↔
        s.version = stateVersion ∧ m.result R = .ok ()) ∧
      (m.result R = .ok () → s.version = stateVersion →
        (store.migrate H J location id).after R =
          { m.after R with legacyState := none, backups := (m.after R).backups ++ [s] }) ∧
      ∀ R', (store.migrate H J location id).Leaves R R' → m.Leaves R R' ∨
        R' = { m.after R with legacyState := none, backups := (m.after R).backups ++ [s] } := by
  intro m
  have hmig : (store.migrate H J location id) R =
      store.migrateLegacyStateJson H J id s R := by
    unfold migrate
    rw [Durable.read_bind, hm, hl]
  have hres : (store.migrate H J location id).result R =
      (store.migrateLegacyStateJson H J id s).result R := congrArg Prod.snd hmig
  have haft : (store.migrate H J location id).after R =
      (store.migrateLegacyStateJson H J id s).after R :=
    congrArg (fun r : List (Root E) × Except Err Unit => Durable.lastOf R r.1) hmig
  have hleaves : ∀ R', (store.migrate H J location id).Leaves R R' →
      (store.migrateLegacyStateJson H J id s).Leaves R R' := by
    intro R' h
    unfold Durable.Leaves at h ⊢
    rw [hmig] at h
    exact h
  rw [hres, haft]
  unfold migrateLegacyStateJson at hleaves ⊢
  refine ⟨?_, fun hok hv => ?_, fun R' h => ?_⟩
  · by_cases hv : s.version = stateVersion
    · rw [Durable.result_bind_ok (Durable.result_require_pos _ hv _), Durable.after_require,
        Durable.bind_eq_ok]
      exact ⟨fun ⟨u, h, _⟩ => ⟨hv, h⟩, fun ⟨_, h⟩ => ⟨(), h, rfl⟩⟩
    · rw [Durable.result_bind_error (Durable.result_require_neg _ hv _)]
      exact iff_of_false (by rintro ⟨⟩) fun h => hv h.1
  · rw [Durable.after_bind_ok (Durable.result_require_pos _ hv _), Durable.after_require,
      Durable.after_bind_ok hok]
    rfl
  · rcases Durable.leaves_bind.1 (hleaves R' h) with h | ⟨-, -, h⟩
    · rw [Durable.leaves_require] at h
      exact .inl (h ▸ m.leaves_self R)
    · rw [Durable.after_require] at h
      rcases Durable.leaves_bind.1 h with h | ⟨-, -, h⟩
      · exact .inl h
      · rcases (Durable.leaves_write _ _).1 h with rfl | rfl
        · exact .inl (m.leaves_after R)
        · exact .inr rfl

/-- **A migration succeeds** when the legacy data can be read and built, and there is no data
    directory. -/
theorem migrate_ok_iff {id : String} {R : Root E} (hleg : R.Legacy)
    (hn : (staging id).dataName ∉ R.dataDirs) :
    (store.migrate H J location id).result R = .ok () ↔
      ∃ s b, R.legacySnapshot H J location = .ok (s, b) ∧ Buildable H J id s ∧
        store.dataName ∉ R.dataDirs := by
  rcases hleg with ⟨m, hm, hv⟩ | ⟨hm, hl⟩
  · obtain ⟨hok, herr⟩ := @migrate_generation _ H J location id _ _ hm hv
    cases hs : R.legacySnapshot H J location with
    | error e => simp [herr e hs]
    | ok sb =>
      obtain ⟨s, b⟩ := sb
      rw [(hok s b hs).1, install_ok_iff hn]
      constructor
      · exact fun h => ⟨s, b, rfl, h⟩
      · rintro ⟨s', b', h, hb⟩
        obtain ⟨rfl, rfl⟩ := Prod.mk.inj (Except.ok.inj h)
        exact hb
  · obtain ⟨s, hs⟩ := Option.isSome_iff_exists.1 hl
    have hsnap : R.legacySnapshot H J location = .ok (J.embedLegacyMessages H s, none) := by
      unfold Root.legacySnapshot
      rw [hm, hs]
    rw [(migrate_stateJson hm hs).1, install_ok_iff hn, hsnap]
    constructor
    · exact fun h => ⟨_, _, rfl, h.2⟩
    · rintro ⟨s', b', h, hb⟩
      obtain ⟨rfl, rfl⟩ := Prod.mk.inj (Except.ok.inj h)
      exact ⟨hb.1.1, hb⟩

/-- **The root after a migration**, and what a kill of it leaves. -/
theorem migrate_after {id : String} {R : Root E} (hleg : R.Legacy)
    (hn : (staging id).dataName ∉ R.dataDirs) {s : Snapshot E} {b : Option Manifest}
    (hs : R.legacySnapshot H J location = .ok (s, b))
    (h : (store.migrate H J location id).result R = .ok ()) :
    let R' := (store.migrate H J location id).after R
    R'.dataDirs.lookup store.dataName = some (staged H J id s) ∧
      R'.manifest = some (store.newManifest s.createdAt) ∧ R'.texts = R.texts ∧
      (∀ name, name ≠ store.dataName → R'.dataDirs.lookup name =
        if name = (staging id).dataName then none else R.dataDirs.lookup name) ∧
      ∀ R'', (store.migrate H J location id).Leaves R R'' →
        Killed (staging id).dataName s.createdAt (staged H J id s) R R'' := by
  intro R'
  have hR' : R' = (store.migrate H J location id).after R := rfl
  rcases hleg with ⟨m, hm, hv⟩ | ⟨hm, hl⟩
  · obtain ⟨hok, -⟩ := migrate_generation (H := H) (J := J) hm hv
    obtain ⟨hres, haft, hleaves⟩ := hok s b hs
    rw [hres] at h
    obtain ⟨hd, hman, -, ht, hdirs, hkill⟩ := install_after hn h
    rw [hR', haft]
    exact ⟨hd, hman, ht, hdirs, fun R'' hl => hkill R'' (hleaves R'' hl)⟩
  · obtain ⟨s₀, hs₀⟩ := Option.isSome_iff_exists.1 hl
    have hsnap : R.legacySnapshot H J location = .ok (J.embedLegacyMessages H s₀, none) := by
      unfold Root.legacySnapshot
      rw [hm, hs₀]
    obtain ⟨rfl, rfl⟩ := Prod.mk.inj (Except.ok.inj (hs.symm.trans hsnap))
    obtain ⟨hok, haft, hleaves⟩ := migrate_stateJson (H := H) (J := J) hm hs₀
    obtain ⟨hv, hinst⟩ := hok.1 h
    obtain ⟨hd, hman, -, ht, hdirs, hkill⟩ := install_after hn hinst
    rw [hR', haft hinst hv]
    refine ⟨hd, hman, ht, hdirs, fun R'' hl => ?_⟩
    rcases hleaves R'' hl with hl | rfl
    · exact hkill R'' hl
    · exact .installed hd (.inr ⟨_, hman, rfl, rfl, rfl⟩)

/-! ## After the migration -/

/-- What `init` does with a root in the current format. -/
def openRoot (H : Host) (J : LogJson E) : Durable Err (Root E) (Snapshot E) := do
  .zoom (fun R : Root E => R.data store.dataName) (Root.setData store.dataName)
    (recoverAllSessionLogs J)
  let loaded ← .read fun R => store.load H R
  .ofExcept loaded

theorem init_legacy {id : String} {fresh : Snapshot E} {R : Root E}
    (h : ¬(R.manifest.isNone ∧ R.legacyState.isNone)) :
    store.init H J location id fresh R =
      (store.migrate H J location id >>= fun _ => openRoot H J) R := by
  unfold init
  rw [Durable.read_bind, if_neg h]
  rfl

/-- Recovering the logs changes nothing that is read. -/
theorem recoverSessions_read (sid : String) (sessions : Dict String SessionDir) :
    J.readSessionLog sid none none
        ((((recoverSessions J).after sessions).lookup sid).getD .empty) =
      J.readSessionLog sid none none ((sessions.lookup sid).getD .empty) := by
  unfold recoverSessions
  rw [Durable.after_read_bind]
  refine Durable.forEach_read (g := fun sessions : Dict String SessionDir =>
    J.readSessionLog sid none none ((sessions.lookup sid).getD .empty)) fun index _ sessions => ?_
  split_ifs with hempty
  · rfl
  · generalize hm : (do
        let _ ← J.toJson.recoverDurably index.sessionId true
        pure ()) = m
    have hafter : ∀ d, m.after d = (J.recoverSessionLog index.sessionId true d).1 := by
      intro d
      rw [← hm, ← J.after_recoverDurably]
      cases hr : (J.toJson.recoverDurably index.sessionId true).result d with
      | error e => rw [Durable.after_bind_error hr]
      | ok i => rw [Durable.after_bind_ok hr, Durable.after_pure]
    rcases Durable.after_zoom
      (m := m) (s := sessions)
      with ⟨h, -⟩ | h
    · rw [h]
    · rw [h, Dict.lookup_insert_of]
      split_ifs with hsid
      · subst hsid
        rw [hafter]
        exact Json.read_recover _ _ _
      · rfl

/-- **Opening a root** in the current format. -/
theorem open_spec {R : Root E} {m : Manifest} (hm : R.manifest = some m)
    (hversion : m.storageVersion = 2) (hstate : m.stateVersion = stateVersion) :
    (∀ L, (openRoot H J).result R = .ok L ↔
      (recoverSessions J).result (R.data store.dataName).sessions = .ok () ∧
        store.loadData H stateVersion m.createdAt (R.data store.dataName) = .ok L) ∧
    ∀ sid, store.readLog J.toJson sid ((openRoot H J).after R) = store.readLog J.toJson sid R := by
  have hzoom := zoomData_leaves (Durable.leaves_after (.zoom (fun R : Root E =>
    R.data store.dataName) (Root.setData store.dataName) (recoverAllSessionLogs J)) R)
  have hdata := @zoomData_data _ _ store.dataName (recoverAllSessionLogs J) R
  -- recovery works on the Sessions alone
  have hrec : ∀ d : DataDir, ((recoverAllSessionLogs J).after d).sessions =
        (recoverSessions J).after d.sessions ∧
      ((recoverAllSessionLogs J).after d).items = d.items ∧
      ((recoverAllSessionLogs J).after d).values = d.values := by
    intro d
    refine ⟨Durable.get_after_zoom fun _ _ => rfl, ?_, ?_⟩
    · rcases Durable.after_zoom
        (m := recoverSessions J) (s := d)
        with ⟨h, -⟩ | h
      · exact congrArg DataDir.items h
      · exact (congrArg DataDir.items h).trans rfl
    · rcases Durable.after_zoom
        (m := recoverSessions J) (s := d)
        with ⟨h, -⟩ | h
      · exact congrArg DataDir.values h
      · exact (congrArg DataDir.values h).trans rfl
  have hload : ∀ d : DataDir, store.loadData (E := E) H stateVersion m.createdAt
      ((recoverAllSessionLogs J).after d) = store.loadData H stateVersion m.createdAt d := by
    intro d
    have hitems := (hrec d).2.1
    have hvalues := (hrec d).2.2
    unfold loadData loadItemCollection DataDir.files loadValue
    rw [hitems, hvalues]
  have hread : ∀ R' : Root E, R'.manifest = some m → R'.data store.dataName =
      (recoverAllSessionLogs J).after (R.data store.dataName) →
      store.load H R' = store.loadData H stateVersion m.createdAt (R.data store.dataName) := by
    intro R' hm' hd
    unfold load
    rw [hm', hd]
    simp only [hversion, hstate]
    exact hload _
  unfold openRoot
  generalize hR₁ : (Durable.zoom (fun R : Root E => R.data store.dataName)
    (Root.setData store.dataName) (recoverAllSessionLogs J)).after R = R₁ at *
  constructor
  · intro L
    rw [Durable.bind_eq_ok, Durable.result_zoom]
    constructor
    · rintro ⟨u, hok, hl⟩
      rw [hR₁, Durable.result_read_bind, Durable.result_ofExcept,
        hread R₁ (hzoom.2.1.trans hm) hdata] at hl
      exact ⟨hok, hl⟩
    · rintro ⟨hok, hl⟩
      refine ⟨(), hok, ?_⟩
      rw [hR₁, Durable.result_read_bind, Durable.result_ofExcept,
        hread R₁ (hzoom.2.1.trans hm) hdata, hl]
  · intro sid
    have hsame : store.readLog J.toJson sid R₁ = store.readLog J.toJson sid R := by
      unfold readLog DataDir.session
      rw [hdata, (hrec _).1]
      exact recoverSessions_read sid _
    cases hr : (Durable.zoom (fun R : Root E => R.data store.dataName)
        (Root.setData store.dataName) (recoverAllSessionLogs J)).result R with
    | error e => rw [Durable.after_bind_error hr, hR₁, hsame]
    | ok u =>
      rw [Durable.after_bind_ok hr, hR₁, Durable.after_read_bind, Durable.after_ofExcept, hsame]

/-! ## What has been built -/

theorem staging_distinctDirs (id : String) : DistinctDirs (staging id) := by
  change itemCollections.Pairwise fun c c' =>
    (staging "").itemCollectionRoot c.1 ≠ (staging "").itemCollectionRoot c'.1
  decide

/-- All collections but one are written where they are read. -/
theorem staging_itemCollectionRoot (id : String) {c : String × String} (hc : c ∈ itemCollections)
    (hne : c.1 ≠ "users") : (staging id).itemCollectionRoot c.1 = store.itemCollectionRoot c.1 := by
  have hall : ∀ c ∈ itemCollections, c.1 ≠ "users" →
      (staging "").itemCollectionRoot c.1 = store.itemCollectionRoot c.1 := by decide
  exact hall c hc hne

/-- The users are read from a directory that a migration does not write. -/
theorem staging_users (id : String) {c : String × String} (hc : c ∈ itemCollections) :
    store.itemCollectionRoot "users" ≠ (staging id).itemCollectionRoot c.1 := by
  have hall : ∀ c ∈ itemCollections,
      store.itemCollectionRoot "users" ≠ (staging "").itemCollectionRoot c.1 := by decide
  exact hall c hc

theorem stagedLogs_items (J : LogJson E) (state : Snapshot E) :
    (stagedLogs J state).items = ∅ ∧ (stagedLogs J state).values = ∅ := by
  constructor
  · exact Durable.forEach_read (g := fun d : DataDir => d.items) fun ⟨_, entries⟩ _ d => by
      cases entries with
      | none => rfl
      | some entries => cases entries <;> rfl
  · exact Durable.forEach_read (g := fun d : DataDir => d.values) fun ⟨_, entries⟩ _ d => by
      cases entries with
      | none => rfl
      | some entries => cases entries <;> rfl

/-- **The Sessions of a migration** do not depend on the name of the staging directory. -/
theorem staged_sessions {id : String} {state : Snapshot E} (h : Buildable H J id state) :
    (staged H J id state).sessions =
      ((saveLogs J.toJson state).after (stagedLogs J state)).sessions :=
  (saveData_after (staging_distinctDirs id) h.2).1

theorem buildable_congr {id : String} (id' : String) {state : Snapshot E}
    (h : Buildable H J id state) : Buildable H J id' state :=
  ⟨h.1, (saveData_ok_iff (staging_distinctDirs id')).2
    ((saveData_ok_iff (staging_distinctDirs id)).1 h.2)⟩

/-- The files of a collection that a migration has built. -/
theorem staged_files {id : String} {state : Snapshot E} (h : Buildable H J id state)
    {c : String × String} (hc : c ∈ itemCollections) :
    ∃ collection, state.collection c.1 = some collection ∧
      (∀ e ∈ collection.entries, e.2.isObject) ∧
      ((staged H J id state).files ((staging id).itemCollectionRoot c.1)).lookup =
        (staging id).savedFile H c.1 c.2 collection fun _ => none := by
  have hpass := ((saveData_ok_iff (staging_distinctDirs id)).1 h.2).2 c hc
  have hfiles := (saveData_after (staging_distinctDirs id) h.2).2.2.2.1 c hc
  unfold collectionPasses at hpass
  unfold savedFiles at hfiles
  cases hcoll : state.collection c.1 with
  | none =>
    rw [hcoll] at hpass
    cases hpass
  | some collection =>
    rw [hcoll] at hpass hfiles
    have hempty : ((stagedLogs J state).files ((staging id).itemCollectionRoot c.1)).lookup =
        fun _ => none := by
      unfold DataDir.files
      rw [(stagedLogs_items J state).1]
      rfl
    rw [hempty] at hfiles
    exact ⟨collection, rfl, of_decide_eq_true hpass, hfiles⟩

/-- The files of the users are not where they are read. -/
theorem staged_users {id : String} {state : Snapshot E} (h : Buildable H J id state) :
    (staged H J id state).files (store.itemCollectionRoot "users") = ∅ := by
  have hdirs := (saveData_after (staging_distinctDirs id) h.2).2.2.2.2.1
    (store.itemCollectionRoot "users") fun c hc => staging_users id hc
  refine hdirs.trans ?_
  unfold DataDir.files
  rw [(stagedLogs_items J state).1]
  rfl

/-- A load of a collection that a migration has built, but for the users. -/
theorem staged_load_ok_iff {id : String} {state : Snapshot E} (h : Buildable H J id state)
    {c : String × String} (hc : c ∈ itemCollections) (hne : c.1 ≠ "users") :
    (∃ loaded, store.loadItemCollection H c.1 c.2 (staged H J id state) = .ok loaded) ↔
      ∀ collection, state.collection c.1 = some collection → ∀ key fields,
        collection.lookup key = some (.obj fields) →
          H.text (Fields.setDefault c.2 (.str key) fields) c.2 ≠ "" := by
  obtain ⟨collection, hcoll, hall, hfiles⟩ := staged_files h hc
  have hlookup : ∀ path, ((staged H J id state).files (store.itemCollectionRoot c.1)).lookup path =
      (staging id).savedFile H c.1 c.2 collection (fun _ => none) path := by
    intro path
    rw [← staging_itemCollectionRoot id hc hne]
    exact congrFun hfiles path
  have htext : ∀ fields : Fields,
      H.text ((staging id).externalizedItem H c.1 fields) c.2 = H.text fields c.2 := by
    intro fields
    unfold Host.text
    rw [get?_externalizedItem hc]
  rw [load_ok_iff, hcoll]
  constructor
  · rintro hload collection' hcoll' key fields hk
    obtain rfl := Option.some.inj hcoll'
    obtain ⟨fields', hv, hne⟩ := hload (H.itemFile key) _ ((hlookup _).trans
      ((savedFile_eq_some hall).2 ⟨key, fields, hk, rfl, rfl⟩))
    unfold persisted at hv
    obtain rfl := Value.obj.inj hv
    rwa [htext] at hne
  · intro hkeyed path v hv
    rw [hlookup, savedFile_eq_some hall] at hv
    obtain ⟨key, fields, hk, rfl, rfl⟩ := hv
    exact ⟨_, rfl, by rw [htext]; exact hkeyed collection rfl key fields hk⟩

/-- **The name of the staging directory** has no influence on which collections can be loaded,
    nor on what a load of a collection without transcripts gives. -/
theorem staged_load_congr {id : String} (id' : String) {state : Snapshot E}
    (h : Buildable H J id state) {c : String × String} (hc : c ∈ itemCollections) :
    ((∃ loaded, store.loadItemCollection H c.1 c.2 (staged H J id state) = .ok loaded) ↔
      ∃ loaded, store.loadItemCollection H c.1 c.2 (staged H J id' state) = .ok loaded) ∧
    (transcriptFields c.1 = none → store.loadItemCollection H c.1 c.2 (staged H J id' state) =
      store.loadItemCollection H c.1 c.2 (staged H J id state)) := by
  have h' := buildable_congr id' h
  by_cases hne : c.1 = "users"
  · have hsame : store.loadItemCollection H c.1 c.2 (staged H J id' state) =
        store.loadItemCollection H c.1 c.2 (staged H J id state) := by
      refine loadItemCollection_congr fun path => ?_
      rw [hne, staged_users h, staged_users h']
    rw [hsame]
    exact ⟨Iff.rfl, fun _ => rfl⟩
  · refine ⟨(staged_load_ok_iff h hc hne).trans (staged_load_ok_iff h' hc hne).symm, fun htf => ?_⟩
    obtain ⟨collection, hcoll, hall, hfiles⟩ := staged_files h hc
    obtain ⟨collection', hcoll', -, hfiles'⟩ := staged_files h' hc
    obtain rfl := Option.some.inj (hcoll.symm.trans hcoll')
    refine loadItemCollection_congr fun path => ?_
    rw [← staging_itemCollectionRoot id hc hne]
    refine (congrFun hfiles' path).trans (Eq.trans ?_ (congrFun hfiles path).symm)
    have hpersisted : (staging id').persisted H c.1 c.2 = (staging id).persisted H c.1 c.2 := by
      funext key fields
      unfold persisted externalizedItem
      rw [htf]
    unfold savedFile
    rw [hpersisted]

/-- The loaded collections. -/
theorem loadData_ok_iff {version : ℤ} {createdAt : String} {d : DataDir} :
    (∃ L : Snapshot E, store.loadData H version createdAt d = .ok L) ↔
      ∀ c ∈ itemCollections, ∃ loaded, store.loadItemCollection H c.1 c.2 d = .ok loaded := by
  unfold loadData
  rw [Except.exists_bind_ok]
  have hfold : ∀ (l : List (String × String)) (acc : Dict String (Option (Dict String Value))),
      (∃ items, l.foldlM (fun items (c : String × String) => do
          let collection ← store.loadItemCollection H c.1 c.2 d
          return items.insert c.1 (some collection)) acc = .ok items) ↔
        ∀ c ∈ l, ∃ loaded, store.loadItemCollection H c.1 c.2 d = .ok loaded := by
    intro l
    induction l with
    | nil => exact fun acc => iff_of_true ⟨acc, rfl⟩ fun c hc => by cases hc
    | cons c l ih =>
      intro acc
      rw [List.foldlM_cons, List.forall_mem_cons, Except.exists_bind_ok]
      constructor
      · rintro ⟨acc', hone, hrest⟩
        obtain ⟨loaded, hload, -⟩ := Except.bind_eq_ok.1 hone
        exact ⟨⟨loaded, hload⟩, (ih acc').1 hrest⟩
      · rintro ⟨⟨loaded, hload⟩, hrest⟩
        exact ⟨_, Except.bind_eq_ok.2 ⟨loaded, hload, rfl⟩, (ih _).2 hrest⟩
  rw [← hfold itemCollections ∅]
  exact ⟨fun ⟨items, h, _⟩ => ⟨items, h⟩, fun ⟨items, h⟩ => ⟨items, h, _, rfl⟩⟩

/-- What a load gives for each collection. -/
theorem loadData_items {version : ℤ} {createdAt : String} {d : DataDir} {L : Snapshot E}
    (h : store.loadData H version createdAt d = .ok L) :
    ∀ c ∈ itemCollections, ∃ loaded, store.loadItemCollection H c.1 c.2 d = .ok loaded ∧
      L.items.lookup c.1 = some (some loaded) := by
  have hfold : ∀ (l : List (String × String)) (acc items : Dict String (Option (Dict String Value))),
      (l.map Prod.fst).Nodup → l.foldlM (fun items (c : String × String) => do
          let collection ← store.loadItemCollection H c.1 c.2 d
          return items.insert c.1 (some collection)) acc = .ok items →
        (∀ c ∈ l, ∃ loaded, store.loadItemCollection H c.1 c.2 d = .ok loaded ∧
          items.lookup c.1 = some (some loaded)) ∧
        ∀ name, name ∉ l.map Prod.fst → items.lookup name = acc.lookup name := by
    intro l
    induction l with
    | nil =>
      intro acc items _ h
      obtain rfl := Except.ok.inj h
      exact ⟨fun c hc => (by cases hc), fun _ _ => rfl⟩
    | cons c l ih =>
      intro acc items hnd h
      rw [List.map_cons, List.nodup_cons] at hnd
      rw [List.foldlM_cons, Except.bind_eq_ok] at h
      obtain ⟨acc', hone, h⟩ := h
      obtain ⟨loaded, hload, hone⟩ := Except.bind_eq_ok.1 hone
      obtain rfl := Except.ok.inj hone
      obtain ⟨hin, hout⟩ := ih _ _ hnd.2 h
      refine ⟨fun c' hc' => ?_, fun name hname => ?_⟩
      · rcases List.mem_cons.1 hc' with rfl | hc'
        · refine ⟨loaded, hload, ?_⟩
          rw [hout _ hnd.1, AList.lookup_insert]
        · exact hin c' hc'
      · rw [List.map_cons, List.mem_cons, not_or] at hname
        rw [hout name hname.2, AList.lookup_insert_ne hname.1]
  unfold loadData at h
  obtain ⟨items, hitems, h⟩ := Except.bind_eq_ok.1 h
  obtain rfl := Except.ok.inj h
  exact (hfold itemCollections ∅ items (by decide) hitems).1

end SplitStateStorage

end Aize
