/-
  What a load finds after saves (`kernel/storage.py`, `load`, `save`).

  Whatever saves have left on disk before, also ones that failed or were killed, a save that
  succeeds replaces it: a file for each item, no other files, and the values
  (`load_after_save`).  What a load finds is then the last saved state alone.
-/
import Aize.Migrating

namespace Aize

open SplitStateStorage

variable {E : Type}

/-- A root without files. -/
def Root.bare : Root E where
  manifest := none
  manifestV1 := none
  legacyState := none
  backups := []
  generations := ∅
  dataDirs := ∅
  texts := ∅

/-- A root that saves have written one after the other. A save may have failed or have been
    killed on the way. -/
inductive Written (H : Host) (J : Json E) (st : SplitStateStorage) : Root E → Prop
  | bare : Written H J st .bare
  | save {R R' : Root E} (state : Snapshot E) (hR : Written H J st R)
      (hsave : (st.save H J state).Leaves R R') : Written H J st R'

/-- The manifest is one that a load accepts, if there is one. -/
def Root.Current (R : Root E) : Prop :=
  ∀ m, R.manifest = some m → m.storageVersion = 2 ∧ m.stateVersion = stateVersion

variable {H : Host} {J : Json E} {st : SplitStateStorage}

theorem current_newManifest (createdAt : String) :
    (st.newManifest createdAt).storageVersion = 2 ∧
      (st.newManifest createdAt).stateVersion = stateVersion := ⟨rfl, rfl⟩

theorem Written.current {R : Root E} (h : Written H J st R) : R.Current := by
  induction h with
  | bare =>
    intro m hm
    cases hm
  | save state _ hsave ih =>
    intro m hm
    rcases (save_leaves hsave).2 with hsame | ⟨-, hnew⟩
    · exact ih m (hsame ▸ hm)
    · obtain rfl : st.newManifest state.createdAt = m := Option.some.inj (hnew.symm.trans hm)
      exact current_newManifest _

/-- A save leaves a manifest that a load accepts. -/
theorem current_after {R : Root E} (h : R.Current) {state : Snapshot E}
    (hok : (st.save H J state).result R = .ok ()) :
    ∃ m, ((st.save H J state).after R).manifest = some m ∧ m.storageVersion = 2 ∧
      m.stateVersion = stateVersion := by
  refine ⟨_, (save_after hok).2.2.2, ?_⟩
  cases hm : R.manifest with
  | some m => exact h m hm
  | none => exact current_newManifest _

/-! ## Collections -/

namespace SplitStateStorage

variable (H st) in
/-- An item as it is saved: transcript texts are replaced by references. -/
def savedItem (name identity key : String) : Value → Value
  | .obj fields => st.persisted H name identity key fields
  | v => v

/-- **A collection that has been saved** loads as its items. -/
theorem load_savedFile {c : String × String} (hc : c ∈ itemCollections) {d : DataDir}
    {collection : Dict String Value} {old : String → Option Value}
    (hall : ∀ e ∈ collection.entries, e.2.isObject)
    (hkeyed : ∀ key fields, collection.lookup key = some (.obj fields) → key ≠ "" ∧
      ∀ v, fields.lookup c.2 = some v → H.text fields c.2 = key)
    (hfiles : (d.files (st.itemCollectionRoot c.1)).lookup =
      st.savedFile H c.1 c.2 collection old) :
    ∃ loaded, st.loadItemCollection H c.1 c.2 d = .ok loaded ∧
      ∀ key, loaded.lookup key = (collection.lookup key).map (st.savedItem H c.1 c.2 key) := by
  have hlook := fun path => congrFun hfiles path
  have hfile : KeyedFiles H c.2 (d.files (st.itemCollectionRoot c.1)) := by
    intro path v hv
    rw [hlook, savedFile_eq_some hall] at hv
    obtain ⟨key, fields, hk, rfl, rfl⟩ := hv
    obtain ⟨hne, hid⟩ := hkeyed key fields hk
    have htext := @text_persisted H st _ hc _ _ hne hid
    exact ⟨_, rfl, by rw [htext]; exact hne, by rw [htext]⟩
  obtain ⟨loaded, hload, hlookup⟩ := hfile.load
  refine ⟨loaded, hload, fun key => ?_⟩
  rw [hlookup, hlook]
  cases hk : collection.lookup key with
  | some item =>
    have hobj := hall _ (AList.mem_lookup_iff.1 hk)
    cases item with
    | obj fields => exact (savedFile_eq_some hall).2 ⟨key, fields, hk, rfl, rfl⟩
    | _ => cases hobj
  | none =>
    cases hs : st.savedFile H c.1 c.2 collection old (H.itemFile key) with
    | none => rfl
    | some v =>
      obtain ⟨key', fields, hk', hpath, -⟩ := (savedFile_eq_some hall).1 hs
      obtain rfl := itemFile_injective H hpath
      rw [hk] at hk'
      cases hk'

/-- The values that a load gives. -/
theorem loadData_values {version : ℤ} {createdAt : String} {d : DataDir} {L : Snapshot E}
    (h : st.loadData H version createdAt d = .ok L) :
    ∀ v ∈ valueCollections, L.values.lookup v.1 = some (loadValue v.1 v.2 d) := by
  have hfold : ∀ (l : List (String × Value)) (acc : Dict String Value), (l.map Prod.fst).Nodup →
      (∀ v ∈ l, (l.foldl (fun values v => values.insert v.1 (loadValue v.1 v.2 d)) acc).lookup
        v.1 = some (loadValue v.1 v.2 d)) ∧
      ∀ name, name ∉ l.map Prod.fst →
        (l.foldl (fun values v => values.insert v.1 (loadValue v.1 v.2 d)) acc).lookup name =
          acc.lookup name := by
    intro l
    induction l with
    | nil => exact fun acc _ => ⟨fun v hv => (by cases hv), fun _ _ => rfl⟩
    | cons v l ih =>
      intro acc hnd
      rw [List.map_cons, List.nodup_cons] at hnd
      obtain ⟨hin, hout⟩ := ih (acc.insert v.1 (loadValue v.1 v.2 d)) hnd.2
      refine ⟨fun w hw => ?_, fun name hname => ?_⟩
      · rcases List.mem_cons.1 hw with rfl | hw
        · rw [List.foldl_cons, hout _ hnd.1, AList.lookup_insert]
        · exact hin w hw
      · rw [List.map_cons, List.mem_cons, not_or] at hname
        rw [List.foldl_cons, hout name hname.2, AList.lookup_insert_ne hname.1]
  unfold loadData at h
  obtain ⟨items, -, h⟩ := Except.bind_eq_ok.1 h
  obtain rfl := Except.ok.inj h
  exact (hfold valueCollections ∅ (by decide)).1

end SplitStateStorage

/-- The collections of a state that has been saved are objects of objects. -/
theorem saved_collection {state : Snapshot E} {R : Root E}
    (hok : (store.save H J state).result R = .ok ()) {c : String × String}
    (hc : c ∈ itemCollections) : ∃ collection, state.collection c.1 = some collection ∧
      (∀ e ∈ collection.entries, e.2.isObject) ∧
      ((((store.save H J state).after R).data store.dataName).files
        (store.itemCollectionRoot c.1)).lookup = store.savedFile H c.1 c.2 collection
          ((R.data store.dataName).files (store.itemCollectionRoot c.1)).lookup := by
  obtain ⟨-, hdata⟩ := save_ok_iff.1 hok
  have hpass := ((saveData_ok_iff store_distinctDirs).1 hdata).2 c hc
  have hfiles := (saveData_after store_distinctDirs hdata).2.2.2.1 c hc
  rw [← (save_after hok).2.2.1] at hfiles
  unfold collectionPasses at hpass
  unfold savedFiles at hfiles
  cases hcoll : state.collection c.1 with
  | none =>
    rw [hcoll] at hpass
    cases hpass
  | some collection =>
    rw [hcoll] at hpass hfiles
    exact ⟨collection, rfl, of_decide_eq_true hpass, hfiles⟩

/-- A load after a save has the items that have been saved. -/
theorem loaded_items {R : Root E} (hR : Written H J store R) {state : Snapshot E}
    (hkeyed : KeyedItems H state) (hok : (store.save H J state).result R = .ok ()) :
    ∃ loaded, store.load H ((store.save H J state).after R) = .ok loaded ∧
      ∀ c ∈ itemCollections, ∃ collection items, state.collection c.1 = some collection ∧
        loaded.items.lookup c.1 = some (some items) ∧
        ∀ key, items.lookup key = (collection.lookup key).map (store.savedItem H c.1 c.2 key) := by
  obtain ⟨m, hm, hv, hs⟩ := current_after hR.current hok
  have hcoll : ∀ c ∈ itemCollections, ∃ collection items,
      state.collection c.1 = some collection ∧
      store.loadItemCollection H c.1 c.2 (((store.save H J state).after R).data store.dataName) =
        .ok items ∧
      ∀ key, items.lookup key = (collection.lookup key).map (store.savedItem H c.1 c.2 key) := by
    intro c hc
    obtain ⟨collection, hcoll, hall, hfiles⟩ := saved_collection hok hc
    obtain ⟨items, hload, hitems⟩ := load_savedFile hc hall (hkeyed c hc collection hcoll) hfiles
    exact ⟨collection, items, hcoll, hload, hitems⟩
  obtain ⟨loaded, hload⟩ := loadData_ok_iff.2 fun c hc => by
    obtain ⟨-, items, -, hitems, -⟩ := hcoll c hc
    exact ⟨items, hitems⟩
  refine ⟨loaded, ?_, fun c hc => ?_⟩
  · unfold load
    rw [hm]
    dsimp only
    rw [Except.require_bind_eq_ok]
    refine ⟨hv, Except.require_bind_eq_ok.2 ⟨hs, hload⟩⟩
  · obtain ⟨collection, items, hcoll, hitems, hlookup⟩ := hcoll c hc
    obtain ⟨items', hitems', hin⟩ := loadData_items hload c hc
    obtain rfl := Except.ok.inj (hitems'.symm.trans hitems)
    exact ⟨collection, items', hcoll, hin, hlookup⟩

/-- And the values. -/
theorem loaded_values {R : Root E} {state loaded : Snapshot E}
    (hok : (store.save H J state).result R = .ok ())
    (hload : store.load H ((store.save H J state).after R) = .ok loaded) :
    ∀ v ∈ valueCollections,
      loaded.values.lookup v.1 = some ((state.values.lookup v.1).getD v.2) := by
  intro v hvc
  have hvalues := (saveData_after store_distinctDirs (save_ok_iff.1 hok).2).2.2.2.2.2 v hvc
  unfold load at hload
  cases hm : ((store.save H J state).after R).manifest with
  | none => rw [hm] at hload; cases hload
  | some m =>
    rw [hm] at hload
    obtain ⟨-, hload⟩ := Except.require_bind_eq_ok.1 hload
    obtain ⟨-, hload⟩ := Except.require_bind_eq_ok.1 hload
    rw [loadData_values hload v hvc, loadValue, (save_after hok).2.2.1, hvalues]
    rfl

/-- **A load after a save gives what has been saved last.** -/
theorem load_after_save {R : Root E} (hR : Written H J store R) {state : Snapshot E}
    (hkeyed : KeyedItems H state) (hok : (store.save H J state).result R = .ok ()) :
    ∃ loaded, store.load H ((store.save H J state).after R) = .ok loaded ∧
      (∀ c ∈ itemCollections, ∃ collection items, state.collection c.1 = some collection ∧
        loaded.items.lookup c.1 = some (some items) ∧
        ∀ key, items.lookup key = (collection.lookup key).map (store.savedItem H c.1 c.2 key)) ∧
      ∀ v ∈ valueCollections,
        loaded.values.lookup v.1 = some ((state.values.lookup v.1).getD v.2) := by
  obtain ⟨loaded, hload, hitems⟩ := loaded_items hR hkeyed hok
  exact ⟨loaded, hload, hitems, loaded_values hok hload⟩

/-! ## Two saves -/

/-- A state with one item. -/
def oneItem (name key : String) (item : Fields) : Snapshot Sample where
  version := stateVersion
  createdAt := ""
  messages := []
  sessionLogs := ∅
  items := (∅ : Dict String (Option (Dict String Value))).insert name
    (some ((∅ : Dict String Value).insert key (.obj item)))
  values := ∅

theorem collection_oneItem (name key : String) (item : Fields) (name' : String) :
    (oneItem name key item).collection name' =
      some (if name' = name then (∅ : Dict String Value).insert key (.obj item) else ∅) := by
  unfold Snapshot.collection oneItem
  rw [Dict.lookup_insert_of]
  split_ifs <;> rfl

theorem keyed_oneItem {c : String × String} (hc : c ∈ itemCollections) {key : String}
    (hkey : key ≠ "") {item : Fields} (hid : item.lookup c.2 = some (.str key)) :
    KeyedItems sampleHost (oneItem c.1 key item) := by
  have hnames : itemCollections.all fun c => itemCollections.all fun c' =>
      c'.1 ≠ c.1 || c'.2 = c.2 := by decide
  intro c' hc' collection hcoll key' fields hk
  rw [collection_oneItem] at hcoll
  obtain rfl := Option.some.inj hcoll
  split_ifs at hk with hname
  · rw [Dict.lookup_insert_of] at hk
    split_ifs at hk with hk'
    · obtain rfl := Value.obj.inj (Option.some.inj hk)
      have hidentity : c'.2 = c.2 := by
        have := List.all_eq_true.1 (List.all_eq_true.1 hnames c hc) c' hc'
        simpa [hname] using this
      subst hk'
      refine ⟨hkey, fun v _ => ?_⟩
      simp [Host.text, Fields.get?, hidentity, hid, Value.truthy, hkey, sampleHost]
    · cases hk
  · cases hk

theorem saved_oneItem (name key : String) (item : Fields) (R : Root Sample) :
    (store.save sampleHost sampleJson (oneItem name key item)).result R = .ok () := by
  rw [save_ok_iff, saveData_ok_iff store_distinctDirs]
  refine ⟨rfl, fun e he => (by cases he), fun c _ => ?_⟩
  unfold collectionPasses
  rw [collection_oneItem]
  split_ifs <;> exact decide_eq_true (by simp [Value.isObject])

/-- A state with one user. -/
def oneUser (username : String) : Snapshot Sample :=
  oneItem "users" username [("username", .str username)]

theorem keyed_oneUser {username : String} (h : username ≠ "") :
    KeyedItems sampleHost (oneUser username) :=
  keyed_oneItem (c := ("users", "username")) (by decide) h rfl

/-- A user that the second state no longer has is gone. -/
theorem load_after_save_twice : ∃ loaded,
    store.load sampleHost ((store.save sampleHost sampleJson (oneUser "b")).after
      ((store.save sampleHost sampleJson (oneUser "a")).after .bare)) = .ok loaded ∧
    ∃ users, loaded.items.lookup "users" = some (some users) ∧ users.lookup "a" = none ∧
      users.lookup "b" = some (.obj [("username", .str "b")]) := by
  obtain ⟨loaded, hload, hitems, -⟩ := load_after_save (H := sampleHost) (J := sampleJson)
    (.save (oneUser "a") .bare (Durable.leaves_after _ _))
    (keyed_oneUser (by decide)) (saved_oneItem "users" "b" _ _)
  obtain ⟨collection, users, hcoll, hin, hlookup⟩ :=
    hitems ("users", "username") (by simp [itemCollections])
  rw [oneUser, collection_oneItem] at hcoll
  obtain rfl := Option.some.inj hcoll
  refine ⟨loaded, hload, users, hin, ?_, ?_⟩
  · rw [hlookup]
    rfl
  · rw [hlookup]
    rfl

end Aize
