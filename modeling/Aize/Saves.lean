/-
  What a save leaves on disk, also when it fails.

  The checks of a save are spread over its writes: the log of a Session is
  written before the entries of the next one are checked, and all logs are
  written before the item collections are. `append_session_log_entries`, for
  itself, checks all of its entries before it opens the segment.

  `Unchanged`: everything reads back as before. A save that fails leaves the
  state unchanged exactly when nothing that it gets to is new (`Idle`), which is
  `failed_save_iff`; `not_failed_save_unchanged` is a save that fails in the log
  of one Session after it has written the log of another.
-/
import Aize.Crashes
import Aize.Storage

namespace Aize

open Except (require)

/-! ## Externalized items -/

/-- Only artifacts have been added. -/
structure DataDir.Grows (d d' : DataDir) : Prop where
  sessions : d'.sessions = d.sessions
  items : d'.items = d.items
  values : d'.values = d.values
  artifacts : ∀ path text, d.artifacts.lookup path = some text →
    d'.artifacts.lookup path = some text

theorem DataDir.Grows.refl (d : DataDir) : d.Grows d := ⟨rfl, rfl, rfl, fun _ _ h => h⟩

theorem DataDir.Grows.trans (d₁ d₂ d₃ : DataDir) (h₁ : d₁.Grows d₂) (h₂ : d₂.Grows d₃) :
    d₁.Grows d₃ :=
  ⟨h₂.sessions.trans h₁.sessions, h₂.items.trans h₁.items, h₂.values.trans h₁.values,
    fun p t h => h₂.artifacts p t (h₁.artifacts p t h)⟩

theorem DataDir.Grows.files {d d' : DataDir} (h : d.Grows d') (dir : String) :
    d'.files dir = d.files dir := by
  unfold DataDir.files
  rw [h.items]

theorem DataDir.Grows.session {d d' : DataDir} (h : d.Grows d') (sid : String) :
    d'.session sid = d.session sid := by
  unfold DataDir.session
  rw [h.sessions]

/-- A new artifact, under a path of its own. -/
theorem DataDir.grows_setArtifact {d : DataDir} {path : List String} (text : String)
    (h : path ∉ d.artifacts) : d.Grows (d.setArtifact path text) where
  sessions := rfl
  items := rfl
  values := rfl
  artifacts p t hp := by
    unfold DataDir.setArtifact
    rw [Dict.lookup_insert_of, if_neg, hp]
    rintro rfl
    exact h (Dict.mem_iff_lookup.2 ⟨t, hp⟩)

namespace SplitStateStorage

variable {E : Type} (H : Host) (J : Json E) (st : SplitStateStorage)

/-- What `_externalize_field` makes of a record. -/
def externalizedField (field pathField : String) (record : Fields) : Fields :=
  match H.fieldText record field with
  | none => record.erase field
  | some text =>
    ((record.erase field).set pathField (.str (st.relativePath (H.digest text)))).set
      (field ++ "_chars") (.num text.length)

def externalizedRecord : List (String × String) → Value → Value
  | (field, pathField) :: fields, .obj record =>
    externalizedRecord fields (.obj (st.externalizedField H field pathField record))
  | _, v => v

/-- The item that a save writes. -/
def externalizedItem (name : String) (item : Fields) : Fields :=
  match transcriptFields name with
  | none => item
  | some (list, fields) =>
    match item.get? list with
    | some (.arr records) => item.set list (.arr (records.map (st.externalizedRecord H fields)))
    | _ => item

/-- The contents of an item file after a save. -/
def persisted (name identity key : String) (item : Fields) : Value :=
  .obj (st.externalizedItem H name (Fields.setDefault identity (.str key) item))

variable {H st}

theorem externalizeField_computes (field pathField : String) (record : Fields) :
    Durable.Computes DataDir.Grows (st.externalizeField H field pathField record)
      (st.externalizedField H field pathField record) := by
  have hrefl := DataDir.Grows.refl
  have htrans := DataDir.Grows.trans
  have htext : H.fieldText record field =
      if ((record.get? field).getD .null).isNull then none
      else some (H.str ((record.get? field).getD .null)) := by
    unfold Host.fieldText
    cases record.get? field <;> rfl
  unfold externalizeField externalizedField
  rw [htext]
  dsimp only
  split_ifs with hnull
  · exact .pure hrefl _
  · generalize H.str ((record.get? field).getD .null) = text
    intro d
    unfold Durable.result Durable.Leaves
    rw [Durable.read_bind]
    by_cases hp : artifactPath (H.digest text) ∈ d.artifacts
    · simp only [hp, decide_true, if_true]
      exact (Durable.Computes.pure hrefl _ : Durable.Computes DataDir.Grows _ _) d
    · simp only [hp, decide_false, Bool.false_eq_true, if_false]
      refine ⟨rfl, fun d' hd' => ?_⟩
      rcases Durable.leaves_bind.1 hd' with h | ⟨u, -, h⟩
      · rcases (Durable.leaves_write d _).1 h with rfl | rfl
        · exact hrefl d'
        · exact DataDir.grows_setArtifact text hp
      · rw [Durable.leaves_pure] at h
        rw [h]
        exact DataDir.grows_setArtifact text hp

theorem externalizeRecord_computes (fields : List (String × String)) (v : Value) :
    Durable.Computes DataDir.Grows (st.externalizeRecord H fields v)
      (st.externalizedRecord H fields v) := by
  induction fields generalizing v with
  | nil => exact .pure DataDir.Grows.refl _
  | cons field fields ih =>
    cases v with
    | obj record =>
      exact (externalizeField_computes field.1 field.2 record).bind DataDir.Grows.trans (ih _)
    | _ => exact .pure DataDir.Grows.refl _

theorem externalizeItem_computes (name : String) (item : Fields) :
    Durable.Computes DataDir.Grows (st.externalizeItem H name item)
      (st.externalizedItem H name item) := by
  have hrefl := DataDir.Grows.refl
  unfold externalizeItem externalizedItem
  cases transcriptFields name with
  | none => exact .pure hrefl _
  | some lf =>
    obtain ⟨list, fields⟩ := lf
    dsimp only
    cases item.get? list with
    | none => exact .pure hrefl _
    | some v =>
      cases v with
      | arr records =>
        exact (Durable.Computes.traverse hrefl DataDir.Grows.trans fun v _ =>
          externalizeRecord_computes fields v).bind DataDir.Grows.trans (.pure hrefl _)
      | _ => exact .pure hrefl _

/-! ## One collection -/

/-- One item that is saved. -/
theorem saveItem_spec (name identity key : String) (fields : Fields) (d : DataDir) :
    (st.saveItem H name identity key (.obj fields)).result d = .ok () ∧
      ∃ d₁, d.Grows d₁ ∧ (st.saveItem H name identity key (.obj fields)).after d =
        d₁.setFiles (st.itemCollectionRoot name) ((d.files (st.itemCollectionRoot name)).insert
          (H.itemFile key) (st.persisted H name identity key fields)) := by
  have hc := @externalizeItem_computes H st name
    (Fields.setDefault identity (.str key) fields)
  unfold saveItem
  rw [Durable.after_bind_ok (hc d).1, Durable.result_bind_ok (hc d).1, Durable.after_write,
    Durable.result_write]
  refine ⟨rfl, _, hc.after d, ?_⟩
  rw [(hc.after d).files]
  rfl

/-- One that is not an object. -/
theorem saveItem_not_object (name identity key : String) {item : Value}
    (h : item.isObject = false) (d : DataDir) :
    (st.saveItem H name identity key item).result d =
        .error (.storeError s!"state item {name}:{key} must be an object") ∧
      (st.saveItem H name identity key item).after d = d := by
  cases item with
  | obj fields => cases h
  | _ => exact ⟨rfl, rfl⟩

theorem saveItem_result (name identity key : String) (item : Value) (d : DataDir) :
    (st.saveItem H name identity key item).result d =
      if item.isObject then .ok ()
      else .error (.storeError s!"state item {name}:{key} must be an object") := by
  cases item with
  | obj fields => exact (saveItem_spec name identity key fields d).1
  | _ => exact (saveItem_not_object name identity key rfl d).1

/-- What one item leaves alone. -/
theorem saveItem_frame (name identity key : String) (item : Value) (d : DataDir) :
    let d' := (st.saveItem H name identity key item).after d
    d'.sessions = d.sessions ∧ d'.values = d.values ∧
      (∀ dir, dir ≠ st.itemCollectionRoot name → d'.files dir = d.files dir) ∧
      ∀ path, path ≠ H.itemFile key → (d'.files (st.itemCollectionRoot name)).lookup path =
        (d.files (st.itemCollectionRoot name)).lookup path := by
  intro d'
  cases item with
  | obj fields =>
    obtain ⟨-, d₁, hd₁, h⟩ := saveItem_spec (H := H) name identity key fields d
    rw [show d' = _ from h]
    refine ⟨hd₁.sessions, hd₁.values, fun dir hdir => ?_, fun path hpath => ?_⟩
    · rw [DataDir.files_setFiles, if_neg hdir, hd₁.files]
    · rw [DataDir.files_setFiles, if_pos rfl, Dict.lookup_insert_of, if_neg hpath]
  | _ =>
    rw [show d' = d from (saveItem_not_object name identity key rfl d).2]
    exact ⟨rfl, rfl, fun _ _ => rfl, fun _ _ => rfl⟩

theorem itemFile_injective (H : Host) : Function.Injective H.itemFile := by
  intro k k' h
  unfold Host.itemFile at h
  exact H.digest_injective ((String.append_left_inj _).1 h)

/-- The items of a collection work on files of their own. -/
theorem saveItem_independent (name identity : String) (collection : Dict String Value) :
    Durable.Independent (fun e : Sigma fun _ : String => Value =>
        st.saveItem H name identity e.1 e.2) collection.entries
      (fun e d => (d.files (st.itemCollectionRoot name)).lookup (H.itemFile e.1))
      (fun e _ => e.2.isObject)
      (fun e v => match e.2 with
        | .obj fields => some (st.persisted H name identity e.1 fields)
        | _ => v) where
  result e _ d := by
    rw [saveItem_result]
    cases e.2.isObject <;> rfl
  own := by
    rintro ⟨key, item⟩ - d
    cases item with
    | obj fields =>
      obtain ⟨-, d₁, -, h⟩ := saveItem_spec (H := H) name identity key fields d
      rw [h, DataDir.files_setFiles, if_pos rfl, Dict.lookup_insert_of, if_pos rfl]
    | _ =>
      rw [(saveItem_not_object name identity key rfl d).2]
  frame := by
    refine (List.nodupKeys_iff_pairwise.1 collection.nodupKeys).imp fun {e e'} hne => ?_
    have hfile : H.itemFile e.1 ≠ H.itemFile e'.1 := (itemFile_injective H).ne hne
    exact ⟨fun d => (saveItem_frame name identity e.1 e.2 d).2.2.2 _ hfile.symm,
      fun d => (saveItem_frame name identity e'.1 e'.2 d).2.2.2 _ hfile⟩

/-- What the end of a collection does to its files. -/
theorem unlinkStale_spec (name : String) (collection : Dict String Value) (d : DataDir) :
    let m := st.unlinkStale H name collection
    m.result d = .ok () ∧ (m.after d).sessions = d.sessions ∧
      (m.after d).values = d.values ∧
      (∀ dir, dir ≠ st.itemCollectionRoot name → (m.after d).files dir = d.files dir) ∧
      ∀ path, ((m.after d).files (st.itemCollectionRoot name)).lookup path =
        if path ∈ collection.keys.map H.itemFile then
          (d.files (st.itemCollectionRoot name)).lookup path
        else none := by
  intro m
  generalize hroot : st.itemCollectionRoot name = root
  generalize hkeys : (d.files root).keys = paths
  generalize hexp : collection.keys.map H.itemFile = expected
  let f : String → Durable Err DataDir Unit := fun path =>
    if path ∈ expected then pure ()
    else .write fun d => d.setFiles root ((d.files root).erase path)
  have hm : m d = Durable.forEach f paths d := by
    change (st.unlinkStale H name collection) d = _
    unfold unlinkStale
    rw [Durable.read_bind, hroot, hkeys, hexp]
  have hf : ∀ path d', (f path).after d' = d' ∨
      path ∉ expected ∧ (f path).after d' = d'.setFiles root ((d'.files root).erase path) := by
    intro path d'
    by_cases hp : path ∈ expected
    · exact .inl (by simp only [f, if_pos hp, Durable.after_pure])
    · exact .inr ⟨hp, by simp only [f, if_neg hp, Durable.after_write]⟩
  have hview : ∀ path d', ((f path).after d').files root =
      if path ∈ expected then d'.files root else (d'.files root).erase path := by
    intro path d'
    by_cases hp : path ∈ expected
    · simp only [f, if_pos hp, Durable.after_pure]
    · simp only [f, if_neg hp, Durable.after_write, DataDir.files_setFiles, if_true]
  have hkeep : ∀ path path' d', path' ≠ path →
      (((f path).after d').files root).lookup path' = (d'.files root).lookup path' := by
    intro path path' d' hne
    rw [hview]
    split_ifs
    · rfl
    · exact AList.lookup_erase_ne hne
  have hind : Durable.Independent f paths (fun path d => (d.files root).lookup path)
      (fun _ _ => true) (fun path v => if path ∈ expected then v else none) := by
    refine ⟨fun path _ d' => ?_, fun path _ d' => ?_, ?_⟩
    · by_cases hp : path ∈ expected
      · simp only [f, if_pos hp, Durable.result_pure]
        rfl
      · simp only [f, if_neg hp, Durable.result_write]
        rfl
    · rw [hview]
      split_ifs
      · rfl
      · exact AList.lookup_erase path _
    · have hnd : paths.Nodup := hkeys ▸ (d.files root).keys_nodup
      exact hnd.imp fun {p p'} hne => ⟨fun d' => hkeep p p' d' (Ne.symm hne),
        fun d' => hkeep p' p d' hne⟩
  have hok : (Durable.forEach f paths).result d = .ok () := hind.ok_iff.2 fun _ _ => rfl
  have hread : ∀ {γ : Type} (g : DataDir → γ),
      (∀ (d' : DataDir) fs, g (d'.setFiles root fs) = g d') → g (m.after d) = g d := by
    intro γ g hg
    unfold Durable.after
    rw [hm]
    refine Durable.forEach_read (f := f) fun path _ d' => ?_
    rcases hf path d' with h | ⟨-, h⟩
    · rw [h]
    · rw [h, hg]
  refine ⟨by unfold Durable.result; rw [hm]; exact hok, hread (·.sessions) fun _ _ => rfl,
    hread (·.values) fun _ _ => rfl, fun dir hdir => hread (·.files dir) fun d' fs => by
      rw [DataDir.files_setFiles, if_neg hdir], fun path => ?_⟩
  have hafter : m.after d = (Durable.forEach f paths).after d := by
    unfold Durable.after
    rw [hm]
  rw [hafter]
  by_cases hp : path ∈ paths
  · exact hind.view_after.1 path ((Durable.reached_of_all fun _ _ => rfl).symm ▸ hp)
  · have hnone : (d.files root).lookup path = none := by
      rw [AList.lookup_eq_none, AList.mem_keys, hkeys]
      exact hp
    rw [Durable.forEach_read (g := fun d => (d.files root).lookup path) fun path' hpath' d' =>
      hkeep path' path d' (by rintro rfl; exact hp hpath'), hnone, ite_self]

variable (H st) in
/-- The item files of a collection after a save of it, also of one that fails. -/
def savedFile (name identity : String) (collection : Dict String Value)
    (old : String → Option Value) (path : String) : Option Value :=
  match (Durable.reached (·.2.isObject) collection.entries).find? fun e =>
      H.itemFile e.1 = path ∧ e.2.isObject with
  | some ⟨key, .obj fields⟩ => some (st.persisted H name identity key fields)
  | _ => if ∀ e ∈ collection.entries, e.2.isObject then none else old path

/-- `item` is the part of a path that a save gets to and writes. -/
theorem savedFile_of_mem {name identity : String} {collection : Dict String Value}
    {old : String → Option Value} {key : String} {fields : Fields}
    (h : ⟨key, .obj fields⟩ ∈ Durable.reached (·.2.isObject) collection.entries) :
    st.savedFile H name identity collection old (H.itemFile key) =
      some (st.persisted H name identity key fields) := by
  unfold savedFile
  cases hf : (Durable.reached (·.2.isObject) collection.entries).find? fun e =>
      H.itemFile e.1 = H.itemFile key ∧ e.2.isObject with
  | none =>
    have := List.find?_eq_none.1 hf _ h
    simp [Value.isObject] at this
  | some e =>
    have hp := List.find?_some hf
    have he := Durable.reached_subset (List.mem_of_find?_eq_some hf)
    simp only [decide_eq_true_eq] at hp
    obtain ⟨k, v⟩ := e
    obtain rfl : k = key := itemFile_injective H hp.1
    obtain rfl : v = .obj fields := by
      have h₁ : v ∈ collection.lookup k := AList.mem_lookup_iff.2 he
      have h₂ : Value.obj fields ∈ collection.lookup k :=
        AList.mem_lookup_iff.2 (Durable.reached_subset h)
      exact Option.some.inj (h₁.symm.trans h₂)
    rfl

/-- A path that belongs to no item which a save gets to. -/
theorem savedFile_of_not_mem {name identity : String} {collection : Dict String Value}
    {old : String → Option Value} {path : String}
    (h : ∀ e ∈ Durable.reached (fun e : Sigma fun _ : String => Value => e.2.isObject)
      collection.entries, e.2.isObject → H.itemFile e.1 ≠ path) :
    st.savedFile H name identity collection old path =
      if ∀ e ∈ collection.entries, e.2.isObject then none else old path := by
  unfold savedFile
  have hnone : (Durable.reached (fun e : Sigma fun _ : String => Value => e.2.isObject)
      collection.entries).find? (fun e => H.itemFile e.1 = path ∧ e.2.isObject) = none := by
    refine List.find?_eq_none.2 fun e he => ?_
    simp only [decide_eq_true_eq, not_and]
    exact fun hp ho => h e he ho hp
  rw [hnone]

/-- The files of a collection of objects. -/
theorem savedFile_eq_some {name identity : String} {collection : Dict String Value}
    {old : String → Option Value} (hall : ∀ e ∈ collection.entries, e.2.isObject) {path : String}
    {v : Value} : st.savedFile H name identity collection old path = some v ↔
      ∃ key fields, collection.lookup key = some (.obj fields) ∧ path = H.itemFile key ∧
        v = st.persisted H name identity key fields := by
  constructor
  · intro h
    by_cases hmem : ∃ e ∈ collection.entries, H.itemFile e.1 = path
    · obtain ⟨⟨key, item⟩, he, rfl⟩ := hmem
      have hobj := hall _ he
      cases item with
      | obj fields =>
        rw [savedFile_of_mem ((Durable.reached_of_all hall).symm ▸ he)] at h
        exact ⟨key, fields, AList.mem_lookup_iff.2 he, rfl, (Option.some.inj h).symm⟩
      | _ => cases hobj
    · rw [savedFile_of_not_mem fun e he _ hp => hmem ⟨e, Durable.reached_subset he, hp⟩,
        if_pos hall] at h
      cases h
  · rintro ⟨key, fields, hk, rfl, rfl⟩
    exact savedFile_of_mem ((Durable.reached_of_all hall).symm ▸ AList.mem_lookup_iff.1 hk)

/-- **One collection that is saved**, or fails on the way. -/
theorem saveItemCollection_spec (name identity : String) (collection : Dict String Value)
    (d : DataDir) :
    let m := st.saveItemCollection H name identity collection
    (m.after d).sessions = d.sessions ∧ (m.after d).values = d.values ∧
      (∀ dir, dir ≠ st.itemCollectionRoot name → (m.after d).files dir = d.files dir) ∧
      (m.result d = .ok () ↔ ∀ e ∈ collection.entries, e.2.isObject) ∧
      ∀ path, ((m.after d).files (st.itemCollectionRoot name)).lookup path =
        st.savedFile H name identity collection
          (d.files (st.itemCollectionRoot name)).lookup path := by
  intro m
  have hind := @saveItem_independent H st name identity collection
  generalize hf : (fun e : Sigma fun _ : String => Value =>
    st.saveItem H name identity e.1 e.2) = f at hind
  have hm : m = (do Durable.forEach f collection.entries; st.unlinkStale H name collection) := by
    rw [← hf]; rfl
  have hok : (Durable.forEach f collection.entries).result d = .ok () ↔
      ∀ e ∈ collection.entries, e.2.isObject := hind.ok_iff
  have hview := hind.view_after (s := d)
  generalize hd₁ : (Durable.forEach f collection.entries).after d = d₁ at hview
  have hframe : ∀ e d, ((f e).after d).sessions = d.sessions ∧
      ((f e).after d).values = d.values ∧
      (∀ dir, dir ≠ st.itemCollectionRoot name → ((f e).after d).files dir = d.files dir) ∧
      ∀ path, path ≠ H.itemFile e.1 → (((f e).after d).files (st.itemCollectionRoot name)).lookup
        path = (d.files (st.itemCollectionRoot name)).lookup path := by
    intro e d
    rw [← hf]
    exact saveItem_frame name identity e.1 e.2 d
  have hsessions : d₁.sessions = d.sessions :=
    hd₁ ▸ Durable.forEach_read (g := fun d => d.sessions) fun e _ d => (hframe e d).1
  have hvalues : d₁.values = d.values :=
    hd₁ ▸ Durable.forEach_read (g := fun d => d.values) fun e _ d => (hframe e d).2.1
  have hdirs : ∀ dir, dir ≠ st.itemCollectionRoot name → d₁.files dir = d.files dir :=
    fun dir hdir => hd₁ ▸ Durable.forEach_read (g := fun d => d.files dir) fun e _ d =>
      (hframe e d).2.2.1 dir hdir
  -- the files after the items, before stale ones are removed
  have hfiles : ∀ path, (d₁.files (st.itemCollectionRoot name)).lookup path =
      match (Durable.reached (·.2.isObject) collection.entries).find? fun e =>
          H.itemFile e.1 = path ∧ e.2.isObject with
      | some ⟨key, .obj fields⟩ => some (st.persisted H name identity key fields)
      | _ => (d.files (st.itemCollectionRoot name)).lookup path := by
    intro path
    cases hfind : (Durable.reached (·.2.isObject) collection.entries).find? fun e =>
        H.itemFile e.1 = path ∧ e.2.isObject with
    | some e =>
      have hp := List.find?_some hfind
      simp only [decide_eq_true_eq] at hp
      obtain ⟨key, item⟩ := e
      obtain ⟨rfl, hitem⟩ := hp
      rw [hview.1 _ (List.mem_of_find?_eq_some hfind)]
      cases item with
      | obj fields => rfl
      | _ => cases hitem
    | none =>
      by_cases hmem : path ∈ collection.keys.map H.itemFile
      · obtain ⟨key, hkey, rfl⟩ := List.mem_map.1 hmem
        obtain ⟨item, hitem⟩ := Dict.mem_iff_lookup.1 (AList.mem_keys.2 hkey)
        have he : ⟨key, item⟩ ∈ collection.entries := AList.mem_lookup_iff.1 hitem
        by_cases hre : ⟨key, item⟩ ∈ Durable.reached
            (fun e : Sigma fun _ : String => Value => e.2.isObject) collection.entries
        · rw [hview.1 _ hre]
          have := List.find?_eq_none.1 hfind _ hre
          cases item with
          | obj fields => simp [Value.isObject] at this
          | _ => rfl
        · exact hview.2 _ he hre
      · rw [← hd₁]
        refine Durable.forEach_read (g := fun d => (d.files (st.itemCollectionRoot name)).lookup
          path) fun e he d => (hframe e d).2.2.2 path ?_
        rintro rfl
        exact hmem (List.mem_map_of_mem (List.mem_map_of_mem he))
  by_cases hall : ∀ e ∈ collection.entries, e.2.isObject
  · obtain ⟨hu, husessions, huvalues, hudirs, hufiles⟩ :=
      unlinkStale_spec (H := H) name collection d₁
    have hafter : m.after d = (st.unlinkStale H name collection).after d₁ := by
      rw [hm, Durable.after_bind_ok (hok.2 hall), hd₁]
    rw [hafter]
    refine ⟨husessions.trans hsessions, huvalues.trans hvalues,
      fun dir hdir => (hudirs dir hdir).trans (hdirs dir hdir), ?_, fun path => ?_⟩
    · rw [hm, Durable.result_bind_ok (hok.2 hall), hd₁, hu]
      exact iff_of_true rfl hall
    · rw [hufiles, hfiles]
      unfold savedFile
      rw [if_pos hall]
      cases hfind : (Durable.reached (·.2.isObject) collection.entries).find? fun e =>
          H.itemFile e.1 = path ∧ e.2.isObject with
      | some e =>
        have hp := List.find?_some hfind
        have he := Durable.reached_subset (List.mem_of_find?_eq_some hfind)
        simp only [decide_eq_true_eq] at hp
        rw [if_pos (hp.1 ▸ List.mem_map_of_mem (List.mem_map_of_mem he))]
        obtain ⟨key, item⟩ := e
        cases item with
        | obj fields => rfl
        | _ => cases hp.2
      | none =>
        refine if_neg fun hmem => ?_
        obtain ⟨key, hkey, rfl⟩ := List.mem_map.1 hmem
        obtain ⟨e, he, rfl⟩ := List.mem_map.1 hkey
        have := List.find?_eq_none.1 hfind e ((Durable.reached_of_all hall).symm ▸ he)
        simp [hall e he] at this
  · have herror : ∃ e, (Durable.forEach f collection.entries).result d = .error e := by
      cases hr : (Durable.forEach f collection.entries).result d with
      | error e => exact ⟨e, rfl⟩
      | ok u => exact absurd (hok.1 hr) hall
    obtain ⟨e, he⟩ := herror
    have hafter : m.after d = d₁ := by rw [hm, Durable.after_bind_error he, hd₁]
    rw [hafter]
    refine ⟨hsessions, hvalues, hdirs, ?_, fun path => ?_⟩
    · rw [hm, Durable.result_bind_error he]
      exact iff_of_false (by rintro ⟨⟩) hall
    · rw [hfiles]
      unfold savedFile
      rw [if_neg hall]

end SplitStateStorage

/-! ## Reading -/

namespace Json

variable {E : Type} {J : Json E} {sessionId : String} {d d' : SessionDir}

/-- Only the records of the files, under their names, are read. -/
theorem readSessionLog_congr (hkeys : d'.files.keys = d.files.keys)
    (hscan : ∀ path, (J.scanSegment (d'.file path)).1 = (J.scanSegment (d.file path)).1) :
    J.readSessionLog sessionId none none d' = J.readSessionLog sessionId none none d := by
  have hpaths : ∀ d : SessionDir, d.segmentPathsForRange none none = d.segmentPaths := by
    intro d
    unfold SessionDir.segmentPathsForRange
    cases d.index <;> rfl
  unfold readSessionLog
  rw [hpaths, hpaths, SessionDir.segmentPaths, SessionDir.segmentPaths, hkeys]
  simp only [hscan]

/-- A rebuild keeps the names of the files and their records. -/
theorem indexSegments_keeps (paths : List String) (d : SessionDir) (b : Building) :
    let d' := (J.indexSegments sessionId true paths d b).1
    d'.files.keys = d.files.keys ∧
      ∀ path, (J.scanSegment (d'.file path)).1 = (J.scanSegment (d.file path)).1 := by
  induction paths generalizing d b with
  | nil => exact ⟨rfl, fun _ => rfl⟩
  | cons p ps ih =>
    have hcut : ({ d with files := Dict.modify p J.recoverSegment d.files } :
          SessionDir).files.keys = d.files.keys ∧
        ∀ path, (J.scanSegment (({ d with files := Dict.modify p J.recoverSegment d.files } :
          SessionDir).file path)).1 = (J.scanSegment (d.file path)).1 := by
      refine ⟨Dict.keys_modify _ _ _, fun path => ?_⟩
      unfold SessionDir.file
      simp only [Dict.lookup_modify]
      split_ifs with hp
      · subst hp
        cases d.files.lookup path with
        | none => rfl
        | some file =>
          simp only [Option.map_some, Option.getD_some]
          rw [J.recoverSegment_eq, J.scanSegment_valid]
      · rfl
    unfold indexSegments
    simp only [if_true]
    cases J.indexSegment sessionId true p (d.file p) b with
    | error e => exact hcut
    | ok b' =>
      obtain ⟨hk, hs⟩ := ih { d with files := Dict.modify p J.recoverSegment d.files } b'
      exact ⟨hk.trans hcut.1, fun path => (hs path).trans (hcut.2 path)⟩

/-- **Recovery changes nothing that is read.** -/
theorem read_recover (sid : String) (full : Bool) (d : SessionDir) :
    J.readSessionLog sessionId none none (J.recoverSessionLog sid full d).1 =
      J.readSessionLog sessionId none none d := by
  unfold recoverSessionLog
  cases (if full = true then none else trustedIndex d) with
  | some index => rfl
  | none =>
    have hkeep := @indexSegments_keeps _ J sid d.segmentPaths d {}
    unfold buildSessionLogIndex
    generalize J.indexSegments sid true d.segmentPaths d {} = r at hkeep
    obtain ⟨d', built⟩ := r
    cases built with
    | error e => exact readSessionLog_congr hkeep.1 hkeep.2
    | ok b => exact readSessionLog_congr hkeep.1 hkeep.2

/-- An append that has nothing to write, or fails, changes nothing that is read. -/
theorem read_append_idle {sid : String} {entries : List E}
    (h : ∀ w, (J.prepareAppend sid entries d).2 ≠ .ok (some w)) :
    J.readSessionLog sessionId none none (J.appendSessionLogEntries sid entries d).1 =
      J.readSessionLog sessionId none none d := by
  have hread : J.readSessionLog sessionId none none (J.prepareAppend sid entries d).1 =
      J.readSessionLog sessionId none none d := by
    unfold prepareAppend
    split_ifs
    · rfl
    · have := @Json.read_recover _ J sessionId sid false d
      cases hr : J.recoverSessionLog sid false d with
      | mk d₁ r =>
        rw [hr] at this
        cases r <;> exact this
  unfold appendSessionLogEntries
  cases hp : J.prepareAppend sid entries d with
  | mk d₁ r =>
    rw [hp] at h hread
    rcases r with e | _ | w
    · exact hread
    · exact hread
    · exact absurd rfl (h w)

/-- The records that are read are all there are, in whatever order. -/
theorem Laid.length_read {fs : List (LogFile E)} {es : List E} (h : J.Laid sessionId d fs)
    (hread : J.readSessionLog sessionId none none d = .ok es) :
    es.length = (LogFile.log fs).length := by
  have hes : ∀ {l l' : List E}, J.validated sessionId l = .ok l' → l = l' := by
    intro l l' hl
    cases l with
    | nil => exact Except.ok.inj hl
    | cons e l =>
      unfold validated at hl
      simp only [Except.bind_eq_ok, Except.pure_eq_ok] at hl
      obtain ⟨-, -, rfl⟩ := hl
      rfl
  have hpaths : d.segmentPathsForRange none none = d.segmentPaths := by
    unfold SessionDir.segmentPathsForRange
    cases d.index <;> rfl
  unfold readSessionLog at hread
  rw [hpaths] at hread
  rw [← hes hread]
  have hperm := (d.segmentPaths_perm.trans h.keys).flatMap_right
    (fun path => (J.scanSegment (d.file path)).1.filter (J.inRange none none))
  rw [hperm.length_eq, List.flatMap_map, LogFile.log]
  refine congrArg List.length (List.flatMap_congr fun f hf => ?_)
  rw [h.scan_file hf]
  exact List.filter_eq_self.2 fun e _ => J.inRange_none e

/-- **A batch that is written is read.** -/
theorem Recoverable.read_append {fs : List (LogFile E)} (h : J.Recoverable sessionId d fs)
    {entries : List E} {w : Write}
    (hw : (J.prepareAppend sessionId entries d).2 = .ok (some w)) :
    J.readSessionLog sessionId none none (J.appendSessionLogEntries sessionId entries d).1 ≠
      J.readSessionLog sessionId none none d := by
  cases hprep : J.prepareAppend sessionId entries d with
  | mk d₁ r =>
    rw [hprep] at hw
    obtain rfl : r = .ok (some w) := hw
    obtain ⟨-, d₂, hprep₂, hrec, -, hplan⟩ := h.planned ((h.prepared entries).2 d₁ w hprep)
    obtain rfl : d₁ = d₂ := (Prod.mk.inj (hprep.symm.trans hprep₂)).1
    obtain ⟨pending, -, hne, -, -, hpay, -, hlaid⟩ :=
      planWrite_laid hrec.laid hrec.named torn_clean hplan
    have htake : w.payload.take w.payload.length = J.frames pending ++ [] := by
      rw [List.take_length, List.append_nil, hpay]
    have hnew := (hlaid htake (List.prefix_refl _) J.reader.read_nil).reindex (some w.index)
    have happ : (J.appendSessionLogEntries sessionId entries d).1 = w.commit d₁ := by
      unfold appendSessionLogEntries
      rw [hprep]
    rw [happ, h.laid.read h.inOrder]
    intro hread
    have hlen := Laid.length_read (d := w.commit d₁) hnew hread
    rw [LogFile.log_grown, LogFile.log_clean, List.length_append] at hlen
    have := List.length_pos_of_ne_nil hne
    omega

end Json

namespace SplitStateStorage

variable {E : Type} {H : Host} {J : Json E} {st : SplitStateStorage}

/-- One file of `_load_item_collection`. -/
def loadItem (H : Host) (identity : String) (files : Dict String Value)
    (collection : Dict String Value) (path : String) : Except Err (Dict String Value) :=
  match (files.lookup path).getD .null with
  | .obj item => do
    let key := H.text item identity
    require (key ≠ "") (.storeError s!"state item has no {identity}: {path}")
    return collection.insert key (.obj item)
  | _ => .error (.storeError s!"state file must contain an object: {path}")

theorem loadItemCollection_eq (name identity : String) (d : DataDir) :
    st.loadItemCollection H name identity d =
      ((d.files (st.itemCollectionRoot name)).keys.mergeSort (· ≤ ·)).foldlM
        (loadItem H identity (d.files (st.itemCollectionRoot name))) ∅ := rfl

/-- A load depends on the contents of the files only. -/
theorem loadItemCollection_congr {name identity : String} {d d' : DataDir}
    (h : ∀ path, (d'.files (st.itemCollectionRoot name)).lookup path =
      (d.files (st.itemCollectionRoot name)).lookup path) :
    st.loadItemCollection H name identity d' = st.loadItemCollection H name identity d := by
  rw [loadItemCollection_eq, loadItemCollection_eq]
  generalize d.files (st.itemCollectionRoot name) = files at h
  generalize d'.files (st.itemCollectionRoot name) = files' at h
  have hkeys : files'.keys.Perm files.keys := by
    refine (List.perm_ext_iff_of_nodup files'.keys_nodup files.keys_nodup).2 fun path => ?_
    rw [← AList.mem_keys, ← AList.mem_keys, Dict.mem_iff_lookup, Dict.mem_iff_lookup, h]
  have hsorted : ∀ l : List String, (l.mergeSort (· ≤ ·)).Pairwise (· ≤ ·) := fun l => by
    simpa using @List.pairwise_mergeSort _ (fun a b : String => decide (a ≤ b))
      (fun a b c hab hbc => by simpa using le_trans (of_decide_eq_true hab) (of_decide_eq_true hbc))
      (fun a b => by simpa using le_total a b) l
  have hpaths : files'.keys.mergeSort (· ≤ ·) = files.keys.mergeSort (· ≤ ·) :=
    (((List.mergeSort_perm _ _).trans hkeys).trans
      (List.mergeSort_perm _ _).symm).eq_of_pairwise (fun a b _ _ => le_antisymm)
      (hsorted _) (hsorted _)
  have hload : loadItem H identity files' = loadItem H identity files := by
    funext collection path
    unfold loadItem
    rw [h]
  rw [hpaths, hload]

/-- **A collection can be loaded** when each of its files holds an object with an identity. -/
theorem load_ok_iff {name identity : String} {d : DataDir} :
    (∃ collection, st.loadItemCollection H name identity d = .ok collection) ↔
      ∀ path v, (d.files (st.itemCollectionRoot name)).lookup path = some v →
        ∃ fields, v = .obj fields ∧ H.text fields identity ≠ "" := by
  rw [loadItemCollection_eq]
  generalize d.files (st.itemCollectionRoot name) = files
  have hfold : ∀ (paths : List String) (acc : Dict String Value),
      (∃ collection, paths.foldlM (loadItem H identity files) acc = .ok collection) ↔
        ∀ path ∈ paths, ∃ fields, (files.lookup path).getD .null = .obj fields ∧
          H.text fields identity ≠ "" := by
    intro paths
    induction paths with
    | nil => exact fun acc => iff_of_true ⟨acc, rfl⟩ fun path hp => by cases hp
    | cons path paths ih =>
      intro acc
      rw [List.foldlM_cons, List.forall_mem_cons, Except.exists_bind_ok]
      constructor
      · rintro ⟨acc', hitem, hrest⟩
        refine ⟨?_, (ih acc').1 hrest⟩
        unfold loadItem at hitem
        split at hitem
        · rename_i fields hv
          exact ⟨fields, hv, (Except.require_bind_eq_ok.1 hitem).1⟩
        · cases hitem
      · rintro ⟨⟨fields, hv, hne⟩, hrest⟩
        refine ⟨acc.insert (H.text fields identity) (.obj fields), ?_, (ih _).2 hrest⟩
        unfold loadItem
        rw [hv]
        exact Except.require_bind_eq_ok.2 ⟨hne, rfl⟩
  rw [hfold]
  constructor
  · intro h path v hv
    have hpath : path ∈ files.keys.mergeSort (· ≤ ·) :=
      (List.mergeSort_perm _ _).mem_iff.2 (AList.mem_keys.1 (Dict.mem_iff_lookup.2 ⟨v, hv⟩))
    have := h path hpath
    rwa [hv] at this
  · intro h path hpath
    obtain ⟨v, hv⟩ := Dict.mem_iff_lookup.1
      (AList.mem_keys.2 ((List.mergeSort_perm _ _).mem_iff.1 hpath))
    rw [hv]
    exact h path v hv

/-- Every item is loaded under the key that its identity says. -/
theorem keyed_of_load {name identity : String} {d : DataDir} {collection : Dict String Value}
    (h : st.loadItemCollection H name identity d = .ok collection) {key : String} {v : Value}
    (hv : collection.lookup key = some v) : ∃ fields, v = .obj fields ∧ H.text fields identity = key := by
  rw [loadItemCollection_eq] at h
  refine Except.foldlM_invariant (P := fun collection : Dict String Value => ∀ key v,
    collection.lookup key = some v → ∃ fields, v = .obj fields ∧ H.text fields identity = key) h
    (fun key v h => by cases h) (fun path _ acc acc' ih hitem key v hv => ?_) key v hv
  unfold loadItem at hitem
  split at hitem
  · rename_i fields _
    obtain ⟨-, hitem⟩ := Except.require_bind_eq_ok.1 hitem
    rw [← Except.pure_eq_ok.1 hitem, Dict.lookup_insert_of] at hv
    split_ifs at hv with hkey
    · exact ⟨fields, (Option.some.inj hv).symm, hkey.symm⟩
    · exact ih key v hv
  · cases hitem

/-- Every file holds an item with the key that the file is named after. -/
def KeyedFiles (H : Host) (identity : String) (files : Dict String Value) : Prop :=
  ∀ path v, files.lookup path = some v → ∃ fields, v = .obj fields ∧
    H.text fields identity ≠ "" ∧ path = H.itemFile (H.text fields identity)

/-- **Loading keyed files** gives the item of each key. -/
theorem KeyedFiles.load {name identity : String} {d : DataDir}
    (h : KeyedFiles H identity (d.files (st.itemCollectionRoot name))) :
    ∃ collection, st.loadItemCollection H name identity d = .ok collection ∧
      ∀ key, collection.lookup key =
        (d.files (st.itemCollectionRoot name)).lookup (H.itemFile key) := by
  rw [loadItemCollection_eq]
  generalize d.files (st.itemCollectionRoot name) = files at h
  have hmem : ∀ path ∈ files.keys.mergeSort (· ≤ ·), path ∈ files := fun path hp =>
    AList.mem_keys.2 ((List.mergeSort_perm _ _).mem_iff.1 hp)
  have hall : ∀ key v, files.lookup (H.itemFile key) = some v →
      H.itemFile key ∈ files.keys.mergeSort (· ≤ ·) := fun key v hv =>
    (List.mergeSort_perm _ _).mem_iff.2 (AList.mem_keys.1 (Dict.mem_iff_lookup.2 ⟨v, hv⟩))
  -- the fold over some of the files: their items, over what was there
  have hfold : ∀ (paths : List String) (acc : Dict String Value), (∀ path ∈ paths, path ∈ files) →
      ∃ collection, paths.foldlM (loadItem H identity files) acc = .ok collection ∧
        ∀ key, collection.lookup key = if H.itemFile key ∈ paths then
          files.lookup (H.itemFile key) else acc.lookup key := by
    intro paths
    induction paths with
    | nil => exact fun acc _ => ⟨acc, rfl, fun key => by simp⟩
    | cons path paths ih =>
      intro acc hp
      obtain ⟨v, hv⟩ := Dict.mem_iff_lookup.1 (hp path List.mem_cons_self)
      obtain ⟨fields, rfl, hne, hpath⟩ := h path v hv
      have hitem : loadItem H identity files acc path =
          .ok (acc.insert (H.text fields identity) (.obj fields)) := by
        unfold loadItem
        rw [hv]
        simp only [Option.getD_some]
        rw [Except.require_bind_eq_ok]
        exact ⟨hne, rfl⟩
      obtain ⟨collection, hcoll, hlookup⟩ := ih (acc.insert (H.text fields identity) (.obj fields))
        fun p hp' => hp p (List.mem_cons_of_mem _ hp')
      refine ⟨collection, ?_, fun key => ?_⟩
      · rw [List.foldlM_cons, hitem]
        exact hcoll
      · rw [hlookup, Dict.lookup_insert_of]
        by_cases hk : H.itemFile key = path
        · obtain rfl : key = H.text fields identity := itemFile_injective H (hk.trans hpath)
          rw [if_pos rfl, hk, hv, ite_self, if_pos List.mem_cons_self]
        · have hne' : key ≠ H.text fields identity := by
            rintro rfl
            exact hk hpath.symm
          simp [hk, hne']
  obtain ⟨collection, hcoll, hlookup⟩ := hfold _ ∅ hmem
  refine ⟨collection, hcoll, fun key => ?_⟩
  rw [hlookup]
  split_ifs with hin
  · rfl
  · cases hv : files.lookup (H.itemFile key) with
    | none => rfl
    | some v => exact absurd (hall key v hv) hin

/-! ## A save that fails -/

variable (J) in
/-- The checks of the log of a Session pass. -/
def logPasses (sid : String) (entries : Option (List E)) (dir : SessionDir) : Bool :=
  match entries with
  | some entries => (J.appendSessionLogEntries sid entries dir).2.isOk
  | none => true

variable (J) in
/-- The directory of a Session after its part of a save. -/
def savedLog (sid : String) (entries : Option (List E)) (dir : SessionDir) : SessionDir :=
  match entries with
  | some entries => (J.appendSessionLogEntries sid entries dir).1
  | none => dir

/-- The checks of an item collection pass. -/
def collectionPasses (state : Snapshot E) (name : String) : Bool :=
  match state.collection name with
  | some collection => decide (∀ e ∈ collection.entries, e.2.isObject)
  | none => false

theorem saveLog_frame (sid : String) (entries : Option (List E)) (d : DataDir) :
    let d' := (saveLog J sid entries).after d
    (∀ sid', sid' ≠ sid → d'.session sid' = d.session sid') ∧ (∀ dir, d'.files dir = d.files dir) ∧
      d'.values = d.values ∧ d'.session sid = savedLog J sid entries (d.session sid) := by
  intro d'
  cases entries with
  | none => exact ⟨fun _ _ => rfl, fun _ => rfl, rfl, rfl⟩
  | some entries =>
    have hget := @Durable.get_after_zoom _ _ _ _ (fun d : DataDir => d.session sid)
      (DataDir.setSession sid) (J.appendDurably sid entries) d
      fun t d => by rw [DataDir.session_setSession, if_pos rfl]
    have hsession : d'.session sid = savedLog J sid (some entries) (d.session sid) := by
      rw [show d'.session sid = _ from hget]
      exact J.after_appendDurably sid entries _
    have hafter := @Durable.after_zoom _ _ _ _ (fun d : DataDir => d.session sid)
      (DataDir.setSession sid) (J.appendDurably sid entries) d
    rcases hafter with ⟨h, -⟩ | h
    · have hd' : d' = d := h
      exact ⟨fun _ _ => by rw [hd'], fun _ => by rw [hd'], by rw [hd'], hsession⟩
    · refine ⟨fun sid' hne => ?_, fun dir => ?_, ?_, hsession⟩
      · rw [show d' = _ from h, DataDir.session_setSession, if_neg hne]
      · rw [show d' = _ from h]
        rfl
      · rw [show d' = _ from h]
        rfl

/-- Each Session has a log of its own. -/
theorem saveLog_independent (logs : Dict String (Option (List E))) :
    Durable.Independent (fun e : Sigma fun _ : String => Option (List E) => saveLog J e.1 e.2)
      logs.entries (fun e d => d.session e.1) (fun e => logPasses J e.1 e.2)
      (fun e => savedLog J e.1 e.2) where
  result := by
    rintro ⟨sid, entries⟩ - d
    cases entries with
    | none => rfl
    | some entries =>
      change ((J.appendDurably sid entries).result (d.session sid)).isOk = _
      rw [J.result_appendDurably]
      rfl
  own e _ d := (saveLog_frame e.1 e.2 d).2.2.2
  frame := (List.nodupKeys_iff_pairwise.1 logs.nodupKeys).imp fun {e e'} hne =>
    ⟨fun d => (saveLog_frame e.1 e.2 d).1 _ (Ne.symm hne),
      fun d => (saveLog_frame e'.1 e'.2 d).1 _ hne⟩

variable (H st) in
/-- The files of an item collection after its part of a save. -/
def savedFiles (state : Snapshot E) (name identity : String) (old : String → Option Value) :
    String → Option Value :=
  match state.collection name with
  | some collection => st.savedFile H name identity collection old
  | none => old

theorem saveItems_frame (state : Snapshot E) (name identity : String) (d : DataDir) :
    let d' := (st.saveItems H state name identity).after d
    d'.sessions = d.sessions ∧ d'.values = d.values ∧
      (∀ dir, dir ≠ st.itemCollectionRoot name → d'.files dir = d.files dir) ∧
      (d'.files (st.itemCollectionRoot name)).lookup =
        st.savedFiles H state name identity (d.files (st.itemCollectionRoot name)).lookup := by
  unfold saveItems savedFiles
  cases state.collection name with
  | none => exact ⟨rfl, rfl, fun _ _ => rfl, rfl⟩
  | some collection =>
    obtain ⟨hs, hv, hf, -, hp⟩ :=
      @saveItemCollection_spec H st name identity collection d
    exact ⟨hs, hv, hf, funext hp⟩

/-- Collections that are kept in different directories. -/
def DistinctDirs (st : SplitStateStorage) : Prop :=
  itemCollections.Pairwise fun c c' =>
    st.itemCollectionRoot c.1 ≠ st.itemCollectionRoot c'.1

theorem store_distinctDirs : DistinctDirs store := by
  unfold DistinctDirs
  decide

theorem saveItems_independent (hdirs : DistinctDirs st) (state : Snapshot E) :
    Durable.Independent (fun c : String × String => st.saveItems H state c.1 c.2) itemCollections
      (fun c d => (d.files (st.itemCollectionRoot c.1)).lookup)
      (fun c _ => collectionPasses state c.1)
      (fun c => st.savedFiles H state c.1 c.2) where
  result := by
    rintro ⟨name, identity⟩ - d
    unfold saveItems collectionPasses
    cases state.collection name with
    | none => rfl
    | some collection =>
      have hok := (@saveItemCollection_spec H st name identity collection d).2.2.2.1
      dsimp only
      cases hr : (st.saveItemCollection H name identity collection).result d with
      | error e =>
        rw [hr] at hok
        exact (decide_eq_false fun hall => by cases hok.2 hall).symm
      | ok u => exact (decide_eq_true (hok.1 hr)).symm
  own c _ d := (saveItems_frame state c.1 c.2 d).2.2.2
  frame := hdirs.imp fun {c c'} hne =>
    ⟨fun d => by rw [(saveItems_frame state c.1 c.2 d).2.2.1 _ (Ne.symm hne)],
      fun d => by rw [(saveItems_frame state c'.1 c'.2 d).2.2.1 _ hne]⟩

/-- **What a failed save has done** in the data directory: the logs up to the one that
    fails, then the item collections up to the one that fails. -/
theorem saveData_failed (hdirs : DistinctDirs st) {state : Snapshot E} {d : DataDir} {e : Err}
    (h : (st.saveData H J state).result d = .error e) :
    let d' := (st.saveData H J state).after d
    let logs := state.sessionLogs.entries
    let passes := fun e : Sigma fun _ : String => Option (List E) =>
      logPasses J e.1 e.2 (d.session e.1)
    let collections := Durable.reached (fun c : String × String => collectionPasses state c.1)
      itemCollections
    (∀ e ∈ Durable.reached passes logs, d'.session e.1 = savedLog J e.1 e.2 (d.session e.1)) ∧
    (∀ sid, (∀ e ∈ Durable.reached passes logs, e.1 ≠ sid) → d'.session sid = d.session sid) ∧
    (∀ c ∈ collections, (∀ e ∈ logs, passes e) → (d'.files (st.itemCollectionRoot c.1)).lookup =
      st.savedFiles H state c.1 c.2 (d.files (st.itemCollectionRoot c.1)).lookup) ∧
    (∀ c ∈ itemCollections, ¬((∀ e ∈ logs, passes e) ∧ c ∈ collections) →
      (d'.files (st.itemCollectionRoot c.1)).lookup =
        (d.files (st.itemCollectionRoot c.1)).lookup) ∧
    d'.values = d.values := by
  intro d' logs passes collections
  have hlogs := saveLog_independent (J := J) state.sessionLogs
  have hitems := saveItems_independent (H := H) hdirs state
  have hlogview : (∀ e ∈ Durable.reached passes logs,
        ((saveLogs J state).after d).session e.1 = savedLog J e.1 e.2 (d.session e.1)) ∧
      ∀ e ∈ logs, e ∉ Durable.reached passes logs →
        ((saveLogs J state).after d).session e.1 = d.session e.1 := hlogs.view_after
  have hlogfiles : ∀ dir, ((saveLogs J state).after d).files dir = d.files dir := fun dir =>
    Durable.forEach_read (g := fun d => d.files dir)
      fun e _ d => (saveLog_frame (J := J) e.1 e.2 d).2.1 dir
  have hlogvalues : ((saveLogs J state).after d).values = d.values :=
    Durable.forEach_read (g := fun d => d.values) fun e _ d => (saveLog_frame e.1 e.2 d).2.2.1
  have hlogother : ∀ sid, (∀ e ∈ Durable.reached passes logs, e.1 ≠ sid) →
      ((saveLogs J state).after d).session sid = d.session sid := by
    intro sid hsid
    by_cases hmem : ∃ e ∈ logs, e.1 = sid
    · obtain ⟨e, he, rfl⟩ := hmem
      exact hlogview.2 e he fun hr => hsid e hr rfl
    · refine Durable.forEach_read (g := fun d => d.session sid)
        fun (e : Sigma fun _ : String => Option (List E)) he d => (saveLog_frame e.1 e.2 d).1 sid ?_
      rintro rfl
      exact hmem ⟨e, he, rfl⟩
  have hafter : d' = (st.saveData H J state).after d := rfl
  unfold saveData at h hafter
  rcases Durable.bind_eq_error.1 h with hfail | ⟨u, hok, h⟩
  · -- a log fails, and the collections are not reached
    have hnot : ¬∀ e ∈ logs, passes e := fun hall => by
      cases (hlogs.ok_iff.2 hall).symm.trans hfail
    rw [Durable.after_bind_error hfail] at hafter
    rw [hafter]
    exact ⟨hlogview.1, hlogother, fun c _ hall => absurd hall hnot,
      fun c _ _ => by rw [hlogfiles], hlogvalues⟩
  · have hall : ∀ e ∈ logs, passes e := hlogs.ok_iff.1 hok
    rw [Durable.after_bind_ok hok] at hafter
    generalize hd₁ : (saveLogs J state).after d = d₁ at *
    rcases Durable.bind_eq_error.1 h with hfail | ⟨u, -, h⟩
    · -- an item collection fails
      rw [Durable.after_bind_error hfail] at hafter
      have hview := hitems.view_after (s := d₁)
      have hsessions : d'.sessions = d₁.sessions :=
        hafter ▸ Durable.forEach_read (g := fun d => d.sessions) fun c _ d =>
          (saveItems_frame state c.1 c.2 d).1
      have hsession : ∀ sid, d'.session sid = d₁.session sid := fun sid => by
        rw [DataDir.session, hsessions]
        rfl
      have hvalues : d'.values = d₁.values :=
        hafter ▸ Durable.forEach_read (g := fun d => d.values) fun c _ d =>
          (saveItems_frame state c.1 c.2 d).2.1
      refine ⟨fun e he => (hsession _).trans (hlogview.1 e he),
        fun sid hsid => (hsession sid).trans (hlogother sid hsid), fun c hc _ => ?_,
        fun c hc hnot => ?_, hvalues.trans hlogvalues⟩
      · rw [← hlogfiles, hafter]
        exact hview.1 c hc
      · rw [← hlogfiles, hafter]
        exact hview.2 c hc fun hr => hnot ⟨hall, hr⟩
    · -- no value collection fails
      have := Durable.forEach_ok (f := fun v : String × Value => saveValue state v.1 v.2)
        (l := valueCollections) (fun _ _ _ => rfl) ((st.saveAllItems H state).after d₁)
      cases this.symm.trans h

/-- A save succeeds in the data directory when all checks pass. -/
theorem saveData_ok_iff (hdirs : DistinctDirs st) {state : Snapshot E} {d : DataDir} :
    (st.saveData H J state).result d = .ok () ↔
      (∀ e ∈ state.sessionLogs.entries, logPasses J e.1 e.2 (d.session e.1)) ∧
      ∀ c ∈ itemCollections, collectionPasses state c.1 := by
  have hlogs := (saveLog_independent (J := J) state.sessionLogs).ok_iff (s := d)
  have hitems := fun d => (saveItems_independent (H := H) hdirs state).ok_iff (s := d)
  unfold saveData
  rw [Durable.bind_eq_ok]
  constructor
  · rintro ⟨u, h₁, h⟩
    obtain ⟨u', h₂, -⟩ := Durable.bind_eq_ok.1 h
    exact ⟨hlogs.1 h₁, (hitems _).1 h₂⟩
  · rintro ⟨h₁, h₂⟩
    refine ⟨(), hlogs.2 h₁, Durable.bind_eq_ok.2 ⟨(), (hitems _).2 h₂, ?_⟩⟩
    exact Durable.forEach_ok (fun _ _ _ => rfl) _

/-- **What a successful save has done** in the data directory. -/
theorem saveData_after (hdirs : DistinctDirs st) {state : Snapshot E} {d : DataDir}
    (h : (st.saveData H J state).result d = .ok ()) :
    let d' := (st.saveData H J state).after d
    d'.sessions = ((saveLogs J state).after d).sessions ∧
    (∀ e ∈ state.sessionLogs.entries, d'.session e.1 = savedLog J e.1 e.2 (d.session e.1)) ∧
    (∀ sid, sid ∉ state.sessionLogs → d'.session sid = d.session sid) ∧
    (∀ c ∈ itemCollections, (d'.files (st.itemCollectionRoot c.1)).lookup =
      st.savedFiles H state c.1 c.2 (d.files (st.itemCollectionRoot c.1)).lookup) ∧
    (∀ dir, (∀ c ∈ itemCollections, dir ≠ st.itemCollectionRoot c.1) →
      d'.files dir = d.files dir) ∧
    ∀ v ∈ valueCollections, d'.values.lookup (valueCollectionPath v.1) =
      some ((state.values.lookup v.1).getD v.2) := by
  intro d'
  obtain ⟨hlogpass, hitempass⟩ := (saveData_ok_iff hdirs).1 h
  have hlogs := saveLog_independent (J := J) state.sessionLogs
  have hitems := saveItems_independent (H := H) hdirs state
  have hlogok : (saveLogs J state).result d = .ok () := hlogs.ok_iff.2 hlogpass
  generalize hd₁ : (saveLogs J state).after d = d₁
  have hitemok : (st.saveAllItems H state).result d₁ = .ok () := hitems.ok_iff.2 hitempass
  generalize hd₂ : (st.saveAllItems H state).after d₁ = d₂
  have hd' : d' = (saveValues state).after d₂ := by
    rw [← hd₂, ← hd₁]
    exact (Durable.after_bind_ok hlogok).trans (Durable.after_bind_ok (hd₁ ▸ hitemok))
  -- the value collections touch neither logs nor items
  have hsessions : d'.sessions = d₂.sessions :=
    hd' ▸ Durable.forEach_read (g := fun d : DataDir => d.sessions) fun v _ d => rfl
  have hfiles : ∀ dir, d'.files dir = d₂.files dir := fun dir =>
    hd' ▸ Durable.forEach_read (g := fun d : DataDir => d.files dir) fun v _ d => rfl
  have hsessions₂ : d₂.sessions = d₁.sessions :=
    hd₂ ▸ Durable.forEach_read (g := fun d => d.sessions)
      fun c _ d => (saveItems_frame (H := H) state c.1 c.2 d).1
  have hsession : ∀ sid, d'.session sid = d₁.session sid := fun sid => by
    rw [DataDir.session, hsessions, hsessions₂]
    rfl
  have hfiles₁ : ∀ dir, d₁.files dir = d.files dir := fun dir =>
    hd₁ ▸ Durable.forEach_read (g := fun d => d.files dir)
      fun e _ d => (saveLog_frame (J := J) e.1 e.2 d).2.1 dir
  refine ⟨hsessions.trans hsessions₂, fun e he => ?_, fun sid hsid => ?_,
    fun c hc => ?_, fun dir hdir => ?_, fun v hv => ?_⟩
  · rw [hsession, ← hd₁]
    exact hlogs.view_after.1 e ((Durable.reached_of_all hlogpass).symm ▸ he)
  · rw [hsession, ← hd₁]
    refine Durable.forEach_read (g := fun d => d.session sid)
      fun (e : Sigma fun _ : String => Option (List E)) he d => (saveLog_frame e.1 e.2 d).1 sid ?_
    rintro rfl
    exact hsid (AList.mem_keys.2 (List.mem_map_of_mem he))
  · rw [hfiles, ← hfiles₁, ← hd₂]
    exact hitems.view_after.1 c ((Durable.reached_of_all hitempass).symm ▸ hc)
  · rw [hfiles, ← hfiles₁, ← hd₂]
    exact Durable.forEach_read (g := fun d => d.files dir) fun (c : String × String) hc d =>
      (saveItems_frame state c.1 c.2 d).2.2.1 dir (hdir c hc)
  · have hvalues : ∀ (l : List (String × Value)), (l.map fun v => valueCollectionPath v.1).Nodup →
        ∀ v ∈ l, ∀ d : DataDir, ((Durable.forEach (fun v => saveValue state v.1 v.2) l).after
          d).values.lookup (valueCollectionPath v.1) =
            some ((state.values.lookup v.1).getD v.2) := by
      intro l hnd
      induction l with
      | nil => exact fun v hv => by cases hv
      | cons w l ih =>
        intro v hv d
        rw [List.map_cons, List.nodup_cons] at hnd
        rw [Durable.forEach_cons, Durable.after_bind_ok (a := ()) rfl]
        rcases List.mem_cons.1 hv with rfl | hv
        · rw [Durable.forEach_read
            (g := fun d : DataDir => d.values.lookup (valueCollectionPath v.1))]
          · exact AList.lookup_insert _
          · intro w hw d
            refine AList.lookup_insert_ne fun heq => hnd.1 ?_
            rw [heq]
            exact List.mem_map_of_mem (f := fun v : String × Value => valueCollectionPath v.1) hw
        · exact ih hnd.2 v hv _
    rw [hd']
    exact hvalues valueCollections (by decide) v hv d₂

/-- A save that fails does so on the version of the state, or in the data directory. -/
theorem save_failed {state : Snapshot E} {R : Root E} {e : Err}
    (h : (st.save H J state).result R = .error e) :
    (state.version ≠ stateVersion ∧ (st.save H J state).after R = R) ∨
      (state.version = stateVersion ∧
        (st.saveData H J state).result (R.data st.dataName) = .error e ∧
        ((st.save H J state).after R).data st.dataName =
          (st.saveData H J state).after (R.data st.dataName)) := by
  unfold save at h ⊢
  by_cases hv : state.version = stateVersion
  · refine .inr ⟨hv, ?_⟩
    rw [Durable.result_bind_ok (Durable.result_require_pos _ hv _), Durable.after_require] at h
    rw [Durable.after_bind_ok (Durable.result_require_pos _ hv _), Durable.after_require]
    have hprep : (st.prepareDataDirectories (E := E)).result R = .ok () := rfl
    have hdata : ((st.prepareDataDirectories (E := E)).after R).data st.dataName =
        R.data st.dataName := by
      change (R.setData st.dataName (R.data st.dataName)).data st.dataName = _
      rw [Root.data_setData, if_pos rfl]
    rw [Durable.result_bind_ok hprep] at h
    rw [Durable.after_bind_ok hprep]
    generalize (st.prepareDataDirectories (E := E)).after R = R₁ at *
    rcases Durable.bind_eq_error.1 h with h | ⟨u, -, h⟩
    · have hget := @Durable.get_after_zoom _ _ _ _ (fun R : Root E => R.data st.dataName)
        (Root.setData st.dataName) (st.saveData H J state) R₁
        fun t R => by rw [Root.data_setData, if_pos rfl]
      rw [Durable.after_bind_error h]
      rw [Durable.result_zoom, hdata] at h
      rw [hdata] at hget
      exact ⟨h, hget⟩
    · -- the manifest cannot fail
      exfalso
      unfold Durable.result at h
      rw [Durable.read_bind] at h
      split_ifs at h
      · cases h
      · cases h
  · refine .inl ⟨hv, ?_⟩
    rw [Durable.after_bind_error (Durable.result_require_neg _ hv _), Durable.after_require]

variable (H J st) in
/-- Nothing that the save of a collection gets to is new: the items up to the first that is
    not an object are in their files, and if there is none, no file is stale. -/
structure CollectionIdle (name identity : String) (collection : Dict String Value)
    (files : Dict String Value) : Prop where
  items : ∀ key fields, ⟨key, .obj fields⟩ ∈ Durable.reached
      (fun e : Sigma fun _ : String => Value => e.2.isObject) collection.entries →
    files.lookup (H.itemFile key) = some (st.persisted H name identity key fields)
  stale : (∀ e ∈ collection.entries, e.2.isObject) →
    ∀ path ∈ files, path ∈ collection.keys.map H.itemFile

variable (H J st) in
/-- Nothing that a save gets to is new: no log up to the first that fails its checks has an
    entry to write, and if none fails, no item collection up to the first that fails. -/
structure Idle (state : Snapshot E) (d : DataDir) : Prop where
  logs : ∀ sid entries, ⟨sid, some entries⟩ ∈ Durable.reached
      (fun e : Sigma fun _ : String => Option (List E) => logPasses J e.1 e.2 (d.session e.1))
      state.sessionLogs.entries →
    ∀ w, (J.prepareAppend sid entries (d.session sid)).2 ≠ .ok (some w)
  items : (∀ e ∈ state.sessionLogs.entries, logPasses J e.1 e.2 (d.session e.1)) →
    ∀ c ∈ Durable.reached (fun c : String × String => collectionPasses state c.1) itemCollections,
      ∀ collection, state.collection c.1 = some collection →
        CollectionIdle H st c.1 c.2 collection (d.files (st.itemCollectionRoot c.1))

variable (H J st) in
/-- **Everything reads back as before.** -/
structure Unchanged (R R' : Root E) : Prop where
  logs : ∀ sid, st.readLog J sid R' = st.readLog J sid R
  items : ∀ c ∈ itemCollections, st.loadItemCollection H c.1 c.2 (R'.data st.dataName) =
    st.loadItemCollection H c.1 c.2 (R.data st.dataName)
  values : ∀ v ∈ valueCollections, loadValue v.1 v.2 (R'.data st.dataName) =
    loadValue v.1 v.2 (R.data st.dataName)

variable (H J st) in
/-- A state on disk that saves have left, also killed ones: the logs are recoverable, and
    items are in the files of their keys. -/
structure Kept (d : DataDir) : Prop where
  logs : ∀ sid, ∃ fs, J.Recoverable sid (d.session sid) fs
  items : ∀ c ∈ itemCollections, KeyedFiles H c.2 (d.files (st.itemCollectionRoot c.1))

/-- The items of a state that are objects have their keys as identities. -/
def KeyedItems (H : Host) (state : Snapshot E) : Prop :=
  ∀ c ∈ itemCollections, ∀ collection, state.collection c.1 = some collection →
    ∀ key fields, collection.lookup key = some (.obj fields) → key ≠ "" ∧
      ∀ v, fields.lookup c.2 = some v → H.text fields c.2 = key

theorem savedFile_idle {name identity : String} {collection files : Dict String Value}
    (h : CollectionIdle H st name identity collection files) (path : String) :
    st.savedFile H name identity collection files.lookup path = files.lookup path := by
  by_cases hmem : ∃ e ∈ Durable.reached (fun e : Sigma fun _ : String => Value => e.2.isObject)
      collection.entries, e.2.isObject ∧ H.itemFile e.1 = path
  · obtain ⟨⟨key, item⟩, he, hobj, rfl⟩ := hmem
    cases item with
    | obj fields => rw [savedFile_of_mem he, h.items key fields he]
    | _ => cases hobj
  · rw [savedFile_of_not_mem fun e he ho hp => hmem ⟨e, he, ho, hp⟩]
    split_ifs with hall
    · -- all items are written, and the path belongs to none
      symm
      rw [AList.lookup_eq_none]
      intro hpath
      obtain ⟨key, hkey, rfl⟩ := List.mem_map.1 (h.stale hall path hpath)
      obtain ⟨e, he, rfl⟩ := List.mem_map.1 hkey
      exact hmem ⟨e, (Durable.reached_of_all hall).symm ▸ he, hall e he, rfl⟩
    · rfl

/-- Externalizing keeps the identity field. -/
theorem get?_externalizedItem {c : String × String} (hc : c ∈ itemCollections) (item : Fields) :
    (st.externalizedItem H c.1 item).get? c.2 = item.get? c.2 := by
  have hall : ∀ c ∈ itemCollections, (transcriptFields c.1).all (fun lf => c.2 ≠ lf.1) := by decide
  have hne : ∀ list fields, transcriptFields c.1 = some (list, fields) → c.2 ≠ list := by
    intro list fields h
    simpa [h] using hall c hc
  unfold externalizedItem
  cases htf : transcriptFields c.1 with
  | none => rfl
  | some lf =>
    obtain ⟨list, fields⟩ := lf
    dsimp only
    cases item.get? list with
    | none => rfl
    | some v =>
      cases v with
      | arr records => rw [Fields.get?_set, if_neg (hne list fields htf)]
      | _ => rfl

/-- The file of a keyed item is keyed. -/
theorem text_persisted {c : String × String} (hc : c ∈ itemCollections) {key : String}
    {fields : Fields} (hkey : key ≠ "")
    (hid : ∀ v, fields.lookup c.2 = some v → H.text fields c.2 = key) :
    H.text (st.externalizedItem H c.1 (Fields.setDefault c.2 (.str key) fields)) c.2 = key := by
  have hget := @get?_externalizedItem H st _ hc (Fields.setDefault c.2 (.str key) fields)
  rw [Fields.get?_setDefault, if_pos rfl] at hget
  unfold Host.text at hid ⊢
  rw [hget]
  cases hv : fields.get? c.2 with
  | none =>
    simp [Value.truthy, hkey, H.str_str]
  | some v =>
    have := hid v hv
    rw [hv] at this
    exact this

/-- **A save that fails leaves everything as it reads, when nothing that it gets to is new.** -/
theorem unchanged_of_idle (hdirs : DistinctDirs st) {state : Snapshot E} {R : Root E} {e : Err}
    (h : (st.save H J state).result R = .error e)
    (hidle : state.version = stateVersion → Idle H J st state (R.data st.dataName)) :
    Unchanged H J st R ((st.save H J state).after R) := by
  rcases save_failed h with ⟨-, hR⟩ | ⟨hv, hfail, hdata⟩
  · rw [hR]
    exact ⟨fun _ => rfl, fun _ _ => rfl, fun _ _ => rfl⟩
  have hidle := hidle hv
  obtain ⟨hlog, hother, hfiles, hsame, hvalues⟩ := saveData_failed hdirs hfail
  rw [← hdata] at hlog hother hfiles hsame hvalues
  refine ⟨fun sid => ?_, fun c hc => loadItemCollection_congr fun path => ?_, fun v _ => ?_⟩
  · unfold readLog
    by_cases hmem : ∃ e ∈ Durable.reached (fun e : Sigma fun _ : String => Option (List E) =>
        logPasses J e.1 e.2 ((R.data st.dataName).session e.1)) state.sessionLogs.entries,
        e.1 = sid
    · obtain ⟨⟨sid, entries⟩, he, rfl⟩ := hmem
      rw [hlog _ he]
      cases entries with
      | none => rfl
      | some entries => exact Json.read_append_idle (hidle.logs sid entries he)
    · rw [hother sid fun e he heq => hmem ⟨e, he, heq⟩]
  · by_cases hr : (∀ e ∈ state.sessionLogs.entries,
        logPasses J e.1 e.2 ((R.data st.dataName).session e.1)) ∧
      c ∈ Durable.reached (fun c : String × String => collectionPasses state c.1) itemCollections
    · refine (congrFun (hfiles c hr.2 hr.1) path).trans ?_
      unfold savedFiles
      cases hcoll : state.collection c.1 with
      | none => rfl
      | some collection => exact savedFile_idle (hidle.items hr.1 c hr.2 collection hcoll) path
    · exact congrFun (hsame c hc hr) path
  · unfold loadValue
    rw [hvalues]

/-- The files of keyed items are keyed after a save. -/
theorem keyedFiles_saved {c : String × String} (hc : c ∈ itemCollections)
    {collection files files' : Dict String Value} (hold : KeyedFiles H c.2 files)
    (hkeyed : ∀ key fields, collection.lookup key = some (.obj fields) → key ≠ "" ∧
      ∀ v, fields.lookup c.2 = some v → H.text fields c.2 = key)
    (hnew : files'.lookup = st.savedFile H c.1 c.2 collection files.lookup) :
    KeyedFiles H c.2 files' := by
  intro path v hv
  have hv : st.savedFile H c.1 c.2 collection files.lookup path = some v := hnew ▸ hv
  by_cases hmem : ∃ e ∈ Durable.reached (fun e : Sigma fun _ : String => Value => e.2.isObject)
      collection.entries, e.2.isObject ∧ H.itemFile e.1 = path
  · obtain ⟨⟨key, item⟩, he, hobj, rfl⟩ := hmem
    cases item with
    | obj fields =>
      rw [savedFile_of_mem he] at hv
      obtain rfl := Option.some.inj hv
      obtain ⟨hne, hid⟩ := hkeyed key fields (AList.mem_lookup_iff.2 (Durable.reached_subset he))
      have htext := @text_persisted H st _ hc _ _ hne hid
      exact ⟨_, rfl, by rw [htext]; exact hne, by rw [htext]⟩
    | _ => cases hobj
  · rw [savedFile_of_not_mem fun e he ho hp => hmem ⟨e, he, ho, hp⟩] at hv
    split_ifs at hv
    exact hold path v hv

/-- **A save that fails with everything as it reads has got to nothing new.** -/
theorem idle_of_unchanged (hdirs : DistinctDirs st) {state : Snapshot E} {R : Root E} {e : Err}
    (h : (st.save H J state).result R = .error e) (hv : state.version = stateVersion)
    (hkept : Kept H J st (R.data st.dataName)) (hkeyed : KeyedItems H state)
    (hsame : Unchanged H J st R ((st.save H J state).after R)) :
    Idle H J st state (R.data st.dataName) := by
  rcases save_failed h with ⟨hne, -⟩ | ⟨-, hfail, hdata⟩
  · exact absurd hv hne
  obtain ⟨hlog, -, hfiles, -, -⟩ := saveData_failed hdirs hfail
  rw [← hdata] at hlog hfiles
  refine ⟨fun sid entries he w hw => ?_, fun hall c hc collection hcoll => ?_⟩
  · obtain ⟨fs, hrec⟩ := hkept.logs sid
    have hread := hsame.logs sid
    unfold readLog at hread
    rw [hlog _ he] at hread
    exact hrec.read_append hw hread
  · have hcmem := Durable.reached_subset hc
    have hnew := hfiles c hc hall
    simp only [savedFiles, hcoll] at hnew
    have hold := hkept.items c hcmem
    have hkey := hkeyed c hcmem collection hcoll
    obtain ⟨loaded, hload, hlookup⟩ := hold.load
    obtain ⟨loaded', hload', hlookup'⟩ :=
      (keyedFiles_saved hcmem hold hkey hnew).load
    obtain rfl : loaded' = loaded :=
      Except.ok.inj (hload'.symm.trans ((hsame.items c hcmem).trans hload))
    -- a load finds the item of each key in the same file
    have hfile : ∀ key, st.savedFile H c.1 c.2 collection
        ((R.data st.dataName).files (st.itemCollectionRoot c.1)).lookup (H.itemFile key) =
        ((R.data st.dataName).files (st.itemCollectionRoot c.1)).lookup (H.itemFile key) := by
      intro key
      rw [← hlookup, hlookup']
      exact (congrFun hnew _).symm
    refine ⟨fun key fields he => ?_, fun hobj path hpath => ?_⟩
    · rw [← hfile, savedFile_of_mem he]
    · obtain ⟨v, hpv⟩ := Dict.mem_iff_lookup.1 hpath
      obtain ⟨fields, -, -, rfl⟩ := hold path v hpv
      by_contra hstale
      have hnone := hfile (H.text fields c.2)
      rw [savedFile_of_not_mem, if_pos hobj, hpv] at hnone
      · cases hnone
      · intro e he _ hp
        exact hstale (hp ▸ List.mem_map_of_mem (List.mem_map_of_mem (Durable.reached_subset he)))

end SplitStateStorage

open SplitStateStorage

/-- **A save that fails leaves the state as it reads exactly when nothing that it gets to is
    new.** -/
theorem failed_save_iff {E : Type} (H : Host) (J : Json E) (state : Snapshot E) (R : Root E)
    (text : String) (h : (store.save H J state).result R = .error (.storeError text)) :
    ((state.version = stateVersion → Idle H J store state (R.data store.dataName)) →
      Unchanged H J store R ((store.save H J state).after R)) ∧
    (Kept H J store (R.data store.dataName) → KeyedItems H state →
      Unchanged H J store R ((store.save H J state).after R) →
      state.version = stateVersion → Idle H J store state (R.data store.dataName)) :=
  ⟨fun hidle => unchanged_of_idle store_distinctDirs h hidle, fun hkept hkeyed hsame hv =>
    idle_of_unchanged store_distinctDirs h hv hkept hkeyed hsame⟩

/-- A state with an entry for the log of "a" and, under "b", one that belongs to "a". -/
def strayEntry : Snapshot Sample where
  version := 1
  createdAt := ""
  messages := []
  sessionLogs := ⟨[⟨"a", some [⟨0, 2⟩]⟩, ⟨"b", some [⟨0, 2⟩]⟩],
    (by decide : ["a", "b"].Nodup)⟩
  items := ∅
  values := ∅

/-- An initialized root without any items. -/
def emptyRoot : Root Sample where
  manifest := some { storageVersion := 2, stateVersion, createdAt := "", dataDir := "store" }
  manifestV1 := none
  legacyState := none
  backups := []
  generations := ∅
  dataDirs := (∅ : Dict String DataDir).insert "store" .empty
  texts := ∅

theorem strayEntry_planned :
    ∃ w, (sampleJson.prepareAppend "a" [⟨0, 2⟩] .empty).2 = .ok (some w) := by
  have hclean := @Json.clean_empty _ sampleJson "a"
  have hpending : sampleJson.pendingOf (sampleJson.indexOf "a" []) (Sample.run 0 1 2) =
      Sample.run 0 1 2 := Sample.pendingOf_run rfl
  obtain ⟨w, hw⟩ := Json.planWrite_ok (J := sampleJson)
    (d := { SessionDir.empty with index := some (sampleJson.indexOf "a" []) })
    hpending (by decide) (Sample.numbered_run 0 1 2)
    (Sample.encodable_run (by decide) (by decide))
  refine ⟨w, ?_⟩
  unfold Json.prepareAppend
  rw [if_neg (by decide), hclean.recover]
  exact hw

/-- The entry of "a" is refused under "b". -/
theorem stray_planned : (sampleJson.prepareAppend "b" [⟨0, 2⟩] .empty).2 =
    .error (.storeError "SessionLog entry belongs to another Session: b") := by
  rw [Json.prepareAppend, if_neg (by decide), (Json.clean_empty (J := sampleJson)).recover]
  rfl

theorem stray_refused : (sampleJson.appendSessionLogEntries "b" [⟨0, 2⟩] .empty).2 =
    .error (.storeError "SessionLog entry belongs to another Session: b") := by
  have h := stray_planned
  unfold Json.appendSessionLogEntries
  generalize sampleJson.prepareAppend "b" [⟨0, 2⟩] .empty = planned at h ⊢
  obtain ⟨d, r⟩ := planned
  obtain rfl : r = .error _ := h
  rfl

theorem saveLog_stray {d : DataDir} (hd : d.session "b" = .empty) :
    (saveLog sampleJson "b" (some [⟨0, 2⟩])).result d =
      .error (.storeError "SessionLog entry belongs to another Session: b") := by
  change (sampleJson.appendDurably "b" [⟨0, 2⟩]).result (d.session "b") = _
  rw [hd, sampleJson.result_appendDurably, stray_refused]

/-- A save that fails in the logs fails. -/
theorem save_error_of_logs {state : Snapshot Sample} {err : Err}
    (hv : state.version = stateVersion)
    (hlogs : (saveLogs sampleJson state).result .empty = .error err) :
    (store.save sampleHost sampleJson state).result emptyRoot = .error err := by
  unfold save
  rw [Durable.result_bind_ok (Durable.result_require_pos _ hv _), Durable.after_require,
    Durable.result_bind_ok (a := ()) rfl]
  refine Durable.result_bind_error ?_
  rw [Durable.result_zoom]
  exact Durable.result_bind_error hlogs

/-- The entry of "a" is written, then the one under "b" is refused. -/
theorem strayEntry_failed : (store.save sampleHost sampleJson strayEntry).result emptyRoot =
    .error (.storeError "SessionLog entry belongs to another Session: b") := by
  have hfirst : (saveLog sampleJson "a" (some [⟨0, 2⟩])).result .empty = .ok () := by
    change (sampleJson.appendDurably "a" (Sample.run 0 1 2)).result .empty = _
    rw [sampleJson.result_appendDurably]
    exact (Json.clean_empty.append_ok (Sample.pendingOf_run rfl) (by decide)
      (Sample.numbered_run 0 1 2) (Sample.encodable_run (by decide) (by decide))).1
  have hother := (saveLog_frame (J := sampleJson) "a" (some [⟨0, 2⟩]) .empty).1 "b" (by decide)
  refine save_error_of_logs rfl ?_
  change (Durable.forEach _ [_, _]).result _ = _
  rw [Durable.forEach_cons, Durable.result_bind_ok hfirst, Durable.forEach_cons]
  exact Durable.result_bind_error (saveLog_stray hother)

/-- The same entries, with the one that is refused first. -/
def strayFirst : Snapshot Sample :=
  { strayEntry with
    sessionLogs := ⟨[⟨"b", some [⟨0, 2⟩]⟩, ⟨"a", some [⟨0, 2⟩]⟩],
      (by decide : ["b", "a"].Nodup)⟩ }

theorem strayFirst_failed : (store.save sampleHost sampleJson strayFirst).result emptyRoot =
    .error (.storeError "SessionLog entry belongs to another Session: b") := by
  refine save_error_of_logs rfl ?_
  change (Durable.forEach _ [_, _]).result _ = _
  rw [Durable.forEach_cons]
  exact Durable.result_bind_error (saveLog_stray rfl)

theorem strayFirst_idle :
    Idle sampleHost sampleJson store strayFirst (emptyRoot.data store.dataName) := by
  have hrefused : logPasses sampleJson "b" (some [⟨0, 2⟩])
      ((emptyRoot.data store.dataName).session "b") = false := by
    change Except.isOk (sampleJson.appendSessionLogEntries "b" [⟨0, 2⟩] .empty).2 = false
    rw [stray_refused]
    rfl
  refine ⟨fun sid entries hreached w hw => ?_, fun hall => ?_⟩
  · rw [strayFirst, Durable.reached, hrefused] at hreached
    obtain ⟨⟩ := List.mem_singleton.1 hreached
    cases stray_planned.symm.trans hw
  · cases hrefused.symm.trans (hall ⟨"b", some [⟨0, 2⟩]⟩ List.mem_cons_self)

theorem kept_emptyRoot : Kept sampleHost sampleJson store (emptyRoot.data store.dataName) := by
  have hdata : ∀ sid, (emptyRoot.data store.dataName).session sid = .empty := fun _ => rfl
  refine ⟨fun sid => ⟨[], ?_⟩, fun c _ path v hv => ?_⟩
  · rw [hdata]
    exact ⟨Json.clean_empty.laid, trivial, by simp, .inl ⟨rfl, rfl⟩⟩
  · cases hv

theorem keyedItems_strayEntry : KeyedItems sampleHost strayEntry := by
  intro c _ collection hc key fields hk
  obtain rfl : collection = ∅ := (Option.some.inj hc).symm
  cases hk

theorem strayEntry_not_idle :
    ¬Idle sampleHost sampleJson store strayEntry (emptyRoot.data store.dataName) := by
  intro hidle
  obtain ⟨w, hw⟩ := strayEntry_planned
  exact hidle.logs "a" [⟨0, 2⟩] List.mem_cons_self w hw

/-- With the refused entry first nothing is written, with the other one first its log is. -/
theorem failed_save_iff_strayFirst :
    Unchanged sampleHost sampleJson store emptyRoot
      ((store.save sampleHost sampleJson strayFirst).after emptyRoot) ∧
    ¬Unchanged sampleHost sampleJson store emptyRoot
      ((store.save sampleHost sampleJson strayEntry).after emptyRoot) := by
  refine ⟨(failed_save_iff sampleHost sampleJson strayFirst emptyRoot _ strayFirst_failed).1
    fun _ => strayFirst_idle, fun hsame => strayEntry_not_idle ?_⟩
  exact (failed_save_iff sampleHost sampleJson strayEntry emptyRoot _ strayEntry_failed).2
    kept_emptyRoot keyedItems_strayEntry hsame rfl

/-- A save that fails, and has written a log. -/
theorem not_failed_save_unchanged : ¬ ∀ (state : Snapshot Sample) (R : Root Sample) (text : String),
    (store.save sampleHost sampleJson state).result R = .error (.storeError text) →
    Unchanged sampleHost sampleJson store R
      ((store.save sampleHost sampleJson state).after R) := fun h =>
  strayEntry_not_idle (idle_of_unchanged store_distinctDirs strayEntry_failed rfl kept_emptyRoot
    keyedItems_strayEntry (h strayEntry emptyRoot _ strayEntry_failed))

end Aize
