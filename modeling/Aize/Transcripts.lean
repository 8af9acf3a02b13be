/-
  Transcript texts on disk (`kernel/storage.py`, `_externalize_field`, `_hydrate_field`).

  A save moves the texts of turns and steps to artifacts, each under the digest of its text,
  and a reader fetches them back.  Artifacts are never changed (`Grown`), so a reference that
  has been saved stays good over all later saves.  The text is written byte by byte and read
  in text mode, which translates line ends: it comes back exactly when it has no carriage
  return (`transcripts_survive_iff`).
-/
import Mathlib.Logic.Relation
import Aize.Reloading

namespace Aize

open SplitStateStorage

variable {E : Type} {H : Host} {J : Json E} {st : SplitStateStorage}

/-! ## Artifacts -/

namespace DataDir

/-- The artifact of a text holds the text. -/
def Holds (H : Host) (text : String) (d : DataDir) : Prop :=
  d.artifacts.lookup (artifactPath (H.digest text)) = some text

/-- No artifact holds another text than its own. -/
def Addressed (H : Host) (d : DataDir) : Prop :=
  ∀ text stored, d.artifacts.lookup (artifactPath (H.digest text)) = some stored → stored = text

/-- Artifacts have only been added, each under the digest of its text. -/
structure Grown (H : Host) (d d' : DataDir) : Prop where
  artifacts : ∀ path text, d.artifacts.lookup path = some text →
    d'.artifacts.lookup path = some text
  addressed : d.Addressed H → d'.Addressed H

theorem Grown.of_eq {d d' : DataDir} (h : d'.artifacts = d.artifacts) : d.Grown H d' := by
  refine ⟨fun path text ht => h ▸ ht, fun ha text stored hs => ha text stored ?_⟩
  rw [← h]
  exact hs

theorem Grown.refl (d : DataDir) : d.Grown H d := .of_eq rfl

theorem Grown.trans (d₁ d₂ d₃ : DataDir) (h₁ : d₁.Grown H d₂) (h₂ : d₂.Grown H d₃) :
    d₁.Grown H d₃ :=
  ⟨fun p t h => h₂.artifacts p t (h₁.artifacts p t h), fun h => h₂.addressed (h₁.addressed h)⟩

/-- What has been addressed before is when more is. -/
theorem Grown.addressed_iff {d d' : DataDir} (h : d.Grown H d') :
    d'.Addressed H ↔ d.Addressed H :=
  ⟨fun ha text stored hs => ha text stored (h.artifacts _ _ hs), h.addressed⟩

/-- A held text stays. -/
theorem Grown.holds {d d' : DataDir} (h : d.Grown H d') {text : String} (ht : d.Holds H text) :
    d'.Holds H text := h.artifacts _ _ ht

theorem artifactPath_injective : Function.Injective artifactPath := by
  intro a b h
  have hname : a ++ ".txt" = b ++ ".txt" := by simpa [artifactPath] using congrArg List.getLast? h
  apply String.toList_injective
  simpa using congrArg String.toList hname

/-- Writing a text under its digest. -/
theorem grown_setArtifact {d : DataDir} (text : String)
    (h : artifactPath (H.digest text) ∉ d.artifacts) :
    d.Grown H (d.setArtifact (artifactPath (H.digest text)) text) := by
  refine ⟨(grows_setArtifact text h).artifacts, fun ha text' stored hs => ?_⟩
  unfold setArtifact at hs
  rw [Dict.lookup_insert_of] at hs
  split_ifs at hs with hp
  · rw [← Option.some.inj hs]
    exact (H.digest_injective (artifactPath_injective hp)).symm
  · exact ha text' stored hs

end DataDir

/-- On a disk without foreign artifacts, the artifact of a text is there. -/
def Shelved (H : Host) (text : String) (d : DataDir) : Prop := d.Addressed H → d.Holds H text

theorem shelved_keep (text : String) (d d' : DataDir) (h : d.Grown H d')
    (hs : Shelved H text d) : Shelved H text d' := fun ha => h.holds (hs (h.addressed_iff.1 ha))

namespace SplitStateStorage

open DataDir (Grown)

/-! ## What a save does to artifacts -/

theorem externalizeField_spares (field pathField : String) (record : Fields) :
    Durable.Spares (Grown H) (st.externalizeField H field pathField record) := by
  unfold externalizeField
  dsimp only
  split_ifs with hnull
  · exact .pure Grown.refl _
  · generalize H.str _ = text
    intro d d' h
    rw [Durable.leaves_read_bind] at h
    by_cases hp : artifactPath (H.digest text) ∈ d.artifacts
    · rw [if_pos (decide_eq_true hp)] at h
      exact (Durable.Spares.bind Grown.trans (.pure Grown.refl _)
        (fun _ => .pure Grown.refl _)) d d' h
    · rw [if_neg (by simpa using hp)] at h
      rcases Durable.leaves_bind.1 h with h | ⟨u, -, h⟩
      · rcases (Durable.leaves_write d _).1 h with rfl | rfl
        · exact .refl _
        · exact DataDir.grown_setArtifact text hp
      · rw [Durable.leaves_pure] at h
        rw [h]
        exact DataDir.grown_setArtifact text hp

/-- The text of a field is there when the field has been replaced. -/
theorem externalizeField_establishes {field pathField : String} {record : Fields} {text : String}
    (ht : H.fieldText record field = some text) :
    Durable.Establishes (Grown H) (Shelved H text)
      (st.externalizeField H field pathField record) := by
  refine ⟨externalizeField_spares field pathField record, fun d record' _ ha => ?_⟩
  have hvalue : ((record.get? field).getD .null).isNull = false ∧
      H.str ((record.get? field).getD .null) = text := by
    unfold Host.fieldText at ht
    cases hg : record.get? field with
    | none =>
      rw [hg] at ht
      cases ht
    | some v =>
      rw [hg] at ht
      dsimp only at ht
      split_ifs at ht with hv
      exact ⟨by simpa using hv, Option.some.inj ht⟩
  have hgrown : Grown H d ((st.externalizeField H field pathField record).after d) :=
    externalizeField_spares field pathField record d _ (Durable.leaves_after _ d)
  revert ha hgrown
  unfold externalizeField
  dsimp only
  rw [if_neg (by simp [hvalue.1]), hvalue.2]
  unfold Durable.after
  rw [Durable.read_bind]
  intro ha hgrown
  have haddr := hgrown.addressed_iff.1 ha
  by_cases hp : artifactPath (H.digest text) ∈ d.artifacts
  · rw [if_pos (decide_eq_true hp)] at hgrown ⊢
    obtain ⟨stored, hs⟩ := Dict.mem_iff_lookup.1 hp
    exact hgrown.holds (hs.trans (congrArg some (haddr text stored hs)))
  · rw [if_neg (by simpa using hp)]
    exact AList.lookup_insert _

/-! ## Records -/

/-- The fields of a record that belong to one of its texts. -/
def fieldNames (f : String × String) : List String := [f.1, f.2, f.1 ++ "_chars"]

/-- The texts of a record do not share fields. -/
structure Apart (fields : List (String × String)) : Prop where
  nodup : ∀ f ∈ fields, (fieldNames f).Nodup
  disjoint : fields.Pairwise fun f g => ∀ k ∈ fieldNames f, k ∉ fieldNames g

theorem apart_transcriptFields {name list : String} {fields : List (String × String)}
    (h : transcriptFields name = some (list, fields)) : Apart fields := by
  unfold transcriptFields at h
  split at h <;> cases h
  · refine ⟨by decide, ?_⟩
    rw [List.pairwise_pair]
    decide
  · exact ⟨by decide, List.pairwise_singleton _ _⟩

theorem Apart.tail {f : String × String} {fields : List (String × String)}
    (h : Apart (f :: fields)) : Apart fields :=
  ⟨fun g hg => h.nodup g (List.mem_cons_of_mem _ hg), (List.pairwise_cons.1 h.disjoint).2⟩

/-- What replacing one text makes of a field. -/
theorem get?_externalizedField (f : String × String) (record : Fields) (k : String) :
    (st.externalizedField H f.1 f.2 record).get? k =
      match H.fieldText record f.1 with
      | none => if k = f.1 then none else record.get? k
      | some text =>
        if k = f.1 ++ "_chars" then some (.num text.length)
        else if k = f.2 then some (.str (st.relativePath (H.digest text)))
        else if k = f.1 then none else record.get? k := by
  unfold externalizedField
  cases H.fieldText record f.1 with
  | none => exact Fields.get?_erase record f.1 k
  | some text =>
    dsimp only
    rw [Fields.get?_set, Fields.get?_set, Fields.get?_erase]

theorem get?_externalizedField_of_not_mem {f : String × String} {record : Fields} {k : String}
    (h : k ∉ fieldNames f) :
    (st.externalizedField H f.1 f.2 record).get? k = record.get? k := by
  simp only [fieldNames, List.mem_cons, List.not_mem_nil, or_false, not_or] at h
  rw [get?_externalizedField]
  split
  · rw [if_neg h.1]
  · rw [if_neg h.2.2, if_neg h.2.1, if_neg h.1]

/-- Replacing a text depends on its own fields only. -/
theorem externalizedField_congr {f : String × String} {record record' : Fields}
    (h : ∀ k ∈ fieldNames f, record'.get? k = record.get? k) :
    ∀ k ∈ fieldNames f, (st.externalizedField H f.1 f.2 record').get? k =
      (st.externalizedField H f.1 f.2 record).get? k := by
  intro k hk
  have htext : H.fieldText record' f.1 = H.fieldText record f.1 := by
    unfold Host.fieldText
    rw [h f.1 List.mem_cons_self]
  rw [get?_externalizedField, get?_externalizedField, htext, h k hk]

/-- The fields of each text in a record that is saved, and the fields of none. -/
theorem externalizedRecord_fields {fields : List (String × String)} (ha : Apart fields)
    (record : Fields) : ∃ saved, st.externalizedRecord H fields (.obj record) = .obj saved ∧
      (∀ f ∈ fields, ∀ k ∈ fieldNames f,
        Fields.get? saved k = (st.externalizedField H f.1 f.2 record).get? k) ∧
      ∀ k, (∀ f ∈ fields, k ∉ fieldNames f) → Fields.get? saved k = record.get? k := by
  induction fields generalizing record with
  | nil => exact ⟨record, rfl, fun f hf => (by cases hf), fun _ _ => rfl⟩
  | cons g fields ih =>
    obtain ⟨saved, hsaved, hfields, hother⟩ := ih ha.tail (st.externalizedField H g.1 g.2 record)
    have hdis := (List.pairwise_cons.1 ha.disjoint).1
    refine ⟨saved, hsaved, fun f hf k hk => ?_, fun k hk => ?_⟩
    · rcases List.mem_cons.1 hf with rfl | hf
      · -- the other texts leave the fields of the first one alone
        exact hother k fun f' hf' => hdis f' hf' k hk
      · rw [hfields f hf k hk]
        exact externalizedField_congr (fun k hk =>
          get?_externalizedField_of_not_mem fun hg => hdis f hf k hg hk) k hk
    · rw [hother k fun f hf => hk f (List.mem_cons_of_mem _ hf)]
      exact get?_externalizedField_of_not_mem (hk g List.mem_cons_self)

theorem externalizeRecord_spares (fields : List (String × String)) (v : Value) :
    Durable.Spares (Grown H) (st.externalizeRecord H fields v) := by
  induction fields generalizing v with
  | nil => exact .pure Grown.refl _
  | cons f fields ih =>
    cases v with
    | obj record =>
      exact (externalizeField_spares f.1 f.2 record).bind Grown.trans fun r => ih (.obj r)
    | _ => exact .pure Grown.refl _

/-- The texts of a record are there when it has been saved. -/
theorem externalizeRecord_establishes {fields : List (String × String)} (ha : Apart fields)
    {record : Fields} {f : String × String} (hf : f ∈ fields) {text : String}
    (ht : record.get? f.1 = some (.str text)) :
    Durable.Establishes (Grown H) (Shelved H text)
      (st.externalizeRecord H fields (.obj record)) := by
  induction fields generalizing record with
  | nil => cases hf
  | cons g fields ih =>
    rcases List.mem_cons.1 hf with rfl | hf
    · refine (externalizeField_establishes ?_).before Grown.trans (shelved_keep text)
        fun r => externalizeRecord_spares fields (.obj r)
      unfold Host.fieldText
      rw [ht]
      simp [Value.isNull, H.str_str]
    · refine .after Grown.trans (externalizeField_spares g.1 g.2 record)
        (fun r => externalizeRecord_spares fields (.obj r)) fun d r hr => ?_
      obtain rfl := Except.ok.inj ((externalizeField_computes g.1 g.2 record d).1.symm.trans hr)
      refine ih ha.tail hf ?_
      rwa [get?_externalizedField_of_not_mem]
      exact fun hg => (List.pairwise_cons.1 ha.disjoint).1 f hf f.1 hg List.mem_cons_self

/-! ## Items, collections, states -/

theorem externalizeItem_spares (name : String) (item : Fields) :
    Durable.Spares (Grown H) (st.externalizeItem H name item) := by
  unfold externalizeItem
  cases transcriptFields name with
  | none => exact .pure Grown.refl _
  | some lf =>
    obtain ⟨list, fields⟩ := lf
    dsimp only
    split
    · exact (Durable.Spares.traverse Grown.refl Grown.trans fun v _ =>
        externalizeRecord_spares fields v).bind Grown.trans fun _ => .pure Grown.refl _
    · exact .pure Grown.refl _

theorem saveItem_spares (name identity key : String) (item : Value) :
    Durable.Spares (Grown H) (st.saveItem H name identity key item) := by
  unfold saveItem
  split
  · exact (externalizeItem_spares name _).bind Grown.trans fun _ =>
      .write Grown.refl fun _ => .of_eq rfl
  · exact .throw Grown.refl _

theorem unlinkStale_spares (name : String) (collection : Dict String Value) :
    Durable.Spares (Grown H) (st.unlinkStale H name collection) := by
  unfold unlinkStale
  refine Durable.Spares.read_bind fun paths => .forEach Grown.refl Grown.trans fun path _ => ?_
  split_ifs
  · exact .pure Grown.refl _
  · exact .write Grown.refl fun _ => .of_eq rfl

theorem saveItemCollection_spares (name identity : String) (collection : Dict String Value) :
    Durable.Spares (Grown H) (st.saveItemCollection H name identity collection) :=
  (Durable.Spares.forEach Grown.refl Grown.trans fun e _ =>
    saveItem_spares name identity e.1 e.2).bind Grown.trans fun _ =>
      unlinkStale_spares name collection

theorem saveItems_spares (state : Snapshot E) (name identity : String) :
    Durable.Spares (Grown H) (st.saveItems H state name identity) := by
  unfold saveItems
  split
  · exact saveItemCollection_spares name identity _
  · exact .throw Grown.refl _

theorem saveLog_spares (sid : String) (entries : Option (List E)) :
    Durable.Spares (Grown H) (saveLog J sid entries) := by
  cases entries with
  | none => exact .pure Grown.refl _
  | some entries =>
    intro d d' h
    rcases Durable.leaves_zoom.1 h with rfl | ⟨dir, -, rfl⟩
    · exact .refl _
    · exact .of_eq rfl

theorem saveLogs_spares (state : Snapshot E) : Durable.Spares (Grown H) (saveLogs J state) :=
  .forEach Grown.refl Grown.trans fun e _ => saveLog_spares e.1 e.2

theorem saveAllItems_spares (state : Snapshot E) :
    Durable.Spares (Grown H) (st.saveAllItems H state) :=
  .forEach Grown.refl Grown.trans fun c _ => saveItems_spares state c.1 c.2

theorem saveValues_spares (state : Snapshot E) : Durable.Spares (Grown H) (saveValues state) :=
  .forEach Grown.refl Grown.trans fun _ _ => .write Grown.refl fun _ => .of_eq rfl

/-- **A save adds artifacts and changes none**, also when it is killed. -/
theorem saveData_spares (state : Snapshot E) :
    Durable.Spares (Grown H) (st.saveData H J state) :=
  (saveLogs_spares state).bind Grown.trans fun _ =>
    (saveAllItems_spares state).bind Grown.trans fun _ => saveValues_spares state

/-- The collections with transcripts are item collections, and the identity of an item is not
    among its transcripts. -/
theorem mem_itemCollections {name list : String} {fields : List (String × String)}
    (h : transcriptFields name = some (list, fields)) :
    ∃ identity, (name, identity) ∈ itemCollections ∧ identity ≠ list := by
  unfold transcriptFields at h
  split at h <;> cases h
  · exact ⟨"thread_id", by decide, by decide⟩
  · exact ⟨"run_id", by decide, by decide⟩

variable (H J st) in
/-- **The texts of an item are there when the state has been saved.** -/
theorem saveData_establishes {state : Snapshot E} {name list key : String}
    {fields : List (String × String)} (htf : transcriptFields name = some (list, fields))
    {collection : Dict String Value} (hcoll : state.collection name = some collection)
    {item : Fields} (hkey : collection.lookup key = some (.obj item)) {records : List Value}
    (hitem : item.get? list = some (.arr records)) {record : Fields}
    (hrecord : .obj record ∈ records) {f : String × String} (hf : f ∈ fields) {text : String}
    (ht : record.get? f.1 = some (.str text)) :
    Durable.Establishes (Grown H) (Shelved H text) (st.saveData H J state) := by
  obtain ⟨identity, hc, hne⟩ := mem_itemCollections htf
  have hkeep := @shelved_keep H text
  have hlist : (Fields.setDefault identity (.str key) item).get? list = some (.arr records) := by
    rw [Fields.get?_setDefault, if_neg hne.symm, hitem]
  have hitem' : Durable.Establishes (Grown H) (Shelved H text)
      (st.saveItem H name identity key (.obj item)) := by
    unfold saveItem externalizeItem
    simp only [htf, hlist]
    refine Durable.Establishes.before Grown.trans hkeep (Durable.Establishes.before Grown.trans
      hkeep (.traverse Grown.refl Grown.trans hkeep (fun v _ => externalizeRecord_spares fields v)
        hrecord (externalizeRecord_establishes (apart_transcriptFields htf) hf ht))
      fun _ => .pure Grown.refl _) fun _ => .write Grown.refl fun _ => .of_eq rfl
  have hitems : Durable.Establishes (Grown H) (Shelved H text)
      (st.saveItems H state name identity) := by
    unfold saveItems saveItemCollection
    rw [hcoll]
    exact (Durable.Establishes.forEach Grown.refl Grown.trans hkeep
      (fun e _ => saveItem_spares name identity e.1 e.2) (AList.mem_lookup_iff.1 hkey)
      hitem').before Grown.trans hkeep fun _ => unlinkStale_spares name collection
  unfold saveData
  refine .after Grown.trans (saveLogs_spares state)
    (fun _ => (saveAllItems_spares state).bind Grown.trans fun _ => saveValues_spares state)
    fun _ _ _ => ?_
  exact (Durable.Establishes.forEach Grown.refl Grown.trans hkeep
    (fun c _ => saveItems_spares state c.1 c.2) hc hitems).before Grown.trans hkeep
      fun _ => saveValues_spares state

end SplitStateStorage

/-! ## Roots that saves have written -/

/-- A save works on the data directory. -/
theorem save_leaves_data {state : Snapshot E} {R R' : Root E}
    (h : (st.save H J state).Leaves R R') :
    (R.data st.dataName).Grown H (R'.data st.dataName) := by
  have hprep : ((st.prepareDataDirectories (E := E)).after R).data st.dataName =
      R.data st.dataName := by
    change (R.setData st.dataName (R.data st.dataName)).data st.dataName = _
    rw [Root.data_setData, if_pos rfl]
  have hzoom : Durable.Spares (fun R R' : Root E =>
      (R.data st.dataName).Grown H (R'.data st.dataName))
      (.zoom (fun R : Root E => R.data st.dataName) (Root.setData st.dataName)
        (st.saveData H J state)) := by
    intro R R' h
    rcases Durable.leaves_zoom.1 h with rfl | ⟨d, hd, rfl⟩
    · exact .refl _
    · rw [Root.data_setData, if_pos rfl]
      exact saveData_spares state _ _ (.inr hd)
  unfold save at h
  have hrefl : ∀ R : Root E, (R.data st.dataName).Grown H (R.data st.dataName) :=
    fun R => .refl _
  rcases Durable.leaves_bind.1 h with h | ⟨u, -, h⟩
  · rw [Durable.leaves_require] at h
    exact h ▸ hrefl R
  rw [Durable.after_require] at h
  rcases Durable.leaves_bind.1 h with h | ⟨u, -, h⟩
  · rcases (Durable.leaves_write _ _).1 h with rfl | rfl
    · exact hrefl _
    · rw [Root.data_setData, if_pos rfl]
      exact .refl _
  rw [← hprep]
  have htrans : ∀ R₁ R₂ R₃ : Root E, (R₁.data st.dataName).Grown H (R₂.data st.dataName) →
      (R₂.data st.dataName).Grown H (R₃.data st.dataName) →
        (R₁.data st.dataName).Grown H (R₃.data st.dataName) :=
    fun R₁ R₂ R₃ => DataDir.Grown.trans _ _ _
  refine hzoom.bind htrans (fun u => ?_) _ _ h
  refine Durable.Spares.read_bind fun initialized => ?_
  split_ifs
  · exact .pure hrefl _
  · exact .write hrefl fun R => .of_eq rfl

/-- Artifacts hold their own texts, and there are no other files. -/
theorem Written.addressed {R : Root E} (h : Written H J st R) :
    (R.data st.dataName).Addressed H ∧ R.texts = ∅ := by
  induction h with
  | bare =>
    refine ⟨fun text stored hs => ?_, rfl⟩
    cases hs
  | save state _ hsave ih =>
    exact ⟨(save_leaves_data hsave).addressed ih.1,
      (save_leaves hsave).1.texts.trans ih.2⟩

/-! ## Line ends -/

theorem not_mem_translateLineEnds (cs : List Char) : '\r' ∉ translateLineEnds cs := by
  fun_induction translateLineEnds cs with
  | case1 cs ih => simpa using ih
  | case2 cs _ ih => simpa using ih
  | case3 c cs _ hc ih =>
    have hne : '\r' ≠ c := fun h => hc h.symm
    simp [hne, ih]
  | case4 => simp

/-- **A text is read as it was written exactly when it has no carriage return.** -/
theorem universalNewlines_eq_iff (text : String) :
    universalNewlines text = text ↔ '\r' ∉ text.toList := by
  constructor
  · intro h
    rw [← h, universalNewlines, String.toList_ofList]
    exact not_mem_translateLineEnds _
  · intro h
    have hsame : ∀ cs : List Char, '\r' ∉ cs → translateLineEnds cs = cs := by
      intro cs
      induction cs with
      | nil => exact fun _ => rfl
      | cons c cs ih =>
        intro hc
        rw [List.mem_cons, not_or] at hc
        rw [translateLineEnds, ih hc.2]
        · rintro cs' rfl
          exact absurd rfl hc.1
        · rintro rfl
          exact absurd rfl hc.1
    rw [universalNewlines, hsame _ h, String.ofList_toList]

/-! ## The forms of a record -/

/-- The text of a record, if it has one. -/
def textOf (f : String × String) (record : Fields) : Option String :=
  match record.get? f.1 with
  | some (.str text) => some text
  | _ => none

/-- The text is in the record, or there is none and no reference to one. -/
def Given (f : String × String) : Option String → Fields → Prop
  | some text, r => r.get? f.1 = some (.str text)
  | none, r => r.get? f.1 = none ∧ r.get? f.2 = none

/-- The record refers to the artifact of the text, and knows its length. -/
def Refers (H : Host) (f : String × String) : Option String → Fields → Prop
  | some text, r => r.get? f.1 = none ∧
      r.get? f.2 = some (.str (store.relativePath (H.digest text))) ∧
      r.get? (f.1 ++ "_chars") = some (.num text.length)
  | none, r => r.get? f.1 = none ∧ r.get? f.2 = none

/-- The record has a text back, of the length that it knows. -/
def Restored (f : String × String) : Option String → Fields → Prop
  | some text, r => r.get? f.1 = some (.str text) ∧
      r.get? (f.1 ++ "_chars") = some (.num text.length)
  | none, r => r.get? f.1 = none ∧ r.get? f.2 = none

/-- The turns or steps of an item, each in a form for its given texts. -/
def RecordsAs (P : String × String → Option String → Fields → Prop) (list : String)
    (fields : List (String × String)) (given : List Fields) (item : Fields) : Prop :=
  ∃ records : List Fields, item.get? list = some (.arr (records.map .obj)) ∧
    List.Forall₂ (fun g r => ∀ f ∈ fields, P f (textOf f g) r) given records

theorem exists_of_forall₂ {α β : Type} {P : α → β → Prop} {l : List α} {l' : List β} {a : α}
    (h : List.Forall₂ P l l') (ha : a ∈ l) : ∃ b ∈ l', P a b := by
  induction h with
  | nil => cases ha
  | cons hab _ ih =>
    rcases List.mem_cons.1 ha with rfl | ha
    · exact ⟨_, List.mem_cons_self, hab⟩
    · obtain ⟨b, hb, hp⟩ := ih ha
      exact ⟨b, List.mem_cons_of_mem _ hb, hp⟩

theorem Restored.given {f : String × String} {text : Option String} {r : Fields}
    (h : Restored f text r) : Given f text r := by
  cases text with
  | some text => exact h.1
  | none => exact h

section Forms

variable {f : String × String} {fields : List (String × String)} {r : Fields}

theorem refers_congr {text : Option String} {r' : Fields}
    (h : ∀ k ∈ fieldNames f, r'.get? k = r.get? k) (hr : Refers H f text r) :
    Refers H f text r' := by
  have h₁ := h f.1 (by simp [fieldNames])
  have h₂ := h f.2 (by simp [fieldNames])
  have h₃ := h (f.1 ++ "_chars") (by simp [fieldNames])
  cases text with
  | some text => exact ⟨h₁.trans hr.1, h₂.trans hr.2.1, h₃.trans hr.2.2⟩
  | none => exact ⟨h₁.trans hr.1, h₂.trans hr.2⟩

/-- A saved text is referred to. -/
theorem refers_externalizedField (hnd : (fieldNames f).Nodup) {text : Option String}
    (h : Given f text r ∨ Refers H f text r) :
    Refers H f text (store.externalizedField H f.1 f.2 r) := by
  simp only [fieldNames, List.nodup_cons, List.mem_cons, List.not_mem_nil, or_false, not_or,
    not_false_eq_true, List.nodup_nil, and_true] at hnd
  obtain ⟨⟨h₁₂, h₁₃⟩, h₂₃⟩ := hnd
  -- without the text, the record stays as it is
  have hnone : r.get? f.1 = none →
      ∀ k ∈ fieldNames f, (store.externalizedField H f.1 f.2 r).get? k = r.get? k := by
    intro hr k _
    have htext : H.fieldText r f.1 = none := by
      unfold Host.fieldText
      rw [hr]
    rw [get?_externalizedField, htext]
    dsimp only
    split_ifs with hk
    · rw [hk, hr]
    · rfl
  cases text with
  | none =>
    have hr : Refers H f none r := h.elim id id
    exact refers_congr (hnone hr.1) hr
  | some text =>
    rcases h with h | h
    · have htext : H.fieldText r f.1 = some text := by
        unfold Host.fieldText
        rw [show r.get? f.1 = _ from h]
        simp [Value.isNull, H.str_str]
      refine ⟨?_, ?_, ?_⟩
      · rw [get?_externalizedField, htext]
        simp [h₁₂, h₁₃]
      · rw [get?_externalizedField, htext]
        simp [h₂₃]
      · rw [get?_externalizedField, htext]
        simp
    · exact refers_congr (hnone h.1) h

/-- A record that is saved refers to its texts. -/
theorem refers_externalizedRecord (ha : Apart fields) {g : Fields}
    (h : ∀ f ∈ fields, Given f (textOf f g) r ∨ Refers H f (textOf f g) r) :
    ∃ saved, store.externalizedRecord H fields (.obj r) = .obj saved ∧
      ∀ f ∈ fields, Refers H f (textOf f g) saved := by
  obtain ⟨saved, hsaved, hfields, -⟩ := @externalizedRecord_fields H store fields ha r
  refine ⟨saved, hsaved, fun f hf => ?_⟩
  exact refers_congr (hfields f hf) (refers_externalizedField (ha.nodup f hf) (h f hf))

end Forms

/-- **An item that is saved** refers to its texts. -/
theorem item_externalizedItem {name list identity : String} (key : String)
    {fields : List (String × String)} (htf : transcriptFields name = some (list, fields))
    (hne : identity ≠ list) {given : List Fields} {item : Fields}
    (h : RecordsAs Given list fields given item ∨ RecordsAs (Refers H) list fields given item) :
    RecordsAs (Refers H) list fields given
      (store.externalizedItem H name (Fields.setDefault identity (.str key) item)) := by
  have hform : RecordsAs (fun f t r => Given f t r ∨ Refers H f t r) list fields given item := by
    rcases h with ⟨records, hitem, h⟩ | ⟨records, hitem, h⟩
    · exact ⟨records, hitem, h.imp fun g r hr f hf => .inl (hr f hf)⟩
    · exact ⟨records, hitem, h.imp fun g r hr f hf => .inr (hr f hf)⟩
  obtain ⟨records, hitem, hrecords⟩ := hform
  have hlist : (Fields.setDefault identity (.str key) item).get? list =
      some (.arr (records.map .obj)) := by
    rw [Fields.get?_setDefault, if_neg hne.symm, hitem]
  have hsaved : ∃ saved : List Fields,
      (records.map Value.obj).map (store.externalizedRecord H fields) = saved.map .obj ∧
        List.Forall₂ (fun g r => ∀ f ∈ fields, Refers H f (textOf f g) r) given saved := by
    clear hitem hlist h
    induction hrecords with
    | nil => exact ⟨[], rfl, .nil⟩
    | cons hr _ ih =>
      obtain ⟨saved, hsaved, hall⟩ := ih
      obtain ⟨s, hs, hrefers⟩ := refers_externalizedRecord (apart_transcriptFields htf) hr
      refine ⟨s :: saved, ?_, .cons hrefers hall⟩
      rw [List.map_cons, List.map_cons, List.map_cons, hs, hsaved]
  obtain ⟨saved, hmap, hall⟩ := hsaved
  refine ⟨saved, ?_, hall⟩
  unfold externalizedItem
  simp only [htf, hlist]
  rw [Fields.get?_set, if_pos rfl, hmap]

/-! ## Reading a reference -/

/-- The name of a file or a directory. -/
structure PathName (name : String) : Prop where
  slash : '/' ∉ name.toList
  ne_empty : name ≠ ""
  ne_dot : name ≠ "."
  ne_dots : name ≠ ".."

/-- A relative path of names leads below the root. -/
theorem resolvePath_joinPath (location : List String) {path : List String} (hne : path ≠ [])
    (h : ∀ name ∈ path, PathName name) : resolvePath location (joinPath path) = .ok path := by
  have hsplit : (joinPath path).toList.splitOn '/' = path.map String.toList := by
    rw [joinPath, String.toList_ofList]
    refine List.splitOn_intercalate '/' (fun l hl => ?_) (by simpa using hne)
    obtain ⟨name, hname, rfl⟩ := List.mem_map.1 hl
    exact (h name hname).slash
  have hcomponents : (((joinPath path).toList.splitOn '/').map String.ofList).filter
      (fun c => c ≠ "" ∧ c ≠ ".") = path := by
    rw [hsplit, List.map_map]
    have hid : path.map (String.ofList ∘ String.toList) = path :=
      (List.map_congr_left fun name _ => String.ofList_toList).trans (List.map_id path)
    rw [hid]
    exact List.filter_eq_self.2 fun name hname => by
      simpa using ⟨(h name hname).ne_empty, (h name hname).ne_dot⟩
  have hhead : (joinPath path).toList.head? ≠ some '/' := by
    rw [joinPath, String.toList_ofList]
    cases path with
    | nil => exact absurd rfl hne
    | cons name rest =>
      have hname := h name List.mem_cons_self
      have hnil : name.toList ≠ [] := fun he => hname.ne_empty (String.toList_injective he)
      obtain ⟨c, cs, hcs⟩ := List.exists_cons_of_ne_nil hnil
      have hc : c ≠ '/' := by
        rintro rfl
        exact hname.slash (hcs ▸ List.mem_cons_self)
      cases rest with
      | nil => simpa [hcs] using hc
      | cons name' rest => simpa [hcs] using hc
  have hfold : ∀ (l : List String) (stack : List String), (∀ name ∈ l, PathName name) →
      l.foldl (fun stack c => if c = ".." then stack.dropLast else stack ++ [c]) stack =
        stack ++ l := by
    intro l
    induction l with
    | nil => exact fun stack _ => (List.append_nil stack).symm
    | cons name l ih =>
      intro stack hl
      rw [List.foldl_cons, if_neg (hl name List.mem_cons_self).ne_dots,
        ih _ fun n hn => hl n (List.mem_cons_of_mem _ hn)]
      simp
  unfold resolvePath
  simp only [hcomponents, if_neg hhead, hfold path location h, List.prefix_append, if_true,
    List.drop_left]

/-- A reference leads to the artifact. -/
theorem resolvePath_relativePath (location : List String) (text : String) :
    resolvePath location (store.relativePath (H.digest text)) =
      .ok ("store" :: "artifacts" :: artifactPath (H.digest text)) := by
  obtain ⟨c₁, c₂, cs, hd⟩ : ∃ c₁ c₂ cs, (H.digest text).toList = c₁ :: c₂ :: cs := by
    have hlen := H.two_le_digest text
    match (H.digest text).toList, hlen with
    | c₁ :: c₂ :: cs, _ => exact ⟨c₁, c₂, cs, rfl⟩
  have hplain := H.digest_plain text
  have h₁ := hplain c₁ (by simp [hd])
  have h₂ := hplain c₂ (by simp [hd])
  have hslash : '/' ∉ (H.digest text).toList := fun h => (hplain _ h).1 rfl
  have hfirst : ∀ (name : String), name.toList.head? = some c₁ → '/' ∉ name.toList →
      PathName name := by
    intro name hhead hs
    refine ⟨hs, ?_, ?_, ?_⟩ <;> rintro rfl
    · cases hhead
    · exact h₁.2 (Option.some.inj hhead).symm
    · exact h₁.2 (Option.some.inj hhead).symm
  unfold SplitStateStorage.relativePath
  refine resolvePath_joinPath location (by simp) ?_
  simp only [artifactPath, List.forall_mem_cons, List.not_mem_nil, false_imp_iff, implies_true,
    and_true]
  refine ⟨⟨by decide, by decide, by decide, by decide⟩,
    ⟨by decide, by decide, by decide, by decide⟩, hfirst _ ?_ ?_, hfirst _ ?_ ?_⟩
  · simp [hd]
  · simp [hd, h₁.1.symm, h₂.1.symm]
  · simp [hd]
  · simpa using hslash

section Hydrating

variable {R : Root E} {location : List String} {f : String × String}
  {fields : List (String × String)} {r : Fields}

/-- A text that is fetched. -/
theorem hydrateField_refers (htexts : R.texts = ∅) {text : String}
    (hheld : (R.data "store").Holds H text) (h : Refers H f (some text) r) :
    R.hydrateField location f.1 f.2 r =
      .ok (r.set f.1 (.str (universalNewlines text))) := by
  have hread : R.readText ("store" :: "artifacts" :: artifactPath (H.digest text)) =
      some text := by
    unfold Root.readText Root.readArtifact
    rw [htexts]
    unfold DataDir.Holds Root.data at hheld
    cases hd : R.dataDirs.lookup "store" with
    | none =>
      rw [hd] at hheld
      cases hheld
    | some d =>
      rw [hd] at hheld
      change (none <|> (R.dataDirs.lookup "store").bind fun d =>
        d.artifacts.lookup (artifactPath (H.digest text))) = some text
      rw [hd]
      exact hheld
  have hpath : store.relativePath (H.digest text) ≠ "" := by
    intro he
    have := @resolvePath_relativePath H [] text
    rw [he] at this
    cases this
  unfold Root.hydrateField
  rw [h.1, h.2.1]
  dsimp only
  rw [if_neg (by simp), if_neg hpath, resolvePath_relativePath, Except.ok_bind, hread]
  rfl

/-- What is fetched for a text. -/
def Fetched (f : String × String) (text : Option String) (r : Fields) : Prop :=
  match text with
  | some text => r.get? f.1 = some (.str (universalNewlines text)) ∧
      r.get? (f.1 ++ "_chars") = some (.num text.length)
  | none => r.get? f.1 = none ∧ r.get? f.2 = none

variable (location) in
theorem hydrateField_fetched (hnd : (fieldNames f).Nodup) (htexts : R.texts = ∅)
    {text : Option String} (hheld : ∀ t, text = some t → (R.data "store").Holds H t)
    (h : Refers H f text r) : ∃ r', R.hydrateField location f.1 f.2 r = .ok r' ∧
      Fetched f text r' ∧ ∀ k, k ≠ f.1 → r'.get? k = r.get? k := by
  cases text with
  | none =>
    refine ⟨r, ?_, h, fun _ _ => rfl⟩
    unfold Root.hydrateField
    rw [h.1, h.2]
    rfl
  | some text =>
    refine ⟨_, hydrateField_refers htexts (hheld text rfl) h, ⟨?_, ?_⟩, fun k hk => ?_⟩
    · rw [Fields.get?_set, if_pos rfl]
    · rw [Fields.get?_set, if_neg]
      · exact h.2.2
      · rintro he
        simp [fieldNames, he] at hnd
    · rw [Fields.get?_set, if_neg hk]

theorem fetched_congr {text : Option String} {r' : Fields}
    (h : ∀ k ∈ fieldNames f, r'.get? k = r.get? k) (hr : Fetched f text r) :
    Fetched f text r' := by
  have h₁ := h f.1 (by simp [fieldNames])
  have h₂ := h f.2 (by simp [fieldNames])
  have h₃ := h (f.1 ++ "_chars") (by simp [fieldNames])
  cases text with
  | some text => exact ⟨h₁.trans hr.1, h₃.trans hr.2⟩
  | none => exact ⟨h₁.trans hr.1, h₂.trans hr.2⟩

variable (location) in
/-- The texts of a record that are fetched. -/
theorem hydrateRecord_fetched (ha : Apart fields) (htexts : R.texts = ∅) {g : Fields}
    (hheld : ∀ f ∈ fields, ∀ t, textOf f g = some t → (R.data "store").Holds H t)
    (h : ∀ f ∈ fields, Refers H f (textOf f g) r) :
    ∃ r', R.hydrateRecord location fields (.obj r) = .ok (.obj r') ∧
      ∀ f ∈ fields, Fetched f (textOf f g) r' := by
  have hfold : ∃ r', fields.foldlM (fun r f => R.hydrateField location f.1 f.2 r) r = .ok r' ∧
      (∀ f ∈ fields, Fetched f (textOf f g) r') ∧
      ∀ k, (∀ f ∈ fields, k ∉ fieldNames f) → r'.get? k = r.get? k := by
    induction fields generalizing r with
    | nil => exact ⟨r, rfl, fun f hf => (by cases hf), fun _ _ => rfl⟩
    | cons f fields ih =>
      simp only [List.forall_mem_cons] at hheld h
      have hdis := (List.pairwise_cons.1 ha.disjoint).1
      obtain ⟨r₁, hr₁, hf₁, hk₁⟩ := hydrateField_fetched location
        (ha.nodup f List.mem_cons_self) htexts hheld.1 h.1
      obtain ⟨r', hr', hf', hk'⟩ := ih (r := r₁) ha.tail hheld.2 fun f' hf' =>
        refers_congr (fun k hk => hk₁ k fun he => hdis f' hf' k
          (he ▸ List.mem_cons_self) hk) (h.2 f' hf')
      refine ⟨r', ?_, ?_, fun k hk => ?_⟩
      · rw [List.foldlM_cons, Except.bind_eq_ok]
        exact ⟨r₁, hr₁, hr'⟩
      · simp only [List.forall_mem_cons]
        exact ⟨fetched_congr (fun k hk => hk' k fun f' hf' => hdis f' hf' k hk) hf₁, hf'⟩
      · rw [hk' k fun f' hf' => hk f' (List.mem_cons_of_mem _ hf')]
        exact hk₁ k fun he => hk f List.mem_cons_self (he ▸ List.mem_cons_self)
  obtain ⟨r', hr', hf, -⟩ := hfold
  refine ⟨r', ?_, hf⟩
  unfold Root.hydrateRecord
  dsimp only
  rw [hr']
  rfl

variable (location) in
/-- **The texts of an item that are fetched.** -/
theorem hydrateItem_fetched {name list : String} (htf : transcriptFields name = some (list, fields))
    (htexts : R.texts = ∅) {given : List Fields} {item : Fields}
    (hheld : ∀ g ∈ given, ∀ f ∈ fields, ∀ t, textOf f g = some t → (R.data "store").Holds H t)
    (h : RecordsAs (Refers H) list fields given item) :
    ∃ item', R.hydrateItem location name (.obj item) = .ok (.obj item') ∧
      RecordsAs Fetched list fields given item' := by
  obtain ⟨records, hitem, hrecords⟩ := h
  have hmap : ∃ fetched : List Fields,
      (records.map Value.obj).mapM (R.hydrateRecord location fields) = .ok (fetched.map .obj) ∧
        List.Forall₂ (fun g r => ∀ f ∈ fields, Fetched f (textOf f g) r) given fetched := by
    clear hitem
    induction hrecords with
    | nil => exact ⟨[], rfl, .nil⟩
    | cons hr _ ih =>
      simp only [List.forall_mem_cons] at hheld
      obtain ⟨fetched, hmap, hall⟩ := ih hheld.2
      obtain ⟨r', hr', hf⟩ := hydrateRecord_fetched location
        (apart_transcriptFields htf) htexts hheld.1 hr
      refine ⟨r' :: fetched, ?_, .cons hf hall⟩
      rw [List.map_cons, List.mapM_cons, hr', Except.ok_bind, hmap, Except.ok_bind]
      rfl
  obtain ⟨fetched, hmap, hall⟩ := hmap
  refine ⟨Fields.set list (.arr (fetched.map .obj)) item, ?_, fetched, ?_, hall⟩
  · unfold Root.hydrateItem
    simp only [htf, hitem, hmap]
    rfl
  · rw [Fields.get?_set, if_pos rfl]

end Hydrating

/-! ## Saves of one item after the other -/

section Run

variable (H J) in
/-- Another save. The item is saved as it has been loaded or with its texts fetched; the rest of
    the state may be anything. -/
inductive Resaved (location : List String) (name key : String) : Root E → Root E → Prop
  | save {R : Root E} {loaded state : Snapshot E} {items collection : Dict String Value}
      {item item' : Value} (hload : store.load H R = .ok loaded)
      (hitems : loaded.items.lookup name = some (some items))
      (hitem : items.lookup key = some item)
      (hform : item' = item ∨ R.hydrateItem location name item = .ok item')
      (hcoll : state.collection name = some collection)
      (hkey : collection.lookup key = some item') (hkeyed : KeyedItems H state)
      (hok : (store.save H J state).result R = .ok ()) :
      Resaved location name key R ((store.save H J state).after R)

variable (H) in
/-- **The texts survive**: the item that is loaded refers to the given texts, and they are
    fetched as they were given, of the lengths that are recorded. -/
def Survives (location : List String) (name key list : String) (fields : List (String × String))
    (given : List Fields) (R : Root E) : Prop :=
  ∃ loaded items item item', store.load H R = .ok loaded ∧
    loaded.items.lookup name = some (some items) ∧ items.lookup key = some (.obj item) ∧
    RecordsAs (Refers H) list fields given item ∧
    R.hydrateItem location name (.obj item) = .ok (.obj item') ∧
    RecordsAs Restored list fields given item'

variable (H J) in
/-- The item on disk refers to the given texts, and their artifacts are there. -/
structure OnDisk (name key list : String) (fields : List (String × String))
    (given : List Fields) (R : Root E) : Prop where
  written : Written H J store R
  held : ∀ g ∈ given, ∀ f ∈ fields, ∀ t, textOf f g = some t →
    (R.data "store").Holds H t
  item : ∃ loaded items item, store.load H R = .ok loaded ∧
    loaded.items.lookup name = some (some items) ∧ items.lookup key = some (.obj item) ∧
    RecordsAs (Refers H) list fields given item

variable {location : List String} {name key list : String} {fields : List (String × String)}
  {given : List Fields} {R : Root E}

/-- A save puts a given item on disk, and keeps one that is there. -/
theorem onDisk_save (hR : Written H J store R) {state : Snapshot E} (hkeyed : KeyedItems H state)
    (hok : (store.save H J state).result R = .ok ())
    (htf : transcriptFields name = some (list, fields)) {collection : Dict String Value}
    (hcoll : state.collection name = some collection) {item : Fields}
    (hkey : collection.lookup key = some (.obj item))
    (h : RecordsAs Given list fields given item ∨
      RecordsAs (Refers H) list fields given item ∧ OnDisk H J name key list fields given R) :
    OnDisk H J name key list fields given ((store.save H J state).after R) := by
  obtain ⟨identity, hc, hne⟩ := mem_itemCollections htf
  have hleaves := Durable.leaves_after (store.save H J state) R
  have hwritten := hR.save state hleaves
  refine ⟨hwritten, fun g hg f hf t ht => ?_, ?_⟩
  · rcases h with ⟨records, hitem, hall⟩ | ⟨-, hdisk⟩
    · obtain ⟨r, hr, hgr⟩ := exists_of_forall₂ hall hg
      have hfield := hgr f hf
      rw [ht] at hfield
      have hest := saveData_establishes H J store htf hcoll hkey hitem
        (List.mem_map_of_mem hr) hf hfield
      have hdata := (save_ok_iff.1 hok).2
      have hheld := hest.holds _ _ hdata
      have haddr := hwritten.addressed.1
      change (((store.save H J state).after R).data store.dataName).Holds H t
      rw [(save_after hok).2.2.1] at haddr ⊢
      exact hheld haddr
    · exact (save_leaves_data hleaves).holds (hdisk.held g hg f hf t ht)
  · obtain ⟨loaded, hload, hitems⟩ := loaded_items hR hkeyed hok
    obtain ⟨collection', items, hcoll', hin, hlookup⟩ := hitems (name, identity) hc
    obtain rfl := Option.some.inj (hcoll'.symm.trans hcoll)
    refine ⟨loaded, items, _, hload, hin, ?_, item_externalizedItem key htf hne
      (h.imp_right And.left)⟩
    rw [hlookup, hkey]
    rfl

/-- The item of a disk, and what is fetched for it. -/
theorem OnDisk.fetched (h : OnDisk H J name key list fields given R)
    (htf : transcriptFields name = some (list, fields)) (location : List String) :
    ∃ loaded items item item', store.load H R = .ok loaded ∧
      loaded.items.lookup name = some (some items) ∧ items.lookup key = some (.obj item) ∧
      RecordsAs (Refers H) list fields given item ∧
      R.hydrateItem location name (.obj item) = .ok (.obj item') ∧
      RecordsAs Fetched list fields given item' := by
  obtain ⟨loaded, items, item, hload, hitems, hitem, hrefers⟩ := h.item
  obtain ⟨item', hhyd, hfetched⟩ := hydrateItem_fetched location htf
    h.written.addressed.2 h.held hrefers
  exact ⟨loaded, items, item, item', hload, hitems, hitem, hrefers, hhyd, hfetched⟩

/-- No text that is given has a carriage return. -/
def Plain (fields : List (String × String)) (given : List Fields) : Prop :=
  ∀ g ∈ given, ∀ f ∈ fields, ∀ t, textOf f g = some t → '\r' ∉ t.toList

/-- Texts without carriage returns are fetched as they were given. -/
theorem restored_of_fetched (hplain : Plain fields given) {item : Fields}
    (h : RecordsAs Fetched list fields given item) : RecordsAs Restored list fields given item := by
  obtain ⟨records, hitem, hall⟩ := h
  refine ⟨records, hitem, ((List.forall₂_and_left _ _).2 ⟨hplain, hall⟩).imp ?_⟩
  rintro g r ⟨hp, hfetched⟩ f hf
  have hfetched := hfetched f hf
  cases ht : textOf f g with
  | none =>
    rw [ht] at hfetched
    exact hfetched
  | some t =>
    rw [ht] at hfetched
    refine ⟨?_, hfetched.2⟩
    rw [hfetched.1, (universalNewlines_eq_iff t).2 (hp f hf t ht)]

/-- What is fetched as it was given has no carriage returns. -/
theorem plain_of_restored {item : Fields} (h : RecordsAs Fetched list fields given item)
    (hr : RecordsAs Restored list fields given item) : Plain fields given := by
  intro g hg f hf t ht
  obtain ⟨records, hitem, hall⟩ := h
  obtain ⟨records', hitem', hall'⟩ := hr
  have hmap : records.map Value.obj = records'.map Value.obj :=
    Value.arr.inj (Option.some.inj (hitem.symm.trans hitem'))
  obtain rfl : records = records' :=
    List.map_injective_iff.2 (fun _ _ => Value.obj.inj) hmap
  obtain ⟨r, -, hr, hr'⟩ := exists_of_forall₂ (hall.mp (fun _ _ h h' => And.intro h h') hall') hg
  have hr := hr f hf
  have hr' := hr' f hf
  rw [ht] at hr hr'
  exact (universalNewlines_eq_iff t).1 (Value.str.inj (Option.some.inj (hr.1.symm.trans hr'.1)))

/-- On one disk, the texts survive exactly when they have no carriage returns. -/
theorem OnDisk.survives_iff (h : OnDisk H J name key list fields given R)
    (htf : transcriptFields name = some (list, fields)) (location : List String) :
    Survives H location name key list fields given R ↔ Plain fields given := by
  obtain ⟨loaded, items, item, item', hload, hitems, hitem, hrefers, hhyd, hfetched⟩ :=
    h.fetched htf location
  constructor
  · rintro ⟨loaded₂, items₂, item₂, item₂', hload₂, hitems₂, hitem₂, -, hhyd₂, hrestored⟩
    obtain rfl := Except.ok.inj (hload.symm.trans hload₂)
    obtain rfl := Option.some.inj (Option.some.inj (hitems.symm.trans hitems₂))
    obtain rfl := Value.obj.inj (Option.some.inj (hitem.symm.trans hitem₂))
    obtain rfl := Value.obj.inj (Except.ok.inj (hhyd.symm.trans hhyd₂))
    exact plain_of_restored hfetched hrestored
  · intro hplain
    exact ⟨loaded, items, item, item', hload, hitems, hitem, hrefers, hhyd,
      restored_of_fetched hplain hfetched⟩

/-- Another save of texts without carriage returns. -/
theorem OnDisk.resaved (h : OnDisk H J name key list fields given R)
    (htf : transcriptFields name = some (list, fields)) (hplain : Plain fields given)
    {R' : Root E} (hstep : Resaved H J location name key R R') :
    OnDisk H J name key list fields given R' := by
  obtain ⟨hload, hitems, hitem, hform, hcoll, hkey, hkeyed, hok⟩ := hstep
  obtain ⟨loaded, items, item₁, item₂, hload₁, hitems₁, hitem₁, hrefers, hhyd, hfetched⟩ :=
    h.fetched htf location
  obtain rfl := Except.ok.inj (hload₁.symm.trans hload)
  obtain rfl := Option.some.inj (Option.some.inj (hitems₁.symm.trans hitems))
  obtain rfl := Option.some.inj (hitem₁.symm.trans hitem)
  rcases hform with rfl | hform
  · exact onDisk_save h.written hkeyed hok htf hcoll hkey (.inr ⟨hrefers, h⟩)
  · obtain rfl := Except.ok.inj (hhyd.symm.trans hform)
    obtain ⟨records, hitem', hall⟩ := restored_of_fetched hplain hfetched
    exact onDisk_save h.written hkeyed hok htf hcoll hkey
      (.inl ⟨records, hitem', hall.imp fun g r hr f hf => (hr f hf).given⟩)

/-- **Transcripts survive storage exactly when they have no carriage returns.** -/
theorem transcripts_survive_iff (location : List String) (hR : Written H J store R)
    {state : Snapshot E} (hkeyed : KeyedItems H state)
    (hok : (store.save H J state).result R = .ok ())
    (htf : transcriptFields name = some (list, fields)) {collection : Dict String Value}
    (hcoll : state.collection name = some collection) {item : Fields}
    (hkey : collection.lookup key = some (.obj item))
    (hitem : item.get? list = some (.arr (given.map .obj)))
    (hgiven : ∀ g ∈ given, ∀ f ∈ fields, Given f (textOf f g) g) :
    (∀ R', Relation.ReflTransGen (Resaved H J location name key)
        ((store.save H J state).after R) R' →
      Survives H location name key list fields given R') ↔ Plain fields given := by
  have hdisk : OnDisk H J name key list fields given ((store.save H J state).after R) :=
    onDisk_save hR hkeyed hok htf hcoll hkey
      (.inl ⟨given, hitem, List.forall₂_same.2 fun g hg => hgiven g hg⟩)
  constructor
  · intro h
    exact (hdisk.survives_iff htf location).1 (h _ .refl)
  · intro hplain R' hrun
    have hinv : OnDisk H J name key list fields given R' := by
      induction hrun with
      | refl => exact hdisk
      | tail _ hstep ih => exact ih.resaved htf hplain hstep
    exact (hinv.survives_iff htf location).2 hplain

end Run

/-! ## A thread of one turn -/

/-- The turn of a thread with this prompt. -/
def oneTurn (prompt : String) : Fields := [("prompt", .str prompt), ("result", .str "done")]

def oneThreadItem (prompt : String) : Fields :=
  [("thread_id", .str "root:GoalManager"), ("turns", .arr [.obj (oneTurn prompt)])]

/-- A state with one thread. -/
def oneThread (prompt : String) : Snapshot Sample :=
  oneItem "agent_threads" "root:GoalManager" (oneThreadItem prompt)

/-- The texts of a turn. -/
def turnFields : List (String × String) := [("prompt", "prompt_path"), ("result", "result_path")]

theorem keyed_oneThread (prompt : String) : KeyedItems sampleHost (oneThread prompt) :=
  keyed_oneItem (c := ("agent_threads", "thread_id")) (by decide) (by decide) rfl

theorem given_oneTurn (prompt : String) :
    ∀ g ∈ [oneTurn prompt], ∀ f ∈ turnFields, Given f (textOf f g) g := by
  intro g hg f hf
  obtain rfl := List.mem_singleton.1 hg
  simp only [turnFields, List.mem_cons, List.not_mem_nil, or_false] at hf
  rcases hf with rfl | rfl <;> rfl

/-- A prompt of two lines, saved again and again. -/
theorem two_lines_survive : Plain turnFields [oneTurn "a\nb"] ∧ ∀ R', Relation.ReflTransGen
    (Resaved sampleHost sampleJson ["root"] "agent_threads" "root:GoalManager")
      ((store.save sampleHost sampleJson (oneThread "a\nb")).after .bare) R' →
    Survives sampleHost ["root"] "agent_threads" "root:GoalManager" "turns" turnFields
      [oneTurn "a\nb"] R' := by
  have htf : transcriptFields "agent_threads" = some ("turns", turnFields) := rfl
  have hplain : Plain turnFields [oneTurn "a\nb"] := by
    intro g hg f hf t ht
    obtain rfl := List.mem_singleton.1 hg
    simp only [turnFields, List.mem_cons, List.not_mem_nil, or_false] at hf
    rcases hf with rfl | rfl <;> obtain rfl := Option.some.inj ht <;> decide
  exact ⟨hplain, (transcripts_survive_iff ["root"] .bare (keyed_oneThread _)
    (saved_oneItem _ _ _ _) htf (collection_oneItem _ _ _ _) rfl rfl (given_oneTurn _)).2 hplain⟩

/-- A prompt with the line end of another system does not survive one save. -/
theorem carriage_return_lost : ¬ ∀ R', Relation.ReflTransGen
    (Resaved sampleHost sampleJson ["root"] "agent_threads" "root:GoalManager")
      ((store.save sampleHost sampleJson (oneThread "a\r\nb")).after .bare) R' →
    Survives sampleHost ["root"] "agent_threads" "root:GoalManager" "turns" turnFields
      [oneTurn "a\r\nb"] R' := by
  intro h
  have hdisk : OnDisk sampleHost sampleJson "agent_threads" "root:GoalManager" "turns" turnFields
      [oneTurn "a\r\nb"]
      ((store.save sampleHost sampleJson (oneThread "a\r\nb")).after .bare) :=
    onDisk_save .bare (keyed_oneThread _) (saved_oneItem _ _ _ _) rfl (collection_oneItem _ _ _ _)
      rfl (.inl ⟨[oneTurn "a\r\nb"], rfl,
        List.forall₂_same.2 fun g hg => given_oneTurn "a\r\nb" g hg⟩)
  have hplain := (hdisk.survives_iff rfl ["root"]).1 (h _ .refl)
  exact hplain _ List.mem_cons_self ("prompt", "prompt_path") (by simp [turnFields]) _ rfl
    (by decide)

end Aize
