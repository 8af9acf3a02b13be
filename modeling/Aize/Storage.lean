/-
  The state files of a Store (`kernel/storage.py`, `SplitStateStorage`): items and
  values in JSON files, a SessionLog per Session, transcript texts as artifacts.

  A save is a `Durable` computation on the data directory, write by write in the
  order of the source; a load reads the files back. An item file is found by the
  digest of its key, an artifact by the digest of its text; `Host` is what the
  code takes from Python for this. A JSON object lists its fields in key order,
  as files do, so that equal objects are equal lists.
-/
import Mathlib.Data.List.Basic
import Aize.SessionFiles
import Aize.Lib.Durable
import Aize.Lib.Digits

namespace Aize

open Except (require)

/-! ## JSON -/

/-- A JSON value. -/
inductive Value where
  | null
  | bool (b : Bool)
  | num (n : ℤ)
  | str (s : String)
  | arr (items : List Value)
  | obj (fields : List (String × Value))

/-- The fields of an object, in key order. -/
abbrev Fields : Type := List (String × Value)

namespace Fields

def get? (r : Fields) (field : String) : Option Value := r.lookup field

def erase (r : Fields) (field : String) : Fields := r.filter (·.1 ≠ field)

/-- `record[field] = value` -/
def set (field : String) (value : Value) : Fields → Fields
  | [] => [(field, value)]
  | (k, v) :: r =>
    if field = k then (field, value) :: r
    else if field < k then (field, value) :: (k, v) :: r
    else (k, v) :: set field value r

/-- `record.setdefault(field, value)` -/
def setDefault (field : String) (value : Value) (r : Fields) : Fields :=
  if (r.get? field).isSome then r else r.set field value

theorem get?_set (r : Fields) (field : String) (value : Value) (k : String) :
    (r.set field value).get? k = if k = field then some value else r.get? k := by
  induction r with
  | nil =>
    by_cases h : k = field
    · simp [set, get?, h]
    · simp [set, get?, List.lookup_cons, beq_eq_false_iff_ne.2 h, h]
  | cons e r ih =>
    obtain ⟨k', v⟩ := e
    unfold get? at ih ⊢
    unfold set
    by_cases hk : k = field
    · subst hk
      rw [if_pos rfl] at ih ⊢
      split_ifs with h₁ h₂
      · simp
      · simp
      · rw [List.lookup_cons, beq_eq_false_iff_ne.2 h₁]
        exact ih
    · rw [if_neg hk] at ih ⊢
      split_ifs with h₁ h₂
      · subst h₁
        simp [List.lookup_cons, beq_eq_false_iff_ne.2 hk]
      · rw [List.lookup_cons, beq_eq_false_iff_ne.2 hk]
      · rw [List.lookup_cons, List.lookup_cons]
        cases k == k' with
        | true => rfl
        | false => exact ih

theorem get?_erase (r : Fields) (field k : String) :
    (r.erase field).get? k = if k = field then none else r.get? k := by
  induction r with
  | nil => simp [erase, get?]
  | cons e r ih =>
    obtain ⟨k', v⟩ := e
    unfold get? erase at ih ⊢
    rw [List.filter_cons]
    by_cases hk : k' = field
    · subst hk
      simp only [ne_eq, not_true_eq_false, decide_false, Bool.false_eq_true, if_false]
      rw [ih, List.lookup_cons]
      split_ifs with h
      · rfl
      · rw [beq_eq_false_iff_ne.2 h]
    · simp only [ne_eq, hk, not_false_eq_true, decide_true, if_true, List.lookup_cons]
      cases hkk : k == k' with
      | true =>
        obtain rfl := beq_iff_eq.1 hkk
        rw [if_neg hk]
      | false => exact ih

theorem get?_setDefault (r : Fields) (field : String) (value : Value) (k : String) :
    (r.setDefault field value).get? k =
      if k = field then some ((r.get? field).getD value) else r.get? k := by
  unfold setDefault
  cases h : r.get? field with
  | none => rw [if_neg (by simp), get?_set]; rfl
  | some v =>
    rw [if_pos (by simp)]
    split_ifs with hk
    · rw [hk, h]; rfl
    · rfl

end Fields

/-- What the code takes from the Python library. -/
structure Host where
  /-- `hashlib.sha256(...).hexdigest()`, taken to have no collisions -/
  digest : String → String
  digest_injective : Function.Injective digest
  two_le_digest : ∀ s, 2 ≤ (digest s).toList.length
  digest_plain : ∀ s, ∀ c ∈ (digest s).toList, c ≠ '/' ∧ c ≠ '.'
  /-- `str` -/
  str : Value → String
  str_str : ∀ s, str (.str s) = s

def Value.isNull : Value → Bool
  | .null => true
  | _ => false

/-- `isinstance(value, dict)` -/
def Value.isObject : Value → Bool
  | .obj _ => true
  | _ => false

/-- Whether Python takes a value for true. -/
def Value.truthy : Value → Bool
  | .null => false
  | .bool b => b
  | .num n => n ≠ 0
  | .str s => s ≠ ""
  | .arr items => !items.isEmpty
  | .obj fields => !fields.isEmpty

/-- `str(record.get(field) or "")` -/
def Host.text (H : Host) (record : Fields) (field : String) : String :=
  match record.get? field with
  | some v => if v.truthy then H.str v else ""
  | none => ""

/-! ## Files -/

/-- `STATE_VERSION` -/
def stateVersion : ℤ := 1

/-- `STATE_ITEM_COLLECTIONS`: the item collections with their identity fields. -/
def itemCollections : List (String × String) :=
  [("users", "username"), ("units", "unit_id"), ("sessions", "session_id"), ("goals", "goal_id"),
    ("agent_profiles", "role"), ("agent_threads", "thread_id"), ("dispatch_runs", "run_id")]

/-- `STATE_VALUE_COLLECTIONS`, with their defaults. -/
def valueCollections : List (String × Value) :=
  [("session_edges", .arr []), ("dispatch_readiness", .arr []), ("runtime_settings", .obj []),
    ("endpoint_cursors", .obj [])]

/-- The contents of a data directory. -/
structure DataDir where
  /-- the Session directories, by Session -/
  sessions : Dict String SessionDir
  /-- the item files, by directory and name -/
  items : Dict String (Dict String Value)
  /-- the value files, by path -/
  values : Dict String Value
  /-- the texts below `artifacts`, by path -/
  artifacts : Dict (List String) String

namespace DataDir

def empty : DataDir := ⟨∅, ∅, ∅, ∅⟩

def session (d : DataDir) (sessionId : String) : SessionDir :=
  (d.sessions.lookup sessionId).getD .empty

def setSession (sessionId : String) (dir : SessionDir) (d : DataDir) : DataDir :=
  { d with sessions := d.sessions.insert sessionId dir }

/-- The item files of a directory. -/
def files (d : DataDir) (dir : String) : Dict String Value := (d.items.lookup dir).getD ∅

def setFiles (dir : String) (files : Dict String Value) (d : DataDir) : DataDir :=
  { d with items := d.items.insert dir files }

def setValue (path : String) (value : Value) (d : DataDir) : DataDir :=
  { d with values := d.values.insert path value }

def setArtifact (path : List String) (text : String) (d : DataDir) : DataDir :=
  { d with artifacts := d.artifacts.insert path text }

theorem session_setSession (d : DataDir) (sid sid' : String) (dir : SessionDir) :
    (d.setSession sid dir).session sid' = if sid' = sid then dir else d.session sid' := by
  unfold session setSession
  simp only [Dict.lookup_insert_of]
  split_ifs <;> rfl

theorem files_setFiles (d : DataDir) (dir dir' : String) (fs : Dict String Value) :
    (d.setFiles dir fs).files dir' = if dir' = dir then fs else d.files dir' := by
  unfold files setFiles
  simp only [Dict.lookup_insert_of]
  split_ifs <;> rfl

@[simp] theorem files_setSession (d : DataDir) (sid : String) (dir : SessionDir) (name : String) :
    (d.setSession sid dir).files name = d.files name := rfl

@[simp] theorem session_setFiles (d : DataDir) (dir : String) (fs : Dict String Value)
    (sid : String) : (d.setFiles dir fs).session sid = d.session sid := rfl

end DataDir

/-- A storage object: the name of its data directory and its directory aliases. -/
structure SplitStateStorage where
  dataName : String
  collectionDirNames : List (String × String)

namespace SplitStateStorage

/-- `_item_collection_root`, below the data directory. -/
def itemCollectionRoot (st : SplitStateStorage) (name : String) : String :=
  (if name ∈ ["agent_threads", "dispatch_runs"] then "runtime/" else "metadata/") ++
    (st.collectionDirNames.lookup name).getD name

end SplitStateStorage

/-- `_value_collection_path`, below the data directory. -/
def valueCollectionPath (name : String) : String :=
  (if name ∈ ["dispatch_readiness", "endpoint_cursors"] then "runtime/" else "metadata/") ++
    name ++ ".json"

/-- A state in memory, as a save gets it. A collection or a log that is not an object or a
    list is `none`. -/
structure Snapshot (E : Type) where
  version : ℤ
  createdAt : String
  messages : List Value
  sessionLogs : Dict String (Option (List E))
  items : Dict String (Option (Dict String Value))
  values : Dict String Value

/-- The collection that a save writes. -/
def Snapshot.collection {E : Type} (state : Snapshot E) (name : String) :
    Option (Dict String Value) :=
  (state.items.lookup name).getD (some ∅)

/-- `manifest.json`. The data directory is of version 2, the generation of version 1. -/
structure Manifest where
  storageVersion : ℤ
  stateVersion : ℤ
  createdAt : String
  dataDir : String := ""
  generation : String := ""
  deriving DecidableEq, Repr

/-- A generation of the first format: `snapshot.json`, with the names of its collections,
    and the files of the collections. -/
structure Generation (E : Type) where
  collections : Value
  messages : Option (List Value)
  sessionLogs : Option (Dict String (Option (List E)))
  items : Dict String (Option (Dict String Value))
  values : Dict String Value

/-- The state root. -/
structure Root (E : Type) where
  manifest : Option Manifest
  /-- `manifest.v1.json` -/
  manifestV1 : Option Manifest
  /-- `state.json` -/
  legacyState : Option (Snapshot E)
  /-- the renamed `state.json` files -/
  backups : List (Snapshot E)
  generations : Dict String (Generation E)
  /-- the data directories, by name -/
  dataDirs : Dict String DataDir
  /-- other files that a recorded path may name -/
  texts : Dict (List String) String

namespace Root

variable {E : Type}

def data (R : Root E) (name : String) : DataDir := (R.dataDirs.lookup name).getD .empty

def setData (name : String) (d : DataDir) (R : Root E) : Root E :=
  { R with dataDirs := R.dataDirs.insert name d }

theorem data_setData (R : Root E) (name name' : String) (d : DataDir) :
    (R.setData name d).data name' = if name' = name then d else R.data name' := by
  unfold data setData
  simp only [Dict.lookup_insert_of]
  split_ifs <;> rfl

end Root

/-- The path of an item file in its directory. -/
def Host.itemFile (H : Host) (key : String) : String := H.digest key ++ ".json"

/-- The path of the artifact with this digest, below `artifacts`. -/
def artifactPath (digest : String) : List String :=
  [String.ofList (digest.toList.take 2), digest ++ ".txt"]

/-- A path as a string. -/
def joinPath (path : List String) : String :=
  String.ofList (List.intercalate ['/'] (path.map String.toList))

/-! ## Appending -/

namespace Write

/-- The bytes of a batch, then the index. -/
def durably (w : Write) : Durable Err SessionDir Unit := do
  .steps fun d => (List.range (w.payload.length + 1)).map (w.writeBytes · d)
  .write fun d => { d with index := some w.index }

theorem after_durably (w : Write) (d : SessionDir) : w.durably.after d = w.commit d := by
  unfold durably
  rw [Durable.after_bind_ok (Durable.result_steps ..), Durable.after_write,
    Durable.after_steps (a := w.writeBytes w.payload.length d)]
  · rfl
  · rw [List.range_succ, List.map_append]
    rfl

end Write

namespace Json

variable {E : Type} (J : Json E)

/-- `_recover_session_log`, write by write: segments are cut one after the other, then the
    index is replaced. -/
def recoverDurably (sessionId : String) (full : Bool) : Durable Err SessionDir LogIndex := fun d =>
  match if full then none else trustedIndex d with
  | some index => ([], .ok index)
  | none =>
    ((List.range (d.segmentPaths.length + 1)).map
        (fun k => (J.indexSegments sessionId true (d.segmentPaths.take k) d {}).1) ++
      [(J.recoverSessionLog sessionId full d).1], (J.recoverSessionLog sessionId full d).2)

/-- `append_session_log_entries`, write by write. -/
def appendDurably (sessionId : String) (entries : List E) : Durable Err SessionDir Unit :=
  if entries.isEmpty then pure ()
  else do
    let index ← J.recoverDurably sessionId false
    let planned ← .read (J.planWrite sessionId entries index)
    match planned with
    | .error e => .throw e
    | .ok none => pure ()
    | .ok (some w) => w.durably

theorem result_recoverDurably (sessionId : String) (full : Bool) (d : SessionDir) :
    (J.recoverDurably sessionId full).result d = (J.recoverSessionLog sessionId full d).2 := by
  cases h : (if full = true then none else trustedIndex d) with
  | none => simp only [recoverDurably, Durable.result, h]
  | some index => simp only [recoverDurably, Durable.result, recoverSessionLog, h]

theorem after_recoverDurably (sessionId : String) (full : Bool) (d : SessionDir) :
    (J.recoverDurably sessionId full).after d = (J.recoverSessionLog sessionId full d).1 := by
  cases h : (if full = true then none else trustedIndex d) with
  | none => simp [recoverDurably, Durable.after, Durable.lastOf, h]
  | some index => simp [recoverDurably, Durable.after, Durable.lastOf, recoverSessionLog, h]

/-- **An append that is not killed.** -/
theorem appendDurably_eq (sessionId : String) (entries : List E) (d : SessionDir) :
    ((J.appendDurably sessionId entries).after d, (J.appendDurably sessionId entries).result d) =
      J.appendSessionLogEntries sessionId entries d := by
  unfold appendDurably appendSessionLogEntries prepareAppend
  by_cases hnil : entries.isEmpty = true
  · rw [if_pos hnil, if_pos hnil]
    rfl
  rw [if_neg hnil, if_neg hnil]
  have hr := J.result_recoverDurably sessionId false d
  have ha := J.after_recoverDurably sessionId false d
  cases hrec : J.recoverSessionLog sessionId false d with
  | mk d₁ r =>
    rw [hrec] at hr ha
    cases r with
    | error e => rw [Durable.after_bind_error hr, Durable.result_bind_error hr, ha]
    | ok index =>
      rw [Durable.after_result_bind_ok hr, ha, Durable.after_result_bind_ok (Durable.result_read ..),
        Durable.after_read]
      dsimp only
      cases hp : J.planWrite sessionId entries index d₁ with
      | error e => rfl
      | ok planned =>
        cases planned with
        | none => rfl
        | some w => exact Prod.ext (w.after_durably d₁) rfl

theorem result_appendDurably (sessionId : String) (entries : List E) (d : SessionDir) :
    (J.appendDurably sessionId entries).result d =
      (J.appendSessionLogEntries sessionId entries d).2 :=
  (Prod.ext_iff.1 (J.appendDurably_eq sessionId entries d)).2

theorem after_appendDurably (sessionId : String) (entries : List E) (d : SessionDir) :
    (J.appendDurably sessionId entries).after d =
      (J.appendSessionLogEntries sessionId entries d).1 :=
  (Prod.ext_iff.1 (J.appendDurably_eq sessionId entries d)).1

end Json

/-! ## Saving -/

/-- The transcript texts of the items of a collection: the field of the records that have
    them, and each text with its path. -/
def transcriptFields : String → Option (String × List (String × String))
  | "agent_threads" => some ("turns", [("prompt", "prompt_path"), ("result", "result_path")])
  | "dispatch_runs" => some ("steps", [("output", "output_path")])
  | _ => none

namespace SplitStateStorage

variable {E : Type} (H : Host) (J : Json E) (st : SplitStateStorage)

/-- The path of an artifact, as it is recorded: relative to the state root. -/
def relativePath (digest : String) : String :=
  joinPath (st.dataName :: "artifacts" :: artifactPath digest)

/-- `_externalize_field` -/
def externalizeField (field pathField : String) (record : Fields) : Durable Err DataDir Fields := do
  let value := (record.get? field).getD .null
  let record := record.erase field
  if value.isNull then pure record
  else
    let text := H.str value
    let path := artifactPath (H.digest text)
    let present ← .read fun d => decide (path ∈ d.artifacts)
    if present then pure () else .write (DataDir.setArtifact path text)
    pure ((record.set pathField (.str (st.relativePath (H.digest text)))).set (field ++ "_chars")
      (.num text.length))

/-- All texts of a turn or step. -/
def externalizeRecord : List (String × String) → Value → Durable Err DataDir Value
  | (field, pathField) :: fields, .obj record => do
    let record ← st.externalizeField H field pathField record
    externalizeRecord fields (.obj record)
  | _, v => pure v

/-- All texts of an item. -/
def externalizeItem (name : String) (item : Fields) : Durable Err DataDir Fields :=
  match transcriptFields name with
  | none => pure item
  | some (list, fields) =>
    match item.get? list with
    | some (.arr records) => do
      let records ← Durable.traverse (st.externalizeRecord H fields) records
      return item.set list (.arr records)
    | _ => pure item

/-- One item of `_save_item_collection`. A file that does not change is not written; the
    write would change nothing. -/
def saveItem (name identity key : String) (item : Value) : Durable Err DataDir Unit :=
  match item with
  | .obj item => do
    let persisted ← st.externalizeItem H name (Fields.setDefault identity (.str key) item)
    .write fun d => d.setFiles (st.itemCollectionRoot name)
      ((d.files (st.itemCollectionRoot name)).insert (H.itemFile key) (.obj persisted))
  | _ => .throw (.storeError s!"state item {name}:{key} must be an object")

/-- The end of `_save_item_collection`: remove the files that belong to no item. -/
def unlinkStale (name : String) (collection : Dict String Value) : Durable Err DataDir Unit := do
  let root := st.itemCollectionRoot name
  let paths ← .read fun d => (d.files root).keys
  Durable.forEach (fun path =>
    if path ∈ collection.keys.map H.itemFile then pure ()
    else .write fun d => d.setFiles root ((d.files root).erase path)) paths

/-- `_save_item_collection` -/
def saveItemCollection (name identity : String) (collection : Dict String Value) :
    Durable Err DataDir Unit := do
  Durable.forEach (fun e => st.saveItem H name identity e.1 e.2) collection.entries
  st.unlinkStale H name collection

/-- One log of a save. -/
def saveLog (sessionId : String) : Option (List E) → Durable Err DataDir Unit
  | some entries => .zoom (·.session sessionId) (DataDir.setSession sessionId)
      (J.appendDurably sessionId entries)
  | none => pure ()

/-- One item collection of a save. -/
def saveItems (state : Snapshot E) (name identity : String) : Durable Err DataDir Unit :=
  match state.collection name with
  | some collection => st.saveItemCollection H name identity collection
  | none => .throw (.storeError s!"state collection {name} must be an object")

/-- One value collection of a save. -/
def saveValue (state : Snapshot E) (name : String) (default : Value) :
    Durable Err DataDir Unit :=
  .write (DataDir.setValue (valueCollectionPath name) ((state.values.lookup name).getD default))

def saveLogs (state : Snapshot E) : Durable Err DataDir Unit :=
  Durable.forEach (fun e => saveLog J e.1 e.2) state.sessionLogs.entries

def saveAllItems (state : Snapshot E) : Durable Err DataDir Unit :=
  Durable.forEach (fun c => st.saveItems H state c.1 c.2) itemCollections

def saveValues (state : Snapshot E) : Durable Err DataDir Unit :=
  Durable.forEach (fun v => saveValue state v.1 v.2) valueCollections

/-- What `save` does in the data directory. -/
def saveData (state : Snapshot E) : Durable Err DataDir Unit := do
  saveLogs J state
  st.saveAllItems H state
  saveValues state

/-- `_prepare_data_directories` -/
def prepareDataDirectories : Durable Err (Root E) Unit :=
  .write fun R => R.setData st.dataName (R.data st.dataName)

/-- `_write_manifest` -/
def writeManifest (createdAt : String) : Durable Err (Root E) Unit :=
  .write fun R => { R with
    manifest := some { storageVersion := 2, stateVersion, createdAt, dataDir := st.dataName } }

/-- `save` -/
def save (state : Snapshot E) : Durable Err (Root E) Unit := do
  .require (state.version = stateVersion)
    (.storeError s!"unsupported state version: {state.version}")
  st.prepareDataDirectories
  .zoom (·.data st.dataName) (Root.setData st.dataName) (st.saveData H J state)
  let initialized ← .read fun R => R.manifest.isSome
  if initialized then pure () else st.writeManifest state.createdAt

/-! ## Loading -/

/-- `_load_item_collection` -/
def loadItemCollection (name identity : String) (d : DataDir) :
    Except Err (Dict String Value) :=
  let files := d.files (st.itemCollectionRoot name)
  (files.keys.mergeSort (· ≤ ·)).foldlM (fun collection path =>
    match (files.lookup path).getD .null with
    | .obj item => do
      let key := H.text item identity
      require (key ≠ "") (.storeError s!"state item has no {identity}: {path}")
      return collection.insert key (.obj item)
    | _ => .error (.storeError s!"state file must contain an object: {path}")) ∅

/-- The value of a collection that a load reads. -/
def loadValue (name : String) (default : Value) (d : DataDir) : Value :=
  (d.values.lookup (valueCollectionPath name)).getD default

/-- The collections of `load`. -/
def loadData (version : ℤ) (createdAt : String) (d : DataDir) : Except Err (Snapshot E) := do
  let items ← itemCollections.foldlM (fun items (name, identity) => do
    let collection ← st.loadItemCollection H name identity d
    return items.insert name (some collection)) ∅
  return {
    version
    createdAt
    messages := []
    sessionLogs := ∅
    items
    values := valueCollections.foldl (fun values (name, default) =>
      values.insert name (loadValue name default d)) ∅ }

/-- `load` -/
def load (R : Root E) : Except Err (Snapshot E) := do
  let some manifest := R.manifest | .error (.storeError "state file is missing: manifest.json")
  require (manifest.storageVersion = 2)
    (.storeError s!"unsupported storage version: {manifest.storageVersion}")
  require (manifest.stateVersion = stateVersion)
    (.storeError s!"unsupported state version: {manifest.stateVersion}")
  st.loadData H manifest.stateVersion manifest.createdAt (R.data st.dataName)

/-- `read_session_log` -/
def readLog (sessionId : String) (R : Root E) : Except Err (List E) :=
  J.readSessionLog sessionId none none ((R.data st.dataName).session sessionId)

end SplitStateStorage

/-- The storage object of a Store: users are in a directory of another name. -/
def store : SplitStateStorage where
  dataName := "store"
  collectionDirNames := [("users", "accounts")]

/-! ## Texts -/

/-- The text of a field of a record, if it has one. -/
def Host.fieldText (H : Host) (record : Fields) (field : String) : Option String :=
  match record.get? field with
  | some v => if v.isNull then none else some (H.str v)
  | none => none

/-! ## A host -/

/-- Blocks of one length can be told apart. -/
theorem flatMap_injective {α : Type} {f : α → List Char} {n : ℕ} (hf : Function.Injective f)
    (hlen : ∀ a, (f a).length = n) (hn : 0 < n) :
    Function.Injective fun l : List α => l.flatMap f := by
  intro l
  induction l with
  | nil =>
    intro l' h
    cases l' with
    | nil => rfl
    | cons b l' =>
      have := congrArg List.length h
      simp only [List.flatMap_nil, List.length_nil, List.flatMap_cons, List.length_append, hlen]
        at this
      omega
  | cons a l ih =>
    intro l' h
    cases l' with
    | nil =>
      have := congrArg List.length h
      simp only [List.flatMap_nil, List.length_nil, List.flatMap_cons, List.length_append, hlen]
        at this
      omega
    | cons b l' =>
      simp only [List.flatMap_cons] at h
      obtain ⟨hab, hl⟩ := List.append_inj h (by rw [hlen, hlen])
      rw [hf hab, ih hl]

/-- A host whose digest spells out the text. -/
def sampleHost : Host where
  digest s := String.ofList (['0', '0'] ++ s.toList.flatMap (Digits.zeroPadded 8 ·.toNat))
  digest_injective s s' h := by
    have hchars : Function.Injective fun c : Char => Digits.zeroPadded 8 c.toNat := fun c c' h =>
      Char.toNat_inj.1 (Digits.zeroPadded_injective 8 h)
    have hlen : ∀ c : Char, (Digits.zeroPadded 8 c.toNat).length = 8 := fun c =>
      Digits.length_zeroPadded (by decide) (by
        have : c.toNat < 1114112 := by
          rcases c.valid with h | ⟨-, h⟩
          · exact lt_trans h (by decide)
          · exact h
        omega)
    exact String.toList_inj.1 (flatMap_injective hchars hlen (by decide)
      (List.append_cancel_left (String.ofList_injective h)))
  two_le_digest s := by simp
  digest_plain s c hc := by
    have hdigit : c.isDigit = true := by
      rw [String.toList_ofList] at hc
      rcases List.mem_append.1 hc with h | h
      · rcases List.mem_cons.1 h with rfl | h
        · rfl
        · rw [List.mem_singleton.1 h]
          rfl
      · obtain ⟨d, -, hd⟩ := List.mem_flatMap.1 h
        exact Digits.numeral_zeroPadded 8 _ c hd
    constructor
    · rintro rfl
      cases hdigit
    · rintro rfl
      cases hdigit
  str
    | .str s => s
    | .bool true => "True"
    | .bool false => "False"
    | .num n => toString n
    | _ => "None"
  str_str _ := rfl

end Aize
