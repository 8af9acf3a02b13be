/-
  Migration of a legacy state root to the current format (`kernel/storage.py`,
  `goal/store.py`).

  A legacy state is either one JSON file, `state.json`, or a generation: a
  manifest of version 1 that names a directory of collections. Either is built
  into a staging directory, which is then renamed to the data directory; the
  manifest and the backup of the legacy data follow. `init` decides from the
  manifest alone what there is to do.

  The staging directory is filled by a second storage object, made without the
  directory aliases of the first.
-/
import Aize.Saves

namespace Aize

open Except (require)

/-! ## Paths and texts -/

/-- `(root / path).resolve()`, for a root at `location`: the path below the root. -/
def resolvePath (location : List String) (path : String) : Except Err (List String) :=
  let components := ((path.toList.splitOn '/').map String.ofList).filter fun c => c ≠ "" ∧ c ≠ "."
  let start := if path.toList.head? = some '/' then [] else location
  let full := components.foldl (fun stack c => if c = ".." then stack.dropLast else stack ++ [c]) start
  if location <+: full then .ok (full.drop location.length)
  else .error (.storeError s!"artifact path escapes state root: {path}")

/-- Universal newlines: what a file opened in text mode reads for each line end. -/
def translateLineEnds : List Char → List Char
  | '\r' :: '\n' :: cs => '\n' :: translateLineEnds cs
  | '\r' :: cs => '\n' :: translateLineEnds cs
  | c :: cs => c :: translateLineEnds cs
  | [] => []

def universalNewlines (text : String) : String := String.ofList (translateLineEnds text.toList)

namespace Root

variable {E : Type} (R : Root E)

/-- The artifact at a path below the root. -/
def readArtifact : List String → Option String
  | name :: "artifacts" :: path => (R.dataDirs.lookup name).bind fun d => d.artifacts.lookup path
  | _ => none

/-- The text at a path below the root. -/
def readText (path : List String) : Option String := R.texts.lookup path <|> R.readArtifact path

variable (location : List String)

/-- `_hydrate_field`. `Path.read_text` translates the line ends of the file. -/
def hydrateField (field pathField : String) (record : Fields) : Except Err Fields :=
  if (record.get? field).isSome then .ok record
  else
    match record.get? pathField with
    | some (.str path) =>
      if path = "" then .ok record
      else do
        let resolved ← resolvePath location path
        match R.readText resolved with
        | some text => return record.set field (.str (universalNewlines text))
        | none => .error (.storeError s!"missing state artifact: {path}")
    | _ => .ok record

/-- All texts of a turn or step. -/
def hydrateRecord (fields : List (String × String)) : Value → Except Err Value
  | .obj record => do
    let record ← fields.foldlM (fun record f => R.hydrateField location f.1 f.2 record) record
    return .obj record
  | v => .ok v

/-- All texts of an item, as `hydrate_agent_threads` and `hydrate_dispatch_runs` read them. -/
def hydrateItem (name : String) : Value → Except Err Value
  | .obj item =>
    match transcriptFields name with
    | none => .ok (.obj item)
    | some (list, fields) =>
      match Fields.get? item list with
      | some (.arr records) => do
        let records ← records.mapM (R.hydrateRecord location fields)
        return .obj (Fields.set list (.arr records) item)
      | _ => .ok (.obj item)
  | v => .ok v

end Root

/-! ## Legacy states -/

/-- The JSON codec of log entries, with the Messages that they refer to. -/
structure LogJson (E : Type) extends Json E where
  /-- `str(entry.get("message_id") or "")` -/
  messageId : E → String
  /-- `entry["message"] = dict(message)` -/
  withMessage : E → Fields → E
  seq_withMessage (e : E) (m : Fields) : seq (withMessage e m) = seq e
  sessionId_withMessage (e : E) (m : Fields) : sessionId (withMessage e m) = sessionId e
  kind_withMessage (e : E) (m : Fields) : kind (withMessage e m) = kind e

namespace LogJson

variable {E : Type} (H : Host) (J : LogJson E)

/-- The Messages of a legacy state by id. -/
def messagesById (messages : List Value) : Dict String Fields :=
  messages.foldl (fun messages message =>
    match message with
    | .obj message => messages.insert (H.text message "message_id") message
    | _ => messages) ∅

/-- An entry of a legacy log, with its Message. -/
def embedded (messages : Dict String Fields) (entry : E) : E :=
  if J.isMessage entry then
    match messages.lookup (J.messageId entry) with
    | some message => J.withMessage entry message
    | none => entry
  else entry

/-- `_embed_legacy_messages` -/
def embedLegacyMessages (state : Snapshot E) : Snapshot E :=
  { state with
    sessionLogs := state.sessionLogs.mapVals fun _ entries =>
      entries.map (List.map (J.embedded (messagesById H state.messages))) }

end LogJson

namespace Root

variable {E : Type} (R : Root E)

/-- One collection of `_load_generation_state`. -/
def readCollection (generation : Generation E) (state : Snapshot E) (name : String) :
    Except Err (Snapshot E) :=
  let missing : Err := .storeError s!"state file is missing: {name}.json"
  if name = "messages" then
    match generation.messages with
    | some messages => .ok { state with messages }
    | none => .error missing
  else if name = "session_logs" then
    match generation.sessionLogs with
    | some sessionLogs => .ok { state with sessionLogs }
    | none => .error missing
  else if name ∈ itemCollections.map Prod.fst then
    match generation.items.lookup name with
    | some items => .ok { state with items := state.items.insert name items }
    | none => .error missing
  else
    match generation.values.lookup name with
    | some value => .ok { state with values := state.values.insert name value }
    | none => .error missing

/-- `_load_generation_state` -/
def loadGenerationState (manifest : Manifest) : Except Err (Snapshot E) := do
  require (manifest.stateVersion = stateVersion)
    (.storeError s!"unsupported state version: {manifest.stateVersion}")
  match R.generations.lookup manifest.generation with
  | none => .error (.storeError "state file is missing: snapshot.json")
  | some generation =>
    match generation.collections with
    | .arr names =>
      names.foldlM (fun state name =>
        match name with
        | .str name => readCollection generation state name
        | _ => .error (.storeError "legacy collection name must be a string"))
        { version := manifest.stateVersion, createdAt := manifest.createdAt, messages := []
          sessionLogs := ∅, items := ∅, values := ∅ }
    | _ => .error (.storeError "legacy snapshot collections must be an array")

/-- One collection of `_hydrate_legacy_transcripts`: its items by their identities. -/
def hydrateCollection (H : Host) (location : List String) (name identity : String)
    (state : Snapshot E) : Except Err (Snapshot E) :=
  match state.items.lookup name with
  | some (some collection) => do
    let hydrated ← collection.vals.mapM (R.hydrateItem location name)
    return { state with items := state.items.insert name (some (hydrated.foldl (fun items item =>
      match item with
      | .obj fields => items.insert (H.text fields identity) item
      | _ => items) ∅)) }
  | _ => .ok state

/-- `_hydrate_legacy_transcripts` -/
def hydrateLegacyTranscripts (H : Host) (location : List String) (state : Snapshot E) :
    Except Err (Snapshot E) := do
  let state ← R.hydrateCollection H location "agent_threads" "thread_id" state
  R.hydrateCollection H location "dispatch_runs" "run_id" state

end Root

/-! ## Writing a whole log -/

namespace Json

variable {E : Type} (J : Json E)

/-- How `_SessionDirectoryWriter` spreads records over segments: `current` is the segment that
    it fills. -/
def splitSegments (current : List E) : List E → List (List E)
  | [] => if current.isEmpty then [] else [current]
  | e :: es =>
    if 0 < (J.frames current).length ∧
        maxSegmentBytes < (J.frames current).length + (J.frame e).length then
      current :: splitSegments [e] es
    else splitSegments (current ++ [e]) es

/-- The number in the name of a segment. -/
def startSeq : List E → ℤ
  | [] => 0
  | e :: _ => J.seq e

/-- `_SessionDirectoryWriter.write` -/
def writeDirectory (records : List E) : SessionDir :=
  let segments := J.splitSegments [] records
  { files := segments.foldl (fun files segment =>
      files.insert (segmentPath (J.startSeq segment)) (J.frames segment)) ∅
    index := some {
      sessionId := (records.head?.map J.sessionId).getD ""
      latestSeq := (records.getLast?.map J.seq).getD 0
      recordCount := records.length
      messageCount := records.countP J.isMessage
      segments := segments.map fun segment =>
        { path := segmentPath (J.startSeq segment)
          startSeq := J.startSeq segment
          endSeq := (segment.getLast?.map J.seq).getD 0
          records := segment.length
          bytes := (J.frames segment).length } } }

end Json

/-! ## Migration -/

/-- The storage object that a migration writes with. -/
def staging (id : String) : SplitStateStorage where
  dataName := "store.migrating-" ++ id
  collectionDirNames := []

namespace SplitStateStorage

variable {E : Type} (H : Host) (J : LogJson E) (location : List String) (st : SplitStateStorage)

/-- One log of `_install_migrated_state`. The Session directory is built under a hidden name
    and appears as a whole. -/
def replaceLog (sessionId : String) : Option (List E) → Durable Err DataDir Unit
  | some (e :: es) => .write (DataDir.setSession sessionId (J.writeDirectory (e :: es)))
  | _ => pure ()

def replaceLogs (state : Snapshot E) : Durable Err DataDir Unit :=
  Durable.forEach (fun e => replaceLog J e.1 e.2) state.sessionLogs.entries

/-- `staging.data_root.replace(self.data_root)` -/
def installData (name : String) : Durable Err (Root E) Unit :=
  .write fun R => { R with
    dataDirs := (R.dataDirs.erase name).insert st.dataName (R.data name) }

/-- The manifest of a generation is kept as `manifest.v1.json`. -/
def writeBackup : Option Manifest → Durable Err (Root E) Unit
  | some manifest => .write fun R => { R with manifestV1 := some manifest }
  | none => pure ()

/-- `_install_migrated_state`, with `id` for the name of the staging directory. -/
def installMigratedState (id : String) (state : Snapshot E) (backup : Option Manifest) :
    Durable Err (Root E) Unit := do
  (staging id).prepareDataDirectories
  .zoom (·.data (staging id).dataName) (Root.setData (staging id).dataName) (replaceLogs J state)
  (staging id).save H J.toJson state
  let present ← .read fun R => decide (st.dataName ∈ R.dataDirs)
  .require (present = false) (.storeError s!"target storage already exists: {st.dataName}")
  st.installData (staging id).dataName
  writeBackup backup
  st.writeManifest state.createdAt

/-- `ensure_current_format`, for a root with a manifest. -/
def ensureCurrentFormat (id : String) (manifest : Manifest) : Durable Err (Root E) Unit :=
  if manifest.storageVersion = 2 then pure ()
  else do
    .require (manifest.storageVersion = 1)
      (.storeError s!"unsupported storage version: {manifest.storageVersion}")
    let loaded ← .read fun R => do
      let state ← R.loadGenerationState manifest
      R.hydrateLegacyTranscripts H location state
    let state ← .ofExcept loaded
    st.installMigratedState H J id (J.embedLegacyMessages H state) (some manifest)

/-- `migrate_legacy_state_json` -/
def migrateLegacyStateJson (id : String) (state : Snapshot E) : Durable Err (Root E) Unit := do
  .require (state.version = stateVersion)
    (.storeError s!"unsupported legacy state version: {state.version}")
  st.installMigratedState H J id (J.embedLegacyMessages H state) none
  .write fun R => { R with legacyState := none, backups := R.backups ++ [state] }

/-- What `init` does to bring a root to the current format. -/
def migrate (id : String) : Durable Err (Root E) Unit := do
  let R ← .read fun R => R
  match R.manifest, R.legacyState with
  | some manifest, _ => st.ensureCurrentFormat H J location id manifest
  | none, some state => st.migrateLegacyStateJson H J id state
  | none, none => pure ()

/-- The logs of `recover_all_session_logs`: those with an index. -/
def recoverSessions : Durable Err (Dict String SessionDir) Unit := do
  let indexed ← .read fun sessions => sessions.vals.filterMap fun dir => dir.index
  Durable.forEach (fun index =>
    if index.sessionId = "" then pure ()
    else .zoom (fun sessions => (sessions.lookup index.sessionId).getD .empty)
      (fun dir sessions => sessions.insert index.sessionId dir) (do
        let _ ← J.toJson.recoverDurably index.sessionId true
        pure ())) indexed

/-- `recover_all_session_logs` -/
def recoverAllSessionLogs : Durable Err DataDir Unit :=
  .zoom (·.sessions) (fun sessions d => { d with sessions }) (recoverSessions J)

/-- `initialize` -/
def initializeRoot (state : Snapshot E) : Durable Err (Root E) Unit := do
  let initialized ← .read fun R => R.manifest.isSome
  .require (initialized = false) (.storeError "state already initialized: manifest.json")
  st.prepareDataDirectories
  st.save H J.toJson state
  st.writeManifest state.createdAt

/-- The storage part of `Store.init`: the state that it goes on with. `fresh` is the state of
    a new root. -/
def init (id : String) (fresh : Snapshot E) : Durable Err (Root E) (Snapshot E) := do
  let R ← .read fun R => R
  if R.manifest.isNone ∧ R.legacyState.isNone then do
    st.initializeRoot H J fresh
    pure fresh
  else do
    st.migrate H J location id
    .zoom (·.data st.dataName) (Root.setData st.dataName) (recoverAllSessionLogs J)
    let loaded ← .read fun R => st.load H R
    .ofExcept loaded

end SplitStateStorage

end Aize
