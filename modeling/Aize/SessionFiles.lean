/-
  The SessionLog files of one Session (`kernel/storage.py`): segment files under
  `log/`, and the index `log.index.json`.

  An append patches the index in place; recovery rebuilds it from the segment
  files. Both are here as the source has them, with the disk as state: an
  operation gives the directory after it and what it returns or raises.
  `Write` is what an append is about to do once all its checks have passed: its
  steps (the bytes, one after the other, then the index) are the points at
  which it can be killed.
-/
import Mathlib.Data.List.Sort
import Aize.Frame
import Aize.Lib.Dict

namespace Aize

open Except (require)

/-! ## Files -/

/-- One of the `segments` of an index. -/
structure SegmentIndex where
  path : String
  startSeq : ℤ
  endSeq : ℤ
  records : ℕ
  bytes : ℕ
  deriving DecidableEq, Repr

/-- Whether `_segment_paths_for_range` selects a segment. -/
def SegmentIndex.selected (fromSeq toSeq : Option ℤ) (segment : SegmentIndex) : Bool :=
  fromSeq.all (· ≤ segment.endSeq) && toSeq.all (segment.startSeq ≤ ·)

/-- `log.index.json` -/
structure LogIndex where
  sessionId : String
  latestSeq : ℤ
  recordCount : ℕ
  messageCount : ℕ
  segments : List SegmentIndex
  deriving DecidableEq, Repr

/-- The directory of a Session: its segment files, by path, and its index. An index is
    replaced by renaming, so that it is there as a whole or not at all. -/
structure SessionDir where
  files : Dict String (List UInt8)
  index : Option LogIndex

/-- `MAX_SEGMENT_BYTES` -/
def maxSegmentBytes : ℕ := 64 * 1024 * 1024

/-- `_new_segment_path`, relative to the directory. -/
def segmentPath (startSeq : ℤ) : String := "log/" ++ padded 20 startSeq ++ ".aizelog"

example : segmentPath 42 = "log/00000000000000000042.aizelog" := by decide

namespace SessionDir

def empty : SessionDir := ⟨∅, none⟩

/-- The bytes of a file. -/
def file (d : SessionDir) (path : String) : List UInt8 := (d.files.lookup path).getD []

/-- `_segment_paths`: sorted by name. -/
def segmentPaths (d : SessionDir) : List String := d.files.keys.mergeSort (· ≤ ·)

/-- `latest_session_log_seq` -/
def latestSessionLogSeq (d : SessionDir) : ℤ := (d.index.map LogIndex.latestSeq).getD 0

/-- `_segment_paths_for_range` -/
def segmentPathsForRange (d : SessionDir) (fromSeq toSeq : Option ℤ) : List String :=
  match d.index with
  | none => d.segmentPaths
  | some index =>
    if fromSeq = none ∧ toSeq = none then d.segmentPaths
    else (index.segments.filter (SegmentIndex.selected fromSeq toSeq)).map SegmentIndex.path

end SessionDir

/-- `_active_segment_path` -/
def activeSegmentPath (index : LogIndex) (firstSeq : ℤ) : String :=
  match index.segments.getLast? with
  | some last => last.path
  | none => segmentPath firstSeq

def anotherSession (sessionId : String) : Err :=
  .storeError s!"SessionLog entry belongs to another Session: {sessionId}"

def sequenceMismatch (sessionId : String) (expected got : ℤ) : Err :=
  .storeError s!"SessionLog sequence mismatch for {sessionId}: expected {expected}, got {got}"

namespace Json

variable {E : Type} (J : Json E)

/-! ## Recovery -/

/-- `_validate_sequence` -/
def validateSequence (sessionId : String) : ℤ → List E → Except Err Unit
  | _, [] => .ok ()
  | expected, entry :: entries => do
    require (J.sessionId entry = sessionId) (anotherSession sessionId)
    require (J.seq entry = expected) (sequenceMismatch sessionId expected (J.seq entry))
    validateSequence sessionId (expected + 1) entries

/-- The counters of the loop of `_build_session_log_index`. -/
structure Building where
  expectedSeq : ℤ := 1
  recordCount : ℕ := 0
  messageCount : ℕ := 0
  segments : List SegmentIndex := []

def isMessage (entry : E) : Bool := J.kind entry = "Message"

/-- One segment of the loop of `_build_session_log_index`. -/
def indexSegment (sessionId : String) (recover : Bool) (path : String) (file : List UInt8)
    (b : Building) : Except Err Building := do
  let (entries, validBytes, truncated) := J.scanSegment file
  require (¬(truncated = true ∧ recover = false)) (.storeError s!"torn SessionLog frame: {path}")
  match entries with
  | [] =>
    return { b with
      segments := b.segments ++ [⟨path, b.expectedSeq, b.expectedSeq - 1, 0, validBytes⟩] }
  | first :: rest =>
    require (J.seq first = b.expectedSeq)
      (.storeError s!"SessionLog sequence mismatch for {sessionId}: expected {b.expectedSeq}")
    J.validateSequence sessionId b.expectedSeq (first :: rest)
    let lastSeq := J.seq ((first :: rest).getLast (List.cons_ne_nil _ _))
    return {
      expectedSeq := lastSeq + 1
      recordCount := b.recordCount + (first :: rest).length
      messageCount := b.messageCount + (first :: rest).countP J.isMessage
      segments := b.segments ++
        [⟨path, J.seq first, lastSeq, (first :: rest).length, validBytes⟩] }

/-- The loop of `_build_session_log_index` over the paths. A segment is cut to its valid
    bytes before its records are checked. -/
def indexSegments (sessionId : String) (recover : Bool) :
    List String → SessionDir → Building → SessionDir × Except Err Building
  | [], d, b => (d, .ok b)
  | path :: paths, d, b =>
    let file := d.file path
    let d := if recover then { d with files := Dict.modify path J.recoverSegment d.files } else d
    match J.indexSegment sessionId recover path file b with
    | .error e => (d, .error e)
    | .ok b => indexSegments sessionId recover paths d b

/-- `_build_session_log_index` -/
def buildSessionLogIndex (sessionId : String) (recover : Bool) (d : SessionDir) :
    SessionDir × Except Err LogIndex :=
  let (d, built) := J.indexSegments sessionId recover d.segmentPaths d {}
  (d, do
    let b ← built
    return {
      sessionId
      latestSeq := b.expectedSeq - 1
      recordCount := b.recordCount
      messageCount := b.messageCount
      segments := b.segments })

/-- The index that `_recover_session_log` trusts: the last of its segments has the
    indexed size. -/
def trustedIndex (d : SessionDir) : Option LogIndex := do
  let index ← d.index
  let last ← index.segments.getLast?
  let file ← d.files.lookup last.path
  if file.length = last.bytes then some index else none

/-- `_recover_session_log` -/
def recoverSessionLog (sessionId : String) (full : Bool) (d : SessionDir) :
    SessionDir × Except Err LogIndex :=
  match if full then none else trustedIndex d with
  | some index => (d, .ok index)
  | none =>
    match J.buildSessionLogIndex sessionId true d with
    | (d, .ok rebuilt) => ({ d with index := some rebuilt }, .ok rebuilt)
    | (d, .error e) => (d, .error e)

/-! ## Appending -/

/-- The checks of `append_session_log_entries` on its pending entries. -/
def checkPending (sessionId : String) : ℤ → List E → Except Err Unit
  | _, [] => .ok ()
  | expected, entry :: entries => do
    require (J.seq entry = expected) (sequenceMismatch sessionId expected (J.seq entry))
    require (J.sessionId entry = sessionId) (anotherSession sessionId)
    checkPending sessionId (expected + 1) entries

/-- Change the first item with this path; a new item goes to the end. -/
def updateSegment (path : String) (new : SegmentIndex) (f : SegmentIndex → SegmentIndex) :
    List SegmentIndex → List SegmentIndex
  | [] => [f new]
  | item :: items => if item.path = path then f item :: items
    else item :: updateSegment path new f items

/-- The index after `pending` has been written to the segment at `path`. -/
def indexAppended (index : LogIndex) (path : String) (pending : List E) (firstSeq lastSeq : ℤ)
    (existingSize frameBytes : ℕ) : LogIndex :=
  { index with
    segments := updateSegment path ⟨path, firstSeq, index.latestSeq, 0, existingSize⟩
      (fun item => { item with
        endSeq := lastSeq
        records := item.records + pending.length
        bytes := existingSize + frameBytes })
      index.segments
    latestSeq := lastSeq
    recordCount := index.recordCount + pending.length
    messageCount := index.messageCount + pending.countP J.isMessage }

end Json

/-- A checked append: the bytes to write, where, and the index that follows them. -/
structure Write where
  path : String
  payload : List UInt8
  index : LogIndex

namespace Write

/-- The directory when `n` bytes have been written (the file is created first). -/
def writeBytes (w : Write) (n : ℕ) (d : SessionDir) : SessionDir :=
  { d with files := d.files.insert w.path (d.file w.path ++ w.payload.take n) }

/-- The directory when the index has been replaced. -/
def commit (w : Write) (d : SessionDir) : SessionDir :=
  { w.writeBytes w.payload.length d with index := some w.index }

end Write

namespace Json

variable {E : Type} (J : Json E)

/-- What `append_session_log_entries` does after recovery and before it opens the segment. -/
def planWrite (sessionId : String) (entries : List E) (index : LogIndex) (d : SessionDir) :
    Except Err (Option Write) :=
  let pending := entries.filter fun entry => decide (index.latestSeq < J.seq entry)
  match pending with
  | [] => .ok none
  | first :: rest => do
    J.checkPending sessionId (index.latestSeq + 1) (first :: rest)
    let frames ← (first :: rest).mapM J.encodeFrame
    let active := activeSegmentPath index (J.seq first)
    let activeSize := (d.file active).length
    let frameBytes := (frames.map List.length).sum
    let rollover := decide (0 < activeSize ∧ maxSegmentBytes < activeSize + frameBytes)
    let path := if rollover then segmentPath (J.seq first) else active
    let existingSize := if rollover then 0 else activeSize
    let lastSeq := J.seq ((first :: rest).getLast (List.cons_ne_nil _ _))
    return some {
      path
      payload := frames.flatten
      index := J.indexAppended index path (first :: rest) (J.seq first) lastSeq existingSize
        frameBytes }

/-- `append_session_log_entries`, up to the write. -/
def prepareAppend (sessionId : String) (entries : List E) (d : SessionDir) :
    SessionDir × Except Err (Option Write) :=
  if entries.isEmpty then (d, .ok none)
  else
    match J.recoverSessionLog sessionId false d with
    | (d, .error e) => (d, .error e)
    | (d, .ok index) => (d, J.planWrite sessionId entries index d)

/-- `append_session_log_entries` -/
def appendSessionLogEntries (sessionId : String) (entries : List E) (d : SessionDir) :
    SessionDir × Except Err Unit :=
  match J.prepareAppend sessionId entries d with
  | (d, .error e) => (d, .error e)
  | (d, .ok none) => (d, .ok ())
  | (d, .ok (some w)) => (w.commit d, .ok ())

/-! ## Reading -/

/-- The seq of an entry is in the range. -/
def inRange (fromSeq toSeq : Option ℤ) (entry : E) : Bool :=
  fromSeq.all (· ≤ J.seq entry) && toSeq.all (J.seq entry ≤ ·)

/-- The end of `read_session_log`: the entries are numbered from the first one on. -/
def validated (sessionId : String) : List E → Except Err (List E)
  | [] => .ok []
  | first :: rest => do
    J.validateSequence sessionId (J.seq first) (first :: rest)
    return first :: rest

/-- `read_session_log` -/
def readSessionLog (sessionId : String) (fromSeq toSeq : Option ℤ) (d : SessionDir) :
    Except Err (List E) :=
  J.validated sessionId <| (d.segmentPathsForRange fromSeq toSeq).flatMap fun path =>
    (J.scanSegment (d.file path)).1.filter (J.inRange fromSeq toSeq)

end Json

end Aize
