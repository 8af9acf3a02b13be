/-
  What the SessionLog files of a Session hold, record by record.

  A `LogFile` is a segment file seen as its records and the torn bytes after
  them; `Laid d fs` says that the directory holds exactly the files `fs`, and
  that their records are numbered 1, 2, 3, ... in this order. On such a
  directory the index is computed (`indexOf`), a rebuild gives it when the file
  names sort in the order of the files (`build_laid`), and an append extends
  the last file or adds one (`planWrite_laid`).
-/
import Aize.SessionFiles
import Aize.Lib.Digits

namespace Aize

open Frames

/-! ## Names -/

theorem toList_segmentPath (n : ℕ) : (segmentPath n).toList =
    "log/".toList ++ (Digits.zeroPadded 20 n ++ ".aizelog".toList) := by
  unfold segmentPath padded Digits.zeroPadded
  simp only [Int.toNat_natCast, Nat.toString_eq_repr, String.toList_append, String.toList_ofList,
    Nat.toList_repr, ← String.length_toList, List.append_assoc]

theorem segmentPath_injective {m n : ℕ} (h : segmentPath m = segmentPath n) : m = n := by
  have h' := congrArg String.toList h
  rw [toList_segmentPath, toList_segmentPath] at h'
  exact Digits.zeroPadded_injective 20 (List.append_cancel_right (List.append_cancel_left h'))

/-- **File names of at most 20 digits sort like their numbers.** -/
theorem segmentPath_lt {m n : ℕ} (h : m < n) (hn : n < 10 ^ 20) : segmentPath m < segmentPath n := by
  rw [String.lt_iff_toList_lt, toList_segmentPath, toList_segmentPath]
  have hlt := Digits.zeroPadded_append_lt (by decide) (h.trans hn) hn h ".aizelog".toList
  have hcons : ∀ (p : List Char) {xs ys : List Char}, xs < ys → p ++ xs < p ++ ys := by
    intro p xs ys hxy
    induction p with
    | nil => exact hxy
    | cons c p ih => exact List.cons_lt_cons_iff.2 (.inr ⟨rfl, ih⟩)
  exact hcons _ hlt

namespace SessionDir

theorem segmentPaths_perm (d : SessionDir) : d.segmentPaths.Perm d.files.keys :=
  List.mergeSort_perm _ _

/-- The paths are the sorted list of the files' names. -/
theorem segmentPaths_eq {d : SessionDir} {ps : List String} (h : d.files.keys.Perm ps)
    (hs : ps.Pairwise (· < ·)) : d.segmentPaths = ps := by
  have hsorted : d.segmentPaths.Pairwise (· ≤ ·) := by
    have := @List.pairwise_mergeSort _ (fun a b : String => decide (a ≤ b))
      (fun a b c hab hbc => decide_eq_true ((of_decide_eq_true hab).trans (of_decide_eq_true hbc)))
      (fun a b => by simpa using le_total a b) d.files.keys
    exact this.imp fun hab => of_decide_eq_true hab
  exact (d.segmentPaths_perm.trans h).eq_of_pairwise (fun a b _ _ => le_antisymm) hsorted
    (hs.imp le_of_lt)

end SessionDir

/-! ## Files as records -/

/-- A segment file: the number in its name, its records, and what follows them. -/
structure LogFile (E : Type) where
  name : ℕ
  entries : List E
  torn : List UInt8 := []

namespace LogFile

variable {E : Type}

def path (f : LogFile E) : String := segmentPath f.name

/-- The file without its torn bytes. -/
def clean (f : LogFile E) : LogFile E := { f with torn := [] }

@[simp] theorem path_clean (f : LogFile E) : f.clean.path = f.path := rfl

@[simp] theorem entries_clean (f : LogFile E) : f.clean.entries = f.entries := rfl

/-- The records of several files, one after the other. -/
def log (fs : List (LogFile E)) : List E := fs.flatMap entries

@[simp] theorem log_nil : log ([] : List (LogFile E)) = [] := rfl

@[simp] theorem log_cons (f : LogFile E) (fs : List (LogFile E)) :
    log (f :: fs) = f.entries ++ log fs := rfl

@[simp] theorem log_append (fs gs : List (LogFile E)) : log (fs ++ gs) = log fs ++ log gs := by
  rw [log, List.flatMap_append]; rfl

@[simp] theorem log_clean (fs : List (LogFile E)) : log (fs.map clean) = log fs := by
  rw [log, List.flatMap_map]; rfl

@[simp] theorem paths_clean (fs : List (LogFile E)) : (fs.map clean).map path = fs.map path := by
  rw [List.map_map]; rfl

end LogFile

open LogFile

namespace Json

variable {E : Type} (J : Json E)

/-- The frames of several records. -/
def frames (es : List E) : List UInt8 := (es.map J.frame).flatten

def bytes (f : LogFile E) : List UInt8 := J.frames f.entries ++ f.torn

@[simp] theorem frames_nil : J.frames [] = [] := rfl

@[simp] theorem frames_append (es es' : List E) :
    J.frames (es ++ es') = J.frames es ++ J.frames es' := by
  rw [frames, List.map_append, List.flatten_append]; rfl

@[simp] theorem bytes_clean (f : LogFile E) : J.bytes f.clean = J.frames f.entries :=
  List.append_nil _

theorem length_frames_ge (es : List E) : headerSize * es.length ≤ (J.frames es).length := by
  induction es with
  | nil => exact Nat.zero_le _
  | cons e es ih =>
    have hframes : J.frames (e :: es) = J.frame e ++ J.frames es := rfl
    rw [hframes, List.length_append, J.length_frame, List.length_cons, Nat.mul_succ]
    omega

theorem frames_eq_nil {es : List E} : J.frames es = [] ↔ es = [] := by
  constructor
  · intro h
    have := J.length_frames_ge es
    rw [h, List.length_nil, Nat.le_zero, Nat.mul_eq_zero] at this
    exact List.length_eq_zero_iff.1 (this.resolve_left (by decide))
  · rintro rfl
    rfl

/-- The records belong to the Session and are numbered from `k` on. -/
def Numbered (sessionId : String) : ℤ → List E → Prop
  | _, [] => True
  | k, e :: es => J.sessionId e = sessionId ∧ J.seq e = k ∧ Numbered sessionId (k + 1) es

section
variable {J} {sessionId : String} {k : ℤ}

theorem validateSequence_eq_ok {es : List E} {u : Unit} :
    J.validateSequence sessionId k es = .ok u ↔ J.Numbered sessionId k es := by
  induction es generalizing k with
  | nil => exact ⟨fun _ => trivial, fun _ => rfl⟩
  | cons e es ih =>
    rw [validateSequence, Except.require_bind_eq_ok, Except.require_bind_eq_ok, ih]
    rfl

theorem checkPending_eq_ok {es : List E} {u : Unit} :
    J.checkPending sessionId k es = .ok u ↔ J.Numbered sessionId k es := by
  induction es generalizing k with
  | nil => exact ⟨fun _ => trivial, fun _ => rfl⟩
  | cons e es ih =>
    rw [checkPending, Except.require_bind_eq_ok, Except.require_bind_eq_ok, ih, Numbered]
    exact and_left_comm

theorem validated_numbered {es : List E} (h : J.Numbered sessionId k es) :
    J.validated sessionId es = .ok es := by
  rcases es with _ | ⟨first, rest⟩
  · rfl
  · rw [validated, h.2.1, validateSequence_eq_ok (u := ()).2 h]
    rfl

theorem numbered_of_validated {es es' : List E} (h : J.validated sessionId es = .ok es')
    (hk : ∀ e ∈ es.head?, J.seq e = k) : J.Numbered sessionId k es := by
  rcases es with _ | ⟨first, rest⟩
  · trivial
  · rw [validated, Except.bind_eq_ok] at h
    obtain ⟨u, h, -⟩ := h
    rw [← hk first rfl]
    exact validateSequence_eq_ok.1 h

theorem numbered_append {es es' : List E} : J.Numbered sessionId k (es ++ es') ↔
    J.Numbered sessionId k es ∧ J.Numbered sessionId (k + es.length) es' := by
  induction es generalizing k with
  | nil => simp [Numbered]
  | cons e es ih =>
    rw [List.cons_append, Numbered, Numbered, ih, List.length_cons]
    have : k + 1 + (es.length : ℤ) = k + ((es.length + 1 : ℕ) : ℤ) := by push_cast; ring
    rw [this]
    tauto

theorem Numbered.seq_getElem {es : List E} (h : J.Numbered sessionId k es) {i : ℕ}
    (hi : i < es.length) : J.seq es[i] = k + i := by
  induction es generalizing k i with
  | nil => exact absurd hi (Nat.not_lt_zero _)
  | cons e es ih =>
    cases i with
    | zero => simpa using h.2.1
    | succ i =>
      rw [List.getElem_cons_succ, ih h.2.2 (Nat.lt_of_succ_lt_succ hi)]
      push_cast
      ring

theorem Numbered.seq_getLast {es : List E} (h : J.Numbered sessionId k es) (hne : es ≠ []) :
    J.seq (es.getLast hne) = k + es.length - 1 := by
  have hpos := List.length_pos_iff.2 hne
  rw [List.getLast_eq_getElem, h.seq_getElem (by omega)]
  omega

end

/-! ## Scanning a file -/

section
variable {J} {f : LogFile E}

theorem scanSegment_bytes (he : ∀ e ∈ f.entries, J.Encodable e) (ht : J.reader.read f.torn = none) :
    J.scanSegment (J.bytes f) =
      (f.entries, (J.frames f.entries).length, decide (f.torn ≠ [])) := by
  have hscan : J.reader.scan (J.bytes f) = (f.entries, f.torn) := by
    rw [bytes, frames, J.scan_encoded he, J.reader.scan_none ht, List.append_nil]
  rw [J.scanSegment_eq, hscan, bytes, List.length_append, Nat.add_sub_cancel]

theorem recoverSegment_bytes (he : ∀ e ∈ f.entries, J.Encodable e)
    (ht : J.reader.read f.torn = none) : J.recoverSegment (J.bytes f) = J.bytes f.clean := by
  rw [J.recoverSegment_eq, scanSegment_bytes he ht, J.bytes_clean, bytes,
    List.take_append_of_le_length le_rfl, List.take_length]

end

/-! ## The index of some files -/

/-- The index items of files whose records are numbered from `k` on. -/
def segmentsFrom : ℤ → List (LogFile E) → List SegmentIndex
  | _, [] => []
  | k, f :: fs => ⟨f.path, k, k + f.entries.length - 1, f.entries.length,
      (J.frames f.entries).length⟩ :: segmentsFrom (k + f.entries.length) fs

/-- The index of these files. -/
def indexOf (sessionId : String) (fs : List (LogFile E)) : LogIndex where
  sessionId
  latestSeq := (log fs).length
  recordCount := (log fs).length
  messageCount := (log fs).countP J.isMessage
  segments := J.segmentsFrom 1 fs

theorem segmentsFrom_append (k : ℤ) (fs gs : List (LogFile E)) :
    J.segmentsFrom k (fs ++ gs) = J.segmentsFrom k fs ++ J.segmentsFrom (k + (log fs).length) gs := by
  induction fs generalizing k with
  | nil => simp [segmentsFrom]
  | cons f fs ih =>
    rw [List.cons_append, segmentsFrom, segmentsFrom, ih, List.cons_append, log_cons,
      List.length_append]
    push_cast
    rw [add_assoc]

theorem path_segmentsFrom (k : ℤ) (fs : List (LogFile E)) :
    (J.segmentsFrom k fs).map SegmentIndex.path = fs.map LogFile.path := by
  induction fs generalizing k with
  | nil => rfl
  | cons f fs ih => rw [segmentsFrom, List.map_cons, List.map_cons, ih]

@[simp] theorem segmentsFrom_clean (k : ℤ) (fs : List (LogFile E)) :
    J.segmentsFrom k (fs.map clean) = J.segmentsFrom k fs := by
  induction fs generalizing k with
  | nil => rfl
  | cons f fs ih => rw [List.map_cons, segmentsFrom, segmentsFrom, entries_clean, path_clean, ih]

@[simp] theorem indexOf_clean (sessionId : String) (fs : List (LogFile E)) :
    J.indexOf sessionId (fs.map clean) = J.indexOf sessionId fs := by
  unfold indexOf
  rw [log_clean, segmentsFrom_clean]

/-- **The directory holds these files**, and their records are numbered from 1 on. -/
structure Laid (sessionId : String) (d : SessionDir) (fs : List (LogFile E)) : Prop where
  keys : d.files.keys.Perm (fs.map LogFile.path)
  files : ∀ f ∈ fs, d.files.lookup f.path = some (J.bytes f)
  numbered : J.Numbered sessionId 1 (log fs)
  encodable : ∀ f ∈ fs, ∀ e ∈ f.entries, J.Encodable e
  torn : ∀ f ∈ fs, J.reader.read f.torn = none

end Json

/-- The names of the files sort in the order of the files. -/
def InOrder {E : Type} (fs : List (LogFile E)) : Prop := (fs.map LogFile.path).Pairwise (· < ·)

namespace Json

variable {E : Type} {J : Json E} {sessionId : String} {d : SessionDir} {fs : List (LogFile E)}

theorem Laid.segmentPaths (h : J.Laid sessionId d fs) (hs : InOrder fs) :
    d.segmentPaths = fs.map LogFile.path :=
  SessionDir.segmentPaths_eq h.keys hs

theorem InOrder.nodup (hs : InOrder fs) : (fs.map LogFile.path).Nodup :=
  hs.imp fun h => ne_of_lt h

/-! ## Rebuilding the index -/

/-- The directory after recovery has cut these segments. -/
def truncateSegments (J : Json E) (paths : List String) (d : SessionDir) : SessionDir :=
  { d with files := paths.foldl (fun files path => Dict.modify path J.recoverSegment files) d.files }

theorem keys_truncateSegments (paths : List String) (d : SessionDir) :
    (J.truncateSegments paths d).files.keys = d.files.keys := by
  unfold truncateSegments
  simp only
  induction paths generalizing d with
  | nil => rfl
  | cons p ps ih =>
    rw [List.foldl_cons]
    exact (ih { d with files := Dict.modify p J.recoverSegment d.files }).trans
      (Dict.keys_mapVals _ _)

theorem lookup_truncateSegments (paths : List String) (d : SessionDir) (p : String) :
    (J.truncateSegments paths d).files.lookup p =
      if p ∈ paths then (d.files.lookup p).map J.recoverSegment else d.files.lookup p := by
  have := Dict.lookup_foldl_modify J.recoverSegment_idem id paths d.files p
  rwa [List.map_id] at this

/-- Cutting the first files of a directory. -/
theorem Laid.truncate (h : J.Laid sessionId d fs) (hs : InOrder fs) (k : ℕ) :
    J.Laid sessionId (J.truncateSegments (d.segmentPaths.take k) d)
      ((fs.take k).map clean ++ fs.drop k) := by
  have hpaths : ((fs.take k).map clean ++ fs.drop k).map LogFile.path = fs.map LogFile.path := by
    rw [List.map_append, paths_clean, ← List.map_append, List.take_append_drop]
  have hlog : log ((fs.take k).map clean ++ fs.drop k) = log fs := by
    rw [log_append, log_clean, ← log_append, List.take_append_drop]
  have hsplit : ∀ f ∈ (fs.take k).map clean ++ fs.drop k,
      (∃ g ∈ fs.take k, f = g.clean) ∨ f ∈ fs.drop k := by
    intro f hf
    rcases List.mem_append.1 hf with hf | hf
    · obtain ⟨g, hg, rfl⟩ := List.mem_map.1 hf
      exact .inl ⟨g, hg, rfl⟩
    · exact .inr hf
  have hdisjoint : ∀ f ∈ fs.drop k, f.path ∉ (fs.take k).map LogFile.path := by
    intro f hf hmem
    have hnd := InOrder.nodup hs
    rw [← List.take_append_drop k fs, List.map_append] at hnd
    exact (List.disjoint_of_nodup_append hnd) hmem (List.mem_map_of_mem hf)
  refine ⟨?_, fun f hf => ?_, hlog ▸ h.numbered, fun f hf => ?_, fun f hf => ?_⟩
  · rw [keys_truncateSegments, hpaths]; exact h.keys
  · rw [lookup_truncateSegments, h.segmentPaths hs, ← List.map_take]
    rcases hsplit f hf with ⟨g, hg, rfl⟩ | hf
    · have hmem := List.mem_of_mem_take hg
      rw [path_clean, if_pos (List.mem_map_of_mem hg), h.files g hmem, Option.map_some,
        recoverSegment_bytes (h.encodable g hmem) (h.torn g hmem)]
    · rw [if_neg (hdisjoint f hf), h.files f (List.mem_of_mem_drop hf)]
  · rcases hsplit f hf with ⟨g, hg, rfl⟩ | hf
    · exact h.encodable g (List.mem_of_mem_take hg)
    · exact h.encodable f (List.mem_of_mem_drop hf)
  · rcases hsplit f hf with ⟨g, hg, rfl⟩ | hf
    · exact J.reader.read_nil
    · exact h.torn f (List.mem_of_mem_drop hf)

theorem Laid.truncate_all (h : J.Laid sessionId d fs) (hs : InOrder fs) :
    J.Laid sessionId (J.truncateSegments d.segmentPaths d) (fs.map clean) := by
  have := h.truncate hs fs.length
  rw [List.take_of_length_le (by rw [h.segmentPaths hs, List.length_map]), List.take_length,
    List.drop_length, List.append_nil] at this
  exact this

/-- What the loop adds for one file. -/
theorem indexSegment_bytes {f : LogFile E} {recover : Bool} {b : Building}
    (he : ∀ e ∈ f.entries, J.Encodable e) (ht : J.reader.read f.torn = none)
    (hr : recover = false → f.torn = []) (hn : J.Numbered sessionId b.expectedSeq f.entries) :
    J.indexSegment sessionId recover f.path (J.bytes f) b = .ok {
      expectedSeq := b.expectedSeq + f.entries.length
      recordCount := b.recordCount + f.entries.length
      messageCount := b.messageCount + f.entries.countP J.isMessage
      segments := b.segments ++ J.segmentsFrom b.expectedSeq [f] } := by
  unfold indexSegment
  rw [scanSegment_bytes he ht]
  simp only
  have hreq : ¬(decide (f.torn ≠ []) = true ∧ recover = false) := by
    rintro ⟨h₁, h₂⟩
    exact of_decide_eq_true h₁ (hr h₂)
  rw [Except.require_bind_eq_ok]
  refine ⟨hreq, ?_⟩
  rcases hes : f.entries with _ | ⟨first, rest⟩
  · simp [segmentsFrom, hes, pure, Except.pure]
  · rw [hes] at hn
    have hlast := hn.seq_getLast (List.cons_ne_nil _ _)
    simp only
    rw [Except.require_bind_eq_ok, Except.bind_eq_ok]
    refine ⟨hn.2.1, (), validateSequence_eq_ok.2 hn, ?_⟩
    rw [hlast, hn.2.1, segmentsFrom, segmentsFrom, hes]
    simp only [Except.pure_eq_ok]
    congr 1
    ring

theorem indexSegments_files (recover : Bool) {b : Building}
    (hfiles : ∀ f ∈ fs, d.files.lookup f.path = some (J.bytes f))
    (hnodup : (fs.map LogFile.path).Nodup) (he : ∀ f ∈ fs, ∀ e ∈ f.entries, J.Encodable e)
    (ht : ∀ f ∈ fs, J.reader.read f.torn = none) (hr : recover = false → ∀ f ∈ fs, f.torn = [])
    (hn : J.Numbered sessionId b.expectedSeq (log fs)) :
    J.indexSegments sessionId recover (fs.map LogFile.path) d b =
      (if recover then J.truncateSegments (fs.map LogFile.path) d else d, .ok {
        expectedSeq := b.expectedSeq + (log fs).length
        recordCount := b.recordCount + (log fs).length
        messageCount := b.messageCount + (log fs).countP J.isMessage
        segments := b.segments ++ J.segmentsFrom b.expectedSeq fs }) := by
  induction fs generalizing d b with
  | nil => cases recover <;> simp [indexSegments, truncateSegments, segmentsFrom]
  | cons f fs ih =>
    rw [log_cons, numbered_append] at hn
    rw [List.map_cons, List.nodup_cons] at hnodup
    have hfile : d.file f.path = J.bytes f := by
      rw [SessionDir.file, hfiles f List.mem_cons_self, Option.getD_some]
    have hone := indexSegment_bytes (he f List.mem_cons_self) (ht f List.mem_cons_self)
      (fun h => hr h f List.mem_cons_self) hn.1
    rw [List.map_cons, indexSegments]
    simp only [hfile, hone]
    rw [ih (fun g hg => ?_) hnodup.2 (fun g hg => he g (List.mem_cons_of_mem _ hg))
      (fun g hg => ht g (List.mem_cons_of_mem _ hg))
      (fun h g hg => hr h g (List.mem_cons_of_mem _ hg)) hn.2]
    · have hseg := J.segmentsFrom_append b.expectedSeq [f] fs
      rw [show log [f] = f.entries from List.append_nil _] at hseg
      rw [show f :: fs = [f] ++ fs from rfl, hseg, log_append,
        show log [f] = f.entries from List.append_nil _, List.length_append, List.countP_append]
      push_cast
      rw [add_assoc, add_assoc, add_assoc, List.append_assoc]
      cases recover <;> rfl
    · have hne : g.path ≠ f.path := fun h => hnodup.1 (h ▸ List.mem_map_of_mem hg)
      cases recover with
      | false => exact hfiles g (List.mem_cons_of_mem _ hg)
      | true =>
        simp only [if_true]
        rw [Dict.lookup_modify_ne _ _ hne]
        exact hfiles g (List.mem_cons_of_mem _ hg)

/-- **A rebuild gives the index of the files.** -/
theorem Laid.build (h : J.Laid sessionId d fs) (hs : InOrder fs) (recover : Bool)
    (hr : recover = false → ∀ f ∈ fs, f.torn = []) :
    J.buildSessionLogIndex sessionId recover d =
      (if recover then J.truncateSegments d.segmentPaths d else d,
        .ok (J.indexOf sessionId fs)) := by
  unfold buildSessionLogIndex
  rw [h.segmentPaths hs, indexSegments_files recover h.files (InOrder.nodup hs) h.encodable h.torn hr
    h.numbered]
  have hseq : (1 : ℤ) + ((log fs).length : ℤ) - 1 = (log fs).length := by ring
  cases recover <;> simp only [Except.ok_bind, hseq, Nat.zero_add, List.nil_append] <;> rfl

/-! ## The index after an append -/

theorem updateSegment_last {path : String} {new item : SegmentIndex}
    {f : SegmentIndex → SegmentIndex} {items : List SegmentIndex}
    (h : ∀ i ∈ items, i.path ≠ path) (hi : item.path = path) :
    updateSegment path new f (items ++ [item]) = items ++ [f item] := by
  induction items with
  | nil => rw [List.nil_append, updateSegment, if_pos hi]; rfl
  | cons i items ih =>
    rw [List.cons_append, updateSegment, if_neg (h i List.mem_cons_self),
      ih fun j hj => h j (List.mem_cons_of_mem _ hj)]
    rfl

theorem updateSegment_new {path : String} {new : SegmentIndex} {f : SegmentIndex → SegmentIndex}
    {items : List SegmentIndex} (h : ∀ i ∈ items, i.path ≠ path) :
    updateSegment path new f items = items ++ [f new] := by
  induction items with
  | nil => rfl
  | cons i items ih =>
    rw [updateSegment, if_neg (h i List.mem_cons_self),
      ih fun j hj => h j (List.mem_cons_of_mem _ hj)]
    rfl

theorem path_ne_of_segmentsFrom {k : ℤ} {path : String} (h : ∀ f ∈ fs, f.path ≠ path) :
    ∀ i ∈ J.segmentsFrom k fs, i.path ≠ path := by
  intro i hi heq
  have : i.path ∈ fs.map LogFile.path := J.path_segmentsFrom k fs ▸ List.mem_map_of_mem hi
  obtain ⟨f, hf, hfi⟩ := List.mem_map.1 this
  exact h f hf (hfi.trans heq)

/-- **The patched index is the index of the longer files**: after records have been added
    to the last file. -/
theorem indexAppended_last {f : LogFile E} {pending : List E} {firstSeq : ℤ}
    (h : ∀ g ∈ fs, g.path ≠ f.path) :
    J.indexAppended (J.indexOf sessionId (fs ++ [f])) f.path pending firstSeq
        ((log (fs ++ [f])).length + pending.length) (J.frames f.entries).length
        (J.frames pending).length =
      J.indexOf sessionId (fs ++ [{ f with entries := f.entries ++ pending }]) := by
  have hseg : J.segmentsFrom 1 (fs ++ [f]) = J.segmentsFrom 1 fs ++
      [⟨f.path, 1 + (log fs).length, 1 + (log fs).length + f.entries.length - 1,
        f.entries.length, (J.frames f.entries).length⟩] := J.segmentsFrom_append _ _ _
  have hseg' : J.segmentsFrom 1 (fs ++ [{ f with entries := f.entries ++ pending }]) =
      J.segmentsFrom 1 fs ++ [⟨f.path, 1 + (log fs).length,
        1 + (log fs).length + (f.entries ++ pending).length - 1, (f.entries ++ pending).length,
        (J.frames (f.entries ++ pending)).length⟩] := J.segmentsFrom_append _ _ _
  unfold indexAppended indexOf
  simp only [LogIndex.mk.injEq, true_and]
  refine ⟨?_, ?_, ?_, ?_⟩
  · simp only [log_append, log_cons, log_nil, List.append_nil, List.length_append]
    push_cast
    ring
  · simp only [log_append, log_cons, log_nil, List.append_nil, List.length_append]
    ring
  · simp only [log_append, log_cons, log_nil, List.append_nil, List.countP_append]
    ring
  · rw [hseg, hseg', updateSegment_last (path_ne_of_segmentsFrom h) (by rfl)]
    simp only [log_append, log_cons, log_nil, List.append_nil, List.length_append, frames_append,
      List.append_cancel_left_eq, List.cons.injEq, SegmentIndex.mk.injEq, true_and, and_true]
    push_cast
    ring

/-- The same, after records have been written to a new file. -/
theorem indexAppended_new (sessionId : String) {fs : List (LogFile E)} (f : LogFile E)
    (h : ∀ g ∈ fs, g.path ≠ f.path) :
    J.indexAppended (J.indexOf sessionId fs) f.path f.entries ((log fs).length + 1)
        ((log fs).length + f.entries.length) 0 (J.frames f.entries).length =
      J.indexOf sessionId (fs ++ [f]) := by
  have hseg : J.segmentsFrom 1 (fs ++ [f]) = J.segmentsFrom 1 fs ++
      [⟨f.path, 1 + (log fs).length, 1 + (log fs).length + f.entries.length - 1,
        f.entries.length, (J.frames f.entries).length⟩] := J.segmentsFrom_append _ _ _
  unfold indexAppended indexOf
  simp only [LogIndex.mk.injEq, true_and]
  refine ⟨?_, ?_, ?_, ?_⟩
  · simp only [log_append, log_cons, log_nil, List.append_nil, List.length_append]
    push_cast
    ring
  · simp only [log_append, log_cons, log_nil, List.append_nil, List.length_append]
  · simp only [log_append, log_cons, log_nil, List.append_nil, List.countP_append]
  · rw [hseg, updateSegment_new (path_ne_of_segmentsFrom h)]
    simp only [List.append_cancel_left_eq, List.cons.injEq, SegmentIndex.mk.injEq, true_and,
      and_true, Nat.zero_add]
    refine ⟨by ring, by ring⟩

/-! ## Planning a write -/

/-- The records of a batch that are not in the log yet. -/
def pendingOf (J : Json E) (index : LogIndex) (entries : List E) : List E :=
  entries.filter fun entry => decide (index.latestSeq < J.seq entry)

/-- **What a planned write is**: its records are new, numbered after the index and
    encodable; they go to the active segment, or to a new one if the active one would grow
    beyond the limit. -/
theorem planWrite_some {entries : List E} {index : LogIndex} {w : Write}
    (h : J.planWrite sessionId entries index d = .ok (some w)) :
    ∃ pending, J.pendingOf index entries = pending ∧ pending ≠ [] ∧
      J.Numbered sessionId (index.latestSeq + 1) pending ∧ (∀ e ∈ pending, J.Encodable e) ∧
      w.payload = J.frames pending ∧
      ((w.path = activeSegmentPath index (index.latestSeq + 1) ∧
          ¬(0 < (d.file w.path).length ∧
            maxSegmentBytes < (d.file w.path).length + (J.frames pending).length) ∧
          w.index = J.indexAppended index w.path pending (index.latestSeq + 1)
            (index.latestSeq + pending.length) (d.file w.path).length (J.frames pending).length) ∨
        (w.path = segmentPath (index.latestSeq + 1) ∧
          0 < (d.file (activeSegmentPath index (index.latestSeq + 1))).length ∧
          maxSegmentBytes < (d.file (activeSegmentPath index (index.latestSeq + 1))).length +
            (J.frames pending).length ∧
          w.index = J.indexAppended index w.path pending (index.latestSeq + 1)
            (index.latestSeq + pending.length) 0 (J.frames pending).length)) := by
  unfold planWrite at h
  refine ⟨_, rfl, ?_⟩
  unfold pendingOf
  generalize entries.filter (fun entry => decide (index.latestSeq < J.seq entry)) = pending at h ⊢
  rcases pending with _ | ⟨first, rest⟩
  · cases h
  simp only at h
  obtain ⟨u, hcheck, h⟩ := Except.bind_eq_ok.1 h
  obtain ⟨fr, hfr, h⟩ := Except.bind_eq_ok.1 h
  have hnum := checkPending_eq_ok.1 hcheck
  obtain ⟨henc, rfl⟩ := J.mapM_encodeFrame_eq_ok.1 hfr
  have hlast := hnum.seq_getLast (List.cons_ne_nil _ _)
  have hbytes : ((first :: rest).map J.frame |>.map List.length).sum =
      (J.frames (first :: rest)).length := by
    rw [frames, List.length_flatten]
  rw [hbytes, hlast, hnum.2.1] at h
  have hseq : index.latestSeq + 1 + ((first :: rest).length : ℤ) - 1 =
      index.latestSeq + (first :: rest).length := by ring
  rw [hseq] at h
  rw [Except.pure_eq_ok, Option.some.injEq] at h
  subst h
  refine ⟨List.cons_ne_nil _ _, hnum, henc, rfl, ?_⟩
  by_cases hroll : 0 < (d.file (activeSegmentPath index (index.latestSeq + 1))).length ∧
      maxSegmentBytes < (d.file (activeSegmentPath index (index.latestSeq + 1))).length +
        (J.frames (first :: rest)).length
  · refine .inr ?_
    simp only [decide_eq_true hroll, if_true]
    exact ⟨trivial, hroll.1, hroll.2, trivial⟩
  · refine .inl ?_
    simp only [decide_eq_false hroll, Bool.false_eq_true, if_false]
    exact ⟨trivial, hroll, trivial⟩

/-- New records that are numbered after the index and encodable can be written. -/
theorem planWrite_ok {entries pending : List E} {index : LogIndex}
    (hp : J.pendingOf index entries = pending) (hne : pending ≠ [])
    (hn : J.Numbered sessionId (index.latestSeq + 1) pending) (he : ∀ e ∈ pending, J.Encodable e) :
    ∃ w, J.planWrite sessionId entries index d = .ok (some w) := by
  unfold planWrite
  unfold pendingOf at hp
  simp only [hp]
  rcases pending with _ | ⟨first, rest⟩
  · exact absurd rfl hne
  · simp only
    rw [checkPending_eq_ok (u := ()).2 hn, Except.ok_bind, J.mapM_encodeFrame_eq_ok.2 ⟨he, rfl⟩]
    exact ⟨_, rfl⟩

theorem planWrite_none {entries : List E} {index : LogIndex} :
    J.planWrite sessionId entries index d = .ok none ↔ J.pendingOf index entries = [] := by
  unfold planWrite pendingOf
  generalize entries.filter (fun entry => decide (index.latestSeq < J.seq entry)) = pending
  rcases pending with _ | ⟨first, rest⟩
  · exact ⟨fun _ => rfl, fun _ => rfl⟩
  · constructor
    · intro h
      simp only at h
      obtain ⟨u, -, h⟩ := Except.bind_eq_ok.1 h
      obtain ⟨fr, -, h⟩ := Except.bind_eq_ok.1 h
      rw [Except.pure_eq_ok] at h
      cases h
    · intro h
      cases h

/-! ## Writing -/

/-- The first bytes of some frames are whole frames and a torn one. -/
theorem frames_take {es : List E} (he : ∀ e ∈ es, J.Encodable e) {n : ℕ}
    (hn : n ≤ (J.frames es).length) :
    ∃ k ≤ es.length, ∃ t, (J.frames es).take n = J.frames (es.take k) ++ t ∧
      J.reader.read t = none ∧ (k < es.length → n < (J.frames (es.take (k + 1))).length) := by
  obtain ⟨k, hk, hle, hlt, hscan⟩ := J.reader.scan_take (J.forall₂_frame he) hn
  rw [← List.map_take] at hle hscan
  have hpre : J.frames (es.take k) <+: (J.frames es).take n := by
    refine List.prefix_take_iff.2 ⟨?_, hle⟩
    conv_rhs => rw [← List.take_append_drop k es, frames_append]
    exact List.prefix_append _ _
  obtain ⟨t, ht⟩ := hpre
  refine ⟨k, hk, t, ht.symm, ?_, fun h => ?_⟩
  · have hrest := J.reader.read_scan_snd ((J.frames es).take n)
    rw [frames, hscan] at hrest
    change J.reader.read (((J.frames es).take n).drop (J.frames (es.take k)).length) = none at hrest
    rwa [← ht, List.drop_append_of_le_length le_rfl, List.drop_length, List.nil_append] at hrest
  · have := hlt h
    rwa [← List.map_take] at this

theorem Laid.reindex (h : J.Laid sessionId d fs) (index : Option LogIndex) :
    J.Laid sessionId { d with index } fs := ⟨h.keys, h.files, h.numbered, h.encodable, h.torn⟩

theorem Laid.file (h : J.Laid sessionId d fs) {f : LogFile E} (hf : f ∈ fs) :
    d.file f.path = J.bytes f := by
  rw [SessionDir.file, h.files f hf, Option.getD_some]

theorem Laid.file_new (h : J.Laid sessionId d fs) (path : String)
    (hp : ∀ f ∈ fs, f.path ≠ path) : path ∉ d.files.keys ∧ d.file path = [] := by
  have hkey : path ∉ d.files.keys := by
    rw [h.keys.mem_iff]
    intro hmem
    obtain ⟨f, hf, hfp⟩ := List.mem_map.1 hmem
    exact hp f hf hfp
  refine ⟨hkey, ?_⟩
  rw [SessionDir.file, AList.lookup_eq_none.2 hkey]
  rfl

/-- Writing records, whole or torn, at the end of the last file that has any. -/
theorem Laid.extend (xs ys : List (LogFile E)) {f : LogFile E} {pending : List E} {t : List UInt8}
    (h : J.Laid sessionId d (xs ++ f :: ys)) (hnd : ((xs ++ f :: ys).map LogFile.path).Nodup)
    (hys : log ys = []) (hf : f.torn = [])
    (hn : J.Numbered sessionId ((log (xs ++ f :: ys)).length + 1) pending)
    (he : ∀ e ∈ pending, J.Encodable e) (ht : J.reader.read t = none) :
    J.Laid sessionId { d with
        files := d.files.insert f.path (d.file f.path ++ (J.frames pending ++ t)) }
      (xs ++ { f with entries := f.entries ++ pending, torn := t } :: ys) := by
  have hmem : f ∈ xs ++ f :: ys := by simp
  have hpaths : (xs ++ { f with entries := f.entries ++ pending, torn := t } :: ys).map
      LogFile.path = (xs ++ f :: ys).map LogFile.path := by simp [LogFile.path]
  have hcases : ∀ g ∈ xs ++ { f with entries := f.entries ++ pending, torn := t } :: ys,
      g = { f with entries := f.entries ++ pending, torn := t } ∨
        (g ∈ xs ++ f :: ys ∧ g.path ≠ f.path) := by
    intro g hg
    rw [List.map_append, List.map_cons, List.nodup_append, List.nodup_cons] at hnd
    rcases List.mem_append.1 hg with hg | hg
    · exact .inr ⟨List.mem_append_left _ hg,
        hnd.2.2 _ (List.mem_map_of_mem hg) _ List.mem_cons_self⟩
    · rcases List.mem_cons.1 hg with rfl | hg
      · exact .inl rfl
      · exact .inr ⟨List.mem_append_right _ (List.mem_cons_of_mem _ hg),
          fun heq => hnd.2.1.1 (heq ▸ List.mem_map_of_mem hg)⟩
  refine ⟨?_, fun g hg => ?_, ?_, fun g hg => ?_, fun g hg => ?_⟩
  · rw [hpaths, AList.keys_insert]
    have hkey : f.path ∈ d.files.keys := h.keys.mem_iff.2 (List.mem_map_of_mem hmem)
    exact (List.perm_cons_erase hkey).symm.trans h.keys
  · change (d.files.insert f.path _).lookup g.path = _
    rw [Dict.lookup_insert_of]
    rcases hcases g hg with rfl | ⟨hg, hne⟩
    · have hself : ({ f with entries := f.entries ++ pending, torn := t } : LogFile E).path =
          f.path := rfl
      rw [if_pos hself, h.file hmem]
      simp only [bytes, hf, List.append_nil, frames_append, List.append_assoc]
    · rw [if_neg hne, h.files g hg]
  · have hlog : log (xs ++ { f with entries := f.entries ++ pending, torn := t } :: ys) =
        log (xs ++ f :: ys) ++ pending := by
      simp only [log_append, log_cons, hys, List.append_nil, List.append_assoc]
    rw [hlog, numbered_append, add_comm (1 : ℤ)]
    exact ⟨h.numbered, hn⟩
  · rcases hcases g hg with rfl | ⟨hg, -⟩
    · intro e hmem'
      rcases List.mem_append.1 hmem' with hmem' | hmem'
      · exact h.encodable f hmem e hmem'
      · exact he e hmem'
    · exact h.encodable g hg
  · rcases hcases g hg with rfl | ⟨hg, -⟩
    · exact ht
    · exact h.torn g hg

/-- Writing records, whole or torn, to a new file. -/
theorem Laid.extend_new {f : LogFile E} (h : J.Laid sessionId d fs)
    (hp : ∀ g ∈ fs, g.path ≠ f.path)
    (hn : J.Numbered sessionId ((log fs).length + 1) f.entries)
    (he : ∀ e ∈ f.entries, J.Encodable e) (ht : J.reader.read f.torn = none) :
    J.Laid sessionId { d with files := d.files.insert f.path (d.file f.path ++ J.bytes f) }
      (fs ++ [f]) := by
  obtain ⟨hkey, hfile⟩ := h.file_new f.path hp
  have hcases : ∀ g ∈ fs ++ [f], g = f ∨ g ∈ fs := by
    intro g hg
    rcases List.mem_append.1 hg with hg | hg
    · exact .inr hg
    · exact .inl (List.mem_singleton.1 hg)
  refine ⟨?_, fun g hg => ?_, ?_, fun g hg => ?_, fun g hg => ?_⟩
  · rw [AList.keys_insert, List.erase_of_not_mem hkey, List.map_append]
    exact (h.keys.cons _).trans (List.perm_append_singleton _ _).symm
  · change (d.files.insert f.path _).lookup g.path = _
    rw [Dict.lookup_insert_of]
    rcases List.mem_append.1 hg with hg | hg
    · rw [if_neg (hp g hg), h.files g hg]
    · rw [List.mem_singleton.1 hg, if_pos rfl, hfile, List.nil_append]
  · rw [log_append, numbered_append, add_comm (1 : ℤ)]
    refine ⟨h.numbered, ?_⟩
    rw [log_cons, log_nil, List.append_nil]
    exact hn
  · rcases hcases g hg with rfl | hg
    · exact he
    · exact h.encodable g hg
  · rcases hcases g hg with rfl | hg
    · exact ht
    · exact h.torn g hg

end Json

end Aize
