/-
  Framed SessionLog records (`kernel/storage.py`: `_encode_frame`,
  `_scan_segment`).

  A segment file is a row of frames: magic, payload length, CRC-32 of the
  payload, payload. JSON is the standard library's: `Json` says what storage
  uses of it, and that an encoded object decodes to itself.

  `scanSegment` is the loop of the source. It is an instance of the scan of
  self-delimiting frames (`scanSegment_eq`), which gives the round trip, the
  behaviour at a torn tail and that recovery loses no record
  (`scanSegment_encoded`).
-/
import Mathlib.Data.Nat.Digits.Defs
import Mathlib.Tactic.IntervalCases
import Aize.Defs
import Aize.Lib.Frames
import Aize.Lib.Result

namespace Aize

open Frames

/-! ## Checksums and JSON -/

/-- Eight shifts of the reflected CRC-32 register. -/
def crcShift (crc : UInt32) : UInt32 :=
  (List.range 8).foldl (fun c _ => if c &&& 1 = 1 then (c >>> 1) ^^^ 0xEDB88320 else c >>> 1) crc

/-- `zlib.crc32`. -/
def crc32 (bs : List UInt8) : UInt32 :=
  bs.foldl (fun crc b => crcShift (crc ^^^ b.toUInt32)) 0xFFFFFFFF ^^^ 0xFFFFFFFF

example : crc32 "123456789".toUTF8.toList = 0xCBF43926 := by decide +kernel

/-- What storage uses of a JSON object: `dumps` is its canonical UTF-8 text,
    `loads` decodes a text to an object (none if it is no UTF-8, no JSON or no
    object); the fields are read with their defaults. -/
structure Json (E : Type) where
  dumps : E → List UInt8
  loads : List UInt8 → Option E
  loads_dumps (e : E) : loads (dumps e) = some e
  /-- `int(entry.get("seq") or 0)` -/
  seq : E → Int
  /-- `str(entry.get("session_id") or "")` -/
  sessionId : E → String
  /-- `entry.get("kind")` -/
  kind : E → String

/-! ## Frames -/

def frameMagic : List UInt8 := "AIZELOG2".toUTF8.toList

/-- `FRAME_HEADER.size` -/
def headerSize : ℕ := 20

def maxFrameBytes : ℕ := 16 * 1024 * 1024

/-- `FRAME_HEADER.pack`: big-endian, 8 bytes of magic, 8 of length, 4 of checksum. -/
def packHeader (length checksum : ℕ) : List UInt8 :=
  frameMagic ++ (beBytes 8 length ++ beBytes 4 checksum)

/-- `FRAME_HEADER.unpack` -/
def unpackHeader (header : List UInt8) : List UInt8 × ℕ × ℕ :=
  (header.take 8, ofBeBytes ((header.drop 8).take 8), ofBeBytes (header.drop 16))

/-- One round of the loop of `_scan_segment`. -/
inductive FrameRead (E : Type) where
  /-- the file is at its end -/
  | eof
  /-- `truncated = True` -/
  | torn
  | frame (entry : E) (size : ℕ)

namespace Json

variable {E : Type} (J : Json E)

/-- `_encode_frame` -/
def encodeFrame (entry : E) : Except Err (List UInt8) :=
  let payload := J.dumps entry
  if payload.length > maxFrameBytes then
    .error (.storeError s!"SessionLog record exceeds {maxFrameBytes} bytes")
  else .ok (packHeader payload.length (crc32 payload).toNat ++ payload)

/-- Read one frame at the position of the handle. -/
def readFrame (handle : List UInt8) : FrameRead E :=
  let header := handle.take headerSize
  if header = [] then .eof
  else if header.length ≠ headerSize then .torn
  else
    let (magic, length, checksum) := unpackHeader header
    if magic ≠ frameMagic ∨ length > maxFrameBytes then .torn
    else
      let payload := (handle.drop headerSize).take length
      if payload.length ≠ length ∨ (crc32 payload).toNat ≠ checksum then .torn
      else
        match J.loads payload with
        | some entry => .frame entry (headerSize + length)
        | none => .torn

/-- What a successful read has checked. -/
theorem readFrame_eq_frame {h : List UInt8} {e : E} {n : ℕ} :
    J.readFrame h = .frame e n ↔ ∃ length, n = headerSize + length ∧ n ≤ h.length ∧
      length ≤ maxFrameBytes ∧
      unpackHeader (h.take headerSize) =
        (frameMagic, length, (crc32 ((h.drop headerSize).take length)).toNat) ∧
      J.loads ((h.drop headerSize).take length) = some e := by
  unfold readFrame
  simp only
  obtain ⟨magic, length, checksum⟩ := unpackHeader (h.take headerSize)
  have hlen : (h.take headerSize).length = headerSize ↔ headerSize ≤ h.length := by
    rw [List.length_take]; omega
  constructor
  · intro hr
    split_ifs at hr with h₀ h₁ h₂ h₃
    simp only [not_or, not_not, not_lt] at h₁ h₂ h₃
    split at hr
    · rename_i e' he
      cases hr
      have := hlen.1 h₁
      have h₄ := h₃.1
      rw [List.length_take, List.length_drop] at h₄
      refine ⟨length, rfl, by omega, h₂.2, ?_, he⟩
      rw [h₂.1, h₃.2]
    · cases hr
  · rintro ⟨l, rfl, hn, hmax, heq, hloads⟩
    simp only [Prod.mk.injEq] at heq
    obtain ⟨rfl, rfl, rfl⟩ := heq
    have hpay : ((h.drop headerSize).take length).length = length := by
      rw [List.length_take, List.length_drop]; omega
    have hfull : (h.take headerSize).length = headerSize := hlen.2 (by omega)
    rw [if_neg (fun h₀ => by rw [h₀] at hfull; cases hfull), if_neg (not_not.2 hfull),
      if_neg (by simpa using hmax), if_neg (by simpa using hpay), hloads]

/-- Only the end of the file ends the scan without a torn frame. -/
theorem readFrame_eq_eof {h : List UInt8} : J.readFrame h = .eof ↔ h = [] := by
  unfold readFrame
  constructor
  · intro hr
    by_contra hne
    have h₀ : h.take headerSize ≠ [] := by
      rw [Ne, List.take_eq_nil_iff]
      exact not_or.2 ⟨by decide, hne⟩
    simp only [if_neg h₀] at hr
    split_ifs at hr
    split at hr <;> cases hr
  · rintro rfl
    rfl

/-- Frames as the reader of a stream. -/
def reader : Reader UInt8 E where
  read h :=
    match J.readFrame h with
    | .frame e n => some (e, h.drop n)
    | _ => none
  read_used := by
    intro h e rest hr
    split at hr
    · rename_i e' n hf
      cases hr
      obtain ⟨length, rfl, hn, hmax, hhead, hloads⟩ := J.readFrame_eq_frame.1 hf
      refine ⟨h.take (headerSize + length), ?_, (List.take_append_drop _ h).symm, fun t => ?_⟩
      · refine List.ne_nil_of_length_pos ?_
        rw [List.length_take, Nat.min_eq_left hn]
        exact Nat.lt_of_lt_of_le (by decide : 0 < headerSize) (Nat.le_add_right _ _)
      · -- header and payload are read from the used part alone
        have hsize : (h.take (headerSize + length)).length = headerSize + length := by
          rw [List.length_take, Nat.min_eq_left hn]
        have hheader : (h.take (headerSize + length) ++ t).take headerSize = h.take headerSize := by
          rw [List.take_append_of_le_length (by omega), List.take_take,
            Nat.min_eq_left (Nat.le_add_right _ _)]
        have hpayload : ((h.take (headerSize + length) ++ t).drop headerSize).take length =
            (h.drop headerSize).take length := by
          rw [List.drop_append_of_le_length (by omega), List.drop_take, Nat.add_sub_cancel_left,
            List.take_append_of_le_length (by rw [List.length_take, List.length_drop]; omega),
            List.take_take, Nat.min_self]
        have hread : J.readFrame (h.take (headerSize + length) ++ t) =
            .frame e (headerSize + length) := by
          refine J.readFrame_eq_frame.2 ⟨length, rfl, ?_, hmax, ?_, ?_⟩
          · rw [List.length_append]; omega
          · rw [hheader, hpayload]; exact hhead
          · rw [hpayload]; exact hloads
        rw [hread]
        simp only
        rw [List.drop_append_of_le_length hsize.ge, List.drop_of_length_le hsize.le,
          List.nil_append]
    · cases hr

theorem reader_eq_some {h rest : List UInt8} {e : E} :
    J.reader.read h = some (e, rest) ↔ ∃ n, J.readFrame h = .frame e n ∧ rest = h.drop n := by
  change (match J.readFrame h with
    | .frame e n => some (e, h.drop n)
    | _ => none) = some (e, rest) ↔ _
  cases J.readFrame h with
  | frame e' n =>
    simp only [Option.some.injEq, Prod.mk.injEq, FrameRead.frame.injEq]
    constructor
    · rintro ⟨rfl, rfl⟩
      exact ⟨n, ⟨rfl, rfl⟩, rfl⟩
    · rintro ⟨m, ⟨rfl, rfl⟩, rfl⟩
      exact ⟨rfl, rfl⟩
  | eof => simp
  | torn => simp

/-! ## Scanning a segment -/

/-- The loop of `_scan_segment`. -/
def scanFrames (handle : List UInt8) (entries : List E) (validBytes : ℕ) :
    List E × ℕ × Bool :=
  match h : J.readFrame handle with
  | .eof => (entries, validBytes, false)
  | .torn => (entries, validBytes, true)
  | .frame entry size =>
    have : (handle.drop size).length < handle.length :=
      J.reader.read_length (J.reader_eq_some.2 ⟨size, h, rfl⟩)
    scanFrames (handle.drop size) (entries ++ [entry]) (validBytes + size)
termination_by handle.length
decreasing_by exact this

/-- `_scan_segment`: the entries, the number of valid bytes, and whether a torn frame
    follows them. -/
def scanSegment (file : List UInt8) : List E × ℕ × Bool := J.scanFrames file [] 0

/-- The file after `_scan_segment` with `recover`. -/
def recoverSegment (file : List UInt8) : List UInt8 :=
  let (_, validBytes, truncated) := J.scanSegment file
  if truncated then file.take validBytes else file

theorem scanFrames_eq (h : List UInt8) (entries : List E) (valid : ℕ) :
    J.scanFrames h entries valid = (entries ++ (J.reader.scan h).1,
      valid + (h.length - (J.reader.scan h).2.length), decide ((J.reader.scan h).2 ≠ [])) := by
  induction hn : h.length using Nat.strong_induction_on generalizing h entries valid with
  | _ n ih =>
    subst hn
    rw [scanFrames]
    split
    · rename_i hr
      have h₀ : h = [] := J.readFrame_eq_eof.1 hr
      subst h₀
      rw [J.reader.scan_nil]
      simp
    · rename_i hr
      have hne : h ≠ [] := fun h₀ => by rw [J.readFrame_eq_eof.2 h₀] at hr; cases hr
      have hnone : J.reader.read h = none := by
        cases hread : J.reader.read h with
        | none => rfl
        | some x =>
          obtain ⟨m, hm, -⟩ := J.reader_eq_some.1 hread
          rw [hr] at hm
          cases hm
      rw [J.reader.scan_none hnone]
      simp [hne]
    · rename_i e size hr
      have hread : J.reader.read h = some (e, h.drop size) := J.reader_eq_some.2 ⟨size, hr, rfl⟩
      have hlt := J.reader.read_length hread
      obtain ⟨length, -, hsize, -⟩ := J.readFrame_eq_frame.1 hr
      obtain ⟨used, hused, -⟩ := J.reader.scan_cut (h.drop size)
      have hrest : (J.reader.scan (h.drop size)).2.length ≤ (h.drop size).length := by
        conv_rhs => rw [hused]
        rw [List.length_append]
        exact Nat.le_add_left _ _
      rw [List.length_drop] at hlt hrest
      rw [ih _ (by rw [List.length_drop]; exact hlt) (h.drop size) _ _ rfl,
        J.reader.scan_some hread, List.length_drop]
      simp only [List.append_assoc, List.singleton_append, Prod.mk.injEq, true_and, and_true]
      omega

/-- **The loop is the scan of the stream of frames.** -/
theorem scanSegment_eq (file : List UInt8) :
    J.scanSegment file = ((J.reader.scan file).1, file.length - (J.reader.scan file).2.length,
      decide ((J.reader.scan file).2 ≠ [])) := by
  rw [scanSegment, J.scanFrames_eq, List.nil_append, Nat.zero_add]

/-! ## Encoded records -/

theorem length_frameMagic : frameMagic.length = 8 := by decide +kernel

@[simp] theorem length_packHeader (length checksum : ℕ) :
    (packHeader length checksum).length = headerSize := by
  rw [packHeader, List.length_append, List.length_append, length_beBytes, length_beBytes,
    length_frameMagic]
  rfl

theorem unpackHeader_packHeader {length checksum : ℕ} (hl : length < 256 ^ 8)
    (hc : checksum < 256 ^ 4) :
    unpackHeader (packHeader length checksum) = (frameMagic, length, checksum) := by
  have hmagic := length_frameMagic
  have h₈ : (packHeader length checksum).drop 8 = beBytes 8 length ++ beBytes 4 checksum := by
    rw [packHeader, List.drop_append_of_le_length hmagic.ge, List.drop_of_length_le hmagic.le]
    rfl
  have h₁₆ : (packHeader length checksum).drop 16 = beBytes 4 checksum := by
    rw [show 16 = 8 + 8 from rfl, ← List.drop_drop, h₈,
      List.drop_append_of_le_length (by simp), List.drop_of_length_le (by simp)]
    rfl
  have hlength : (beBytes 8 length ++ beBytes 4 checksum).take 8 = beBytes 8 length := by
    rw [List.take_append_of_le_length (by simp), List.take_of_length_le (by simp)]
  have hhead : (packHeader length checksum).take 8 = frameMagic := by
    rw [packHeader, List.take_append_of_le_length hmagic.ge, List.take_of_length_le hmagic.le]
  unfold unpackHeader
  rw [h₈, h₁₆, hhead, hlength, ofBeBytes_beBytes hc, ofBeBytes_beBytes hl]

/-- The frame of a record. -/
def frame (e : E) : List UInt8 :=
  packHeader (J.dumps e).length (crc32 (J.dumps e)).toNat ++ J.dumps e

/-- The record is within the frame limit. -/
def Encodable (e : E) : Prop := (J.dumps e).length ≤ maxFrameBytes

theorem length_frame (e : E) : (J.frame e).length = headerSize + (J.dumps e).length := by
  rw [frame, List.length_append, length_packHeader]

theorem encodeFrame_eq_ok {e : E} {f : List UInt8} :
    J.encodeFrame e = .ok f ↔ J.Encodable e ∧ f = J.frame e := by
  unfold encodeFrame Encodable frame
  simp only
  split_ifs with h
  · constructor
    · rintro ⟨⟩
    · rintro ⟨hle, -⟩
      omega
  · rw [Except.ok.injEq]
    constructor
    · rintro rfl
      exact ⟨not_lt.1 h, rfl⟩
    · rintro ⟨-, rfl⟩
      rfl

theorem mapM_encodeFrame_eq_ok {es : List E} {fs : List (List UInt8)} :
    es.mapM J.encodeFrame = .ok fs ↔ (∀ e ∈ es, J.Encodable e) ∧ fs = es.map J.frame := by
  induction es generalizing fs with
  | nil =>
    rw [List.mapM_nil, Except.pure_eq_ok]
    exact ⟨fun h => ⟨by simp, h.symm⟩, fun h => h.2.symm⟩
  | cons e es ih =>
    rw [List.mapM_cons, Except.bind_eq_ok, List.forall_mem_cons]
    constructor
    · rintro ⟨f, hf, h⟩
      obtain ⟨fs', hfs, h⟩ := Except.bind_eq_ok.1 h
      rw [Except.pure_eq_ok] at h
      obtain ⟨he, rfl⟩ := J.encodeFrame_eq_ok.1 hf
      obtain ⟨hes, rfl⟩ := ih.1 hfs
      exact ⟨⟨he, hes⟩, h.symm⟩
    · rintro ⟨⟨he, hes⟩, rfl⟩
      refine ⟨J.frame e, J.encodeFrame_eq_ok.2 ⟨he, rfl⟩, ?_⟩
      rw [ih.2 ⟨hes, rfl⟩]
      rfl

/-- **An encoded record is a frame.** -/
theorem isFrame_frame {e : E} (hmax : J.Encodable e) : J.reader.IsFrame (J.frame e) e := by
  intro t
  unfold frame
  unfold Encodable at hmax
  have hhead : (packHeader (J.dumps e).length (crc32 (J.dumps e)).toNat).length = headerSize :=
    length_packHeader _ _
  have hbound : maxFrameBytes < 256 ^ 8 := by decide
  rw [List.append_assoc]
  refine J.reader_eq_some.2 ⟨headerSize + (J.dumps e).length, ?_, ?_⟩
  · have hpay : ((packHeader (J.dumps e).length (crc32 (J.dumps e)).toNat ++
        (J.dumps e ++ t)).drop headerSize).take (J.dumps e).length = J.dumps e := by
      rw [List.drop_append_of_le_length hhead.ge, List.drop_of_length_le hhead.le, List.nil_append,
        List.take_append_of_le_length le_rfl, List.take_length]
    refine J.readFrame_eq_frame.2 ⟨(J.dumps e).length, rfl, ?_, hmax, ?_, ?_⟩
    · rw [List.length_append, List.length_append, hhead]; omega
    · rw [hpay, List.take_append_of_le_length hhead.ge, List.take_of_length_le hhead.le]
      exact unpackHeader_packHeader (lt_of_le_of_lt hmax hbound) (UInt32.toNat_lt _)
    · rw [hpay]; exact J.loads_dumps e
  · rw [List.drop_append, hhead, Nat.add_sub_cancel_left, List.drop_of_length_le (by omega),
      List.nil_append, List.drop_append_of_le_length le_rfl, List.drop_length, List.nil_append]

theorem forall₂_frame {es : List E} (h : ∀ e ∈ es, J.Encodable e) :
    List.Forall₂ J.reader.IsFrame (es.map J.frame) es := by
  rw [List.forall₂_map_left_iff]
  exact List.forall₂_same.2 fun e he => J.isFrame_frame (h e he)

/-- Encoded records followed by anything are read first. -/
theorem scan_encoded {es : List E} (h : ∀ e ∈ es, J.Encodable e) (t : List UInt8) :
    J.reader.scan ((es.map J.frame).flatten ++ t) =
      (es ++ (J.reader.scan t).1, (J.reader.scan t).2) :=
  J.reader.scan_frames (J.forall₂_frame h) t

theorem scanSegment_frames {es : List E} (h : ∀ e ∈ es, J.Encodable e) :
    J.scanSegment (es.map J.frame).flatten = (es, (es.map J.frame).flatten.length, false) := by
  have hscan := J.scan_encoded h []
  rw [List.append_nil, J.reader.scan_nil, List.append_nil] at hscan
  rw [J.scanSegment_eq, hscan]
  rfl

/-- The number of bytes that a scan accepts is that of the part it has read. -/
theorem scan_valid (b : List UInt8) :
    ∃ used, b = used ++ (J.reader.scan b).2 ∧
      used = b.take (b.length - (J.reader.scan b).2.length) ∧
      J.reader.scan used = ((J.reader.scan b).1, []) := by
  obtain ⟨used, hb, hscan⟩ := J.reader.scan_cut b
  refine ⟨used, hb, ?_, ?_⟩
  · have hlen : b.length - (J.reader.scan b).2.length = used.length := by
      conv_lhs => rw [hb, List.length_append]
      rw [← hb, Nat.add_sub_cancel]
    rw [hlen]
    conv_rhs => rw [hb, List.take_append_of_le_length le_rfl, List.take_length]
  · have := hscan []
    rwa [List.append_nil, J.reader.scan_nil, List.append_nil] at this

/-- Recovery cuts the file to its valid bytes. -/
theorem recoverSegment_eq (b : List UInt8) :
    J.recoverSegment b = b.take (J.scanSegment b).2.1 := by
  unfold recoverSegment
  rw [J.scanSegment_eq]
  simp only
  split_ifs with ht
  · rfl
  · have hnil : (J.reader.scan b).2 = [] := by simpa using ht
    rw [hnil, List.length_nil, Nat.sub_zero, List.take_length]

/-- The valid bytes of a file scan to the same records, and to nothing else. -/
theorem scanSegment_valid (b : List UInt8) : J.scanSegment (b.take (J.scanSegment b).2.1) =
    ((J.scanSegment b).1, (J.scanSegment b).2.1, false) := by
  obtain ⟨used, -, hused, hscan⟩ := J.scan_valid b
  rw [J.scanSegment_eq b]
  simp only
  rw [← hused, J.scanSegment_eq, hscan]
  refine Prod.ext rfl (Prod.ext ?_ rfl)
  change used.length - 0 = b.length - (J.reader.scan b).2.length
  rw [Nat.sub_zero, hused, List.length_take]
  omega

theorem recoverSegment_idem (b : List UInt8) :
    J.recoverSegment (J.recoverSegment b) = J.recoverSegment b := by
  rw [J.recoverSegment_eq b, J.recoverSegment_eq, J.scanSegment_valid, List.take_take,
    Nat.min_self]

/-- **Frame codec.** The frames of encodable records scan to these records; cut after
    any number of bytes, to those whose frames lie wholly before the cut, with a torn frame
    exactly where the cut is not between two frames; and whatever follows does not hide them.
    Of any bytes at all, what the scan accepts is a prefix that scans to the same records
    without a torn frame, and it is what recovery leaves. -/
theorem scanSegment_encoded :
    (∀ (es : List E) (fs : List (List UInt8)), es.mapM J.encodeFrame = .ok fs →
      J.scanSegment fs.flatten = (es, fs.flatten.length, false) ∧
      (∀ n ≤ fs.flatten.length, ∃ k ≤ es.length, (fs.take k).flatten.length ≤ n ∧
        (k < es.length → n < (fs.take (k + 1)).flatten.length) ∧
        J.scanSegment (fs.flatten.take n) =
          (es.take k, (fs.take k).flatten.length, decide ((fs.take k).flatten.length < n))) ∧
      ∀ t, es <+: (J.scanSegment (fs.flatten ++ t)).1) ∧
    ∀ (b : List UInt8) (es : List E) (n : ℕ) (torn : Bool), J.scanSegment b = (es, n, torn) →
      n ≤ b.length ∧ J.scanSegment (b.take n) = (es, n, false) ∧
      J.recoverSegment b = b.take n ∧ J.recoverSegment (b.take n) = b.take n := by
  refine ⟨fun es fs hfs => ?_, fun b es n torn h => ?_⟩
  · obtain ⟨h, rfl⟩ := J.mapM_encodeFrame_eq_ok.1 hfs
    refine ⟨J.scanSegment_frames h, fun n hn => ?_, fun t => ?_⟩
    · obtain ⟨k, hk, hle, hlt, hscan⟩ := J.reader.scan_take (J.forall₂_frame h) hn
      refine ⟨k, hk, hle, hlt, ?_⟩
      rw [J.scanSegment_eq, hscan, List.length_drop, List.length_take, Nat.min_eq_left hn]
      refine Prod.ext rfl (Prod.ext ?_ ?_)
      · change n - (n - ((es.map J.frame).take k).flatten.length) =
          ((es.map J.frame).take k).flatten.length
        omega
      · rw [decide_eq_decide, Ne, List.drop_eq_nil_iff, List.length_take, Nat.min_eq_left hn,
          not_le]
    · rw [J.scanSegment_eq, J.scan_encoded h t]
      exact List.prefix_append _ _
  · have hvalid := J.scanSegment_valid b
    have hidem := J.recoverSegment_idem b
    rw [J.recoverSegment_eq b, h] at hidem
    rw [h] at hvalid
    refine ⟨?_, hvalid, ?_, hidem⟩
    · have hn : n = (J.scanSegment b).2.1 := by rw [h]
      rw [hn, J.scanSegment_eq]
      exact Nat.sub_le _ _
    · rw [J.recoverSegment_eq, h]

end Json

/-! ## Records of one Session as JSON texts -/

/-- The texts of the records used as concrete inputs: Messages of Session `a`, given by
    the number before their `seq` and the length of their body. -/
structure Sample where
  index : ℕ
  body : ℕ
  deriving DecidableEq, Repr

namespace Sample

/-- The UTF-8 bytes of a text. -/
def utf8 (s : String) : List UInt8 := s.toUTF8.toList

/-- A number in decimal. -/
def decimal (n : ℕ) : List UInt8 := ((Nat.digits 10 n).map fun d => UInt8.ofNat (d + 48)).reverse

def isDigit (b : UInt8) : Bool := 48 ≤ b && b ≤ 57

def beforeSeq : List UInt8 := utf8 "\",\"kind\":\"Message\",\"seq\":"

def afterSeq : List UInt8 := utf8 ",\"session_id\":\"a\"\x7d"

def beforeBody : List UInt8 := utf8 "\x7b\"body\":\""

/-- `json.dumps` of the record. -/
def dumps (e : Sample) : List UInt8 :=
  beforeBody ++ (List.replicate e.body 120 ++ (beforeSeq ++ (decimal (e.index + 1) ++ afterSeq)))

/-- Reads the body's length and the number off a text. -/
def parse (b : List UInt8) : Sample :=
  let body := ((b.drop beforeBody.length).takeWhile (· == 120)).length
  let digits := (b.drop (beforeBody.length + body + beforeSeq.length)).takeWhile isDigit
  ⟨Nat.ofDigits 10 (digits.reverse.map fun d => d.toNat - 48) - 1, body⟩

def loads (b : List UInt8) : Option Sample :=
  if (parse b).dumps = b then some (parse b) else none

theorem takeWhile_append_cons {α : Type} {p : α → Bool} {l t : List α} {a : α}
    (hl : ∀ x ∈ l, p x = true) (ha : p a = false) : (l ++ a :: t).takeWhile p = l := by
  induction l with
  | nil => rw [List.nil_append, List.takeWhile_cons, ha]; rfl
  | cons x l ih =>
    rw [List.cons_append, List.takeWhile_cons, hl x List.mem_cons_self, if_pos rfl,
      ih fun y hy => hl y (List.mem_cons_of_mem _ hy)]

theorem isDigit_decimal {n : ℕ} {b : UInt8} (h : b ∈ decimal n) : isDigit b = true := by
  simp only [decimal, List.mem_reverse, List.mem_map] at h
  obtain ⟨d, hd, rfl⟩ := h
  have hlt : d < 10 := Nat.digits_lt_base (by decide) hd
  interval_cases d <;> decide

theorem ofDigits_decimal (n : ℕ) :
    Nat.ofDigits 10 ((decimal n).reverse.map fun d => d.toNat - 48) = n := by
  have hdigits : ((decimal n).reverse.map fun d => d.toNat - 48) = Nat.digits 10 n := by
    rw [decimal, List.reverse_reverse, List.map_map]
    conv_rhs => rw [← List.map_id (Nat.digits 10 n)]
    refine List.map_congr_left fun d hd => ?_
    have hlt : d < 10 := Nat.digits_lt_base (by decide) hd
    interval_cases d <;> decide
  rw [hdigits, Nat.ofDigits_digits]

theorem parse_dumps (e : Sample) : parse e.dumps = e := by
  obtain ⟨q, m, hq⟩ : ∃ q m, beforeSeq = q :: m ∧ (q == 120) = false :=
    ⟨34, beforeSeq.tail, by decide +kernel⟩
  obtain ⟨c, n, hc⟩ : ∃ c n, afterSeq = c :: n ∧ isDigit c = false :=
    ⟨44, afterSeq.tail, by decide +kernel⟩
  have hbody : (e.dumps.drop beforeBody.length).takeWhile (· == 120) = List.replicate e.body 120 := by
    rw [dumps, List.drop_left, hq.1, List.cons_append]
    refine takeWhile_append_cons (fun x hx => ?_) hq.2
    rw [List.eq_of_mem_replicate hx]
    rfl
  have hdigits : (e.dumps.drop (beforeBody.length + e.body + beforeSeq.length)).takeWhile isDigit =
      decimal (e.index + 1) := by
    rw [dumps, ← List.drop_drop, ← List.drop_drop, List.drop_left]
    conv_lhs =>
      rw [show (List.replicate e.body (120 : UInt8) ++
        (beforeSeq ++ (decimal (e.index + 1) ++ afterSeq))).drop e.body =
          beforeSeq ++ (decimal (e.index + 1) ++ afterSeq) by
        conv_lhs => rw [show e.body = (List.replicate e.body (120 : UInt8)).length by simp]
        simp]
    rw [List.drop_left, hc.1]
    exact takeWhile_append_cons (fun x hx => isDigit_decimal hx) hc.2
  unfold parse
  simp only
  rw [hbody, List.length_replicate, hdigits, ofDigits_decimal, Nat.add_sub_cancel]

end Sample

/-- JSON on these records. -/
def sampleJson : Json Sample where
  dumps := Sample.dumps
  loads := Sample.loads
  loads_dumps e := by rw [Sample.loads, Sample.parse_dumps, if_pos rfl]
  seq e := e.index + 1
  sessionId _ := "a"
  kind _ := "Message"

theorem Json.scanSegment_encoded_two :
    ∃ fs, [Sample.mk 0 2, Sample.mk 1 0].mapM sampleJson.encodeFrame = .ok fs ∧
      sampleJson.scanSegment fs.flatten = ([Sample.mk 0 2, Sample.mk 1 0], fs.flatten.length, false) := by
  have h : ∀ e ∈ [Sample.mk 0 2, Sample.mk 1 0], sampleJson.Encodable e := by
    unfold Json.Encodable
    decide +kernel
  have hfs := sampleJson.mapM_encodeFrame_eq_ok.2 ⟨h, rfl⟩
  exact ⟨_, hfs, (sampleJson.scanSegment_encoded.1 _ _ hfs).1⟩

end Aize
