/-
  Streams of self-delimiting frames.

  A `Reader` takes one item off the front of a stream. What it takes does not
  depend on what follows (`read_append`), so frames can be put one after the
  other, and a cut in the middle of a frame is seen as one: `scan` reads items
  until the stream is at its end or at something the reader refuses, and
  returns the items and the rest.

  * `scan_frames`: a scan of frames followed by anything reads these frames
    first;
  * `scan_take`: a scan of frames cut anywhere reads the whole frames before
    the cut;
  * `scan_cut`: without its refused rest, a stream is read to its end, with the
    same items.

  At the end, numbers as big-endian bytes of a fixed width.
-/
import Mathlib.Data.List.Forall2
import Mathlib.Algebra.Order.Group.Nat
import Mathlib.Tactic.Common

namespace Frames

/-- Reads one item; a successful read uses at least one symbol, and does not look
    beyond the symbols that it uses. -/
structure Reader (β α : Type) where
  read : List β → Option (α × List β)
  read_used {bs : List β} {a : α} {rest : List β} : read bs = some (a, rest) →
    ∃ f : List β, f ≠ [] ∧ bs = f ++ rest ∧ ∀ rest', read (f ++ rest') = some (a, rest')

namespace Reader

variable {β α : Type} (r : Reader β α)

theorem read_length {bs rest : List β} {a : α} (h : r.read bs = some (a, rest)) :
    rest.length < bs.length := by
  obtain ⟨f, hf, rfl, -⟩ := r.read_used h
  have := List.length_pos_iff.2 hf
  rw [List.length_append]
  omega

/-- Reads items until the reader refuses: the items, and what is left. -/
def scan (bs : List β) : List α × List β :=
  match h : r.read bs with
  | none => ([], bs)
  | some (a, rest) =>
    have := r.read_length h
    (a :: (scan rest).1, (scan rest).2)
termination_by bs.length

theorem scan_none {bs : List β} (h : r.read bs = none) : r.scan bs = ([], bs) := by
  rw [scan]
  split
  · rfl
  · rename_i h'
    rw [h] at h'
    cases h'

theorem scan_some {bs rest : List β} {a : α} (h : r.read bs = some (a, rest)) :
    r.scan bs = (a :: (r.scan rest).1, (r.scan rest).2) := by
  rw [scan]
  split
  · rename_i h'
    rw [h] at h'
    cases h'
  · rename_i a' rest' h'
    obtain ⟨rfl, rfl⟩ : a = a' ∧ rest = rest' := by
      simpa using h.symm.trans h'
    rfl

theorem read_nil : r.read [] = none := by
  cases h : r.read [] with
  | none => rfl
  | some x => exact absurd (r.read_length h) (by simp)

theorem scan_nil : r.scan [] = ([], []) := r.scan_none r.read_nil

/-- The reader refuses what is left. -/
theorem read_scan_snd (bs : List β) : r.read (r.scan bs).2 = none := by
  induction h : bs.length using Nat.strong_induction_on generalizing bs with
  | _ n ih =>
    cases hr : r.read bs with
    | none => rwa [r.scan_none hr]
    | some x =>
      have hlt := r.read_length hr
      rw [r.scan_some hr]
      exact ih _ (h ▸ hlt) x.2 rfl

/-- **Without what is left, a stream is read to its end, with the same items**; and
    whatever follows is read after them. -/
theorem scan_cut (bs : List β) :
    ∃ used : List β, bs = used ++ (r.scan bs).2 ∧
      ∀ t, r.scan (used ++ t) = ((r.scan bs).1 ++ (r.scan t).1, (r.scan t).2) := by
  induction h : bs.length using Nat.strong_induction_on generalizing bs with
  | _ n ih =>
    cases hr : r.read bs with
    | none =>
      rw [r.scan_none hr]
      exact ⟨[], rfl, fun t => rfl⟩
    | some x =>
      obtain ⟨a, rest⟩ := x
      obtain ⟨f, -, rfl, hf⟩ := r.read_used hr
      have hlt := r.read_length hr
      obtain ⟨used, hrest, hused⟩ := ih rest.length (h ▸ hlt) rest rfl
      rw [r.scan_some hr]
      refine ⟨f ++ used, ?_, fun t => ?_⟩
      · rw [List.append_assoc, ← hrest]
      · rw [List.append_assoc, r.scan_some (hf (used ++ t)), hused t]
        rfl

/-- `f` is a frame of `a`: it is read as `a`, whatever follows. -/
def IsFrame (f : List β) (a : α) : Prop := ∀ t, r.read (f ++ t) = some (a, t)

/-- **Frames are read one after the other.** -/
theorem scan_frames {fs : List (List β)} {as : List α} (h : List.Forall₂ r.IsFrame fs as)
    (t : List β) :
    r.scan (fs.flatten ++ t) = (as ++ (r.scan t).1, (r.scan t).2) := by
  induction h with
  | nil => rfl
  | @cons f a fs as hf _ ih =>
    rw [List.flatten_cons, List.append_assoc, r.scan_some (hf _), ih]
    rfl

/-- A frame that is cut short is refused. -/
theorem read_short {f p q : List β} {a : α} (hf : r.IsFrame f a) (h : f = p ++ q) (hq : q ≠ []) :
    r.read p = none := by
  cases hp : r.read p with
  | none => rfl
  | some x =>
    obtain ⟨a', rest⟩ := x
    obtain ⟨g, -, rfl, hg⟩ := r.read_used hp
    have hwhole : r.read f = some (a, []) := by simpa using hf []
    rw [h, List.append_assoc, hg (rest ++ q)] at hwhole
    have : rest ++ q = [] := by simpa using congrArg (Option.map Prod.snd) hwhole
    exact absurd (List.append_eq_nil_iff.1 this).2 hq

/-- **A scan of frames that are cut after `n` symbols** reads the frames that lie wholly
    before the cut, and leaves the part of the frame that the cut is in. -/
theorem scan_take {fs : List (List β)} {as : List α} (h : List.Forall₂ r.IsFrame fs as) {n : ℕ}
    (hn : n ≤ fs.flatten.length) :
    ∃ k ≤ as.length, (fs.take k).flatten.length ≤ n ∧
      (k < as.length → n < (fs.take (k + 1)).flatten.length) ∧
      r.scan (fs.flatten.take n) =
        (as.take k, (fs.flatten.take n).drop (fs.take k).flatten.length) := by
  induction h generalizing n with
  | nil => exact ⟨0, le_rfl, Nat.zero_le _, fun h => absurd h (lt_irrefl _), by simp [r.scan_nil]⟩
  | @cons f a fs as hf _ ih =>
    rw [List.flatten_cons] at hn ⊢
    by_cases hc : n < f.length
    · -- the cut is in the first frame
      have hshort : (f ++ fs.flatten).take n = f.take n := by
        rw [List.take_append_of_le_length hc.le]
      refine ⟨0, Nat.zero_le _, Nat.zero_le _, fun _ => by simpa using hc, ?_⟩
      rw [hshort]
      refine r.scan_none (r.read_short hf (List.take_append_drop n f).symm ?_)
      exact List.ne_nil_of_length_pos (by rw [List.length_drop]; omega)
    · have hsplit : (f ++ fs.flatten).take n = f ++ fs.flatten.take (n - f.length) := by
        rw [List.take_append, List.take_of_length_le (by omega)]
      rw [List.length_append] at hn
      obtain ⟨k, hk, hle, hlt, hscan⟩ := ih (n := n - f.length) (by omega)
      refine ⟨k + 1, Nat.succ_le_succ hk, ?_, fun h => ?_, ?_⟩
      · rw [List.take_succ_cons, List.flatten_cons, List.length_append]
        omega
      · have := hlt (Nat.lt_of_succ_lt_succ h)
        rw [List.take_succ_cons, List.flatten_cons, List.length_append]
        omega
      · rw [hsplit, r.scan_some (hf _), hscan, List.take_succ_cons, List.take_succ_cons,
          List.flatten_cons, List.length_append, List.drop_append]
        simp

end Reader

/-! ## Big-endian numbers -/

/-- The last `k` base-256 digits of `n`, the most significant first. -/
def beBytes : ℕ → ℕ → List UInt8
  | 0, _ => []
  | k + 1, n => beBytes k (n / 256) ++ [UInt8.ofNat (n % 256)]

/-- The number with these base-256 digits, the most significant first. -/
def ofBeBytes (bs : List UInt8) : ℕ := bs.foldl (fun n b => n * 256 + b.toNat) 0

@[simp] theorem length_beBytes (k n : ℕ) : (beBytes k n).length = k := by
  induction k generalizing n with
  | zero => rfl
  | succ k ih => rw [beBytes, List.length_append, ih, List.length_singleton]

theorem ofBeBytes_beBytes {k n : ℕ} (h : n < 256 ^ k) : ofBeBytes (beBytes k n) = n := by
  induction k generalizing n with
  | zero =>
    obtain rfl : n = 0 := by simpa using h
    rfl
  | succ k ih =>
    have hdiv : n / 256 < 256 ^ k := by
      rw [Nat.div_lt_iff_lt_mul (by decide)]
      exact lt_of_lt_of_eq h (pow_succ _ _)
    have hdigits : ofBeBytes (beBytes (k + 1) n) =
        ofBeBytes (beBytes k (n / 256)) * 256 + (UInt8.ofNat (n % 256)).toNat := by
      rw [beBytes, ofBeBytes, List.foldl_append]
      rfl
    rw [hdigits, ih hdiv, UInt8.toNat_ofNat']
    omega

end Frames
