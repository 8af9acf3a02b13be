/-
  Decimal numerals of one width sort like their numbers.

  A numeral is a list of characters between '0' and '9'; its number is the
  library's `Nat.ofDigitChars`. `zeroPadded` writes a number with at least
  `width` digits; below `10 ^ width` all these numerals have the same length,
  so that their lexicographic order is the order of the numbers
  (`zeroPadded_append_lt`).
-/
import Mathlib.Data.String.Basic
import Mathlib.Tactic.Common

namespace Digits

/-- The characters are decimal digits. -/
def Numeral (cs : List Char) : Prop := ∀ c ∈ cs, c.isDigit = true

theorem toNat_of_isDigit {c : Char} (h : c.isDigit = true) : 48 ≤ c.toNat ∧ c.toNat ≤ 57 := by
  simp only [Char.isDigit, Bool.and_eq_true, decide_eq_true_eq] at h
  exact ⟨UInt32.le_iff_toNat_le.1 h.1, UInt32.le_iff_toNat_le.1 h.2⟩

/-- A smaller number before the numeral stays smaller after it. -/
theorem ofDigitChars_lt_of_lt : ∀ {xs ys : List Char}, Numeral xs → Numeral ys →
    xs.length = ys.length → ∀ {i j : ℕ}, i < j → Nat.ofDigitChars 10 xs i < Nat.ofDigitChars 10 ys j
  | [], [], _, _, _, _, _, h => by simpa using h
  | [], _ :: _, _, _, hl, _, _, _ => by cases hl
  | _ :: _, [], _, _, hl, _, _, _ => by cases hl
  | x :: xs, y :: ys, hx, hy, hl, i, j, h => by
    rw [Nat.ofDigitChars_cons, Nat.ofDigitChars_cons]
    have hd := toNat_of_isDigit (hx x List.mem_cons_self)
    refine ofDigitChars_lt_of_lt (fun c hc => hx c (List.mem_cons_of_mem _ hc))
      (fun c hc => hy c (List.mem_cons_of_mem _ hc)) (Nat.succ.inj hl) ?_
    have hzero : '0'.toNat = 48 := rfl
    omega

/-- **Numerals of one length are in lexicographic order when their numbers are in
    order**, whatever follows them. -/
theorem append_lt_append_of_lt : ∀ {xs ys : List Char}, Numeral xs → Numeral ys →
    xs.length = ys.length → ∀ {i : ℕ}, Nat.ofDigitChars 10 xs i < Nat.ofDigitChars 10 ys i →
    ∀ t : List Char, xs ++ t < ys ++ t
  | [], [], _, _, _, i, h, _ => by simp at h
  | [], _ :: _, _, _, hl, _, _, _ => by cases hl
  | _ :: _, [], _, _, hl, _, _, _ => by cases hl
  | x :: xs, y :: ys, hx, hy, hl, i, h, t => by
    rw [Nat.ofDigitChars_cons, Nat.ofDigitChars_cons] at h
    have hxs : Numeral xs := fun c hc => hx c (List.mem_cons_of_mem _ hc)
    have hys : Numeral ys := fun c hc => hy c (List.mem_cons_of_mem _ hc)
    rw [List.cons_append, List.cons_append, List.cons_lt_cons_iff]
    rcases lt_trichotomy x y with hlt | rfl | hgt
    · exact .inl hlt
    · exact .inr ⟨rfl, append_lt_append_of_lt hxs hys (Nat.succ.inj hl) h t⟩
    · have hd := toNat_of_isDigit (hy y List.mem_cons_self)
      have hval : y.toNat < x.toNat := UInt32.lt_iff_toNat_lt.1 hgt
      have hzero : '0'.toNat = 48 := rfl
      have := ofDigitChars_lt_of_lt hys hxs (Nat.succ.inj hl).symm
        (i := 10 * i + (y.toNat - '0'.toNat)) (j := 10 * i + (x.toNat - '0'.toNat)) (by omega)
      omega

/-- A number in decimal with at least `width` digits. -/
def zeroPadded (width n : ℕ) : List Char :=
  List.replicate (width - (Nat.toDigits 10 n).length) '0' ++ Nat.toDigits 10 n

theorem numeral_zeroPadded (width n : ℕ) : Numeral (zeroPadded width n) := by
  intro c hc
  rcases List.mem_append.1 hc with h | h
  · rw [List.eq_of_mem_replicate h]; rfl
  · exact Nat.isDigit_of_mem_toDigits (by decide) (by decide) h

@[simp] theorem ofDigitChars_zeroPadded (width n : ℕ) :
    Nat.ofDigitChars 10 (zeroPadded width n) 0 = n := by
  rw [zeroPadded, Nat.ofDigitChars_append, Nat.ofDigitChars_replicate_zero, Nat.mul_zero,
    Nat.ofDigitChars_ten_toDigits]

theorem zeroPadded_injective (width : ℕ) : Function.Injective (zeroPadded width) := fun m n h => by
  rw [← ofDigitChars_zeroPadded width m, h, ofDigitChars_zeroPadded]

theorem length_zeroPadded {width n : ℕ} (hw : 0 < width) (h : n < 10 ^ width) :
    (zeroPadded width n).length = width := by
  have := (Nat.length_toDigits_le_iff (b := 10) (by decide) hw).2 h
  rw [zeroPadded, List.length_append, List.length_replicate]
  omega

/-- **Padded numerals that fit their width are in the order of their numbers.** -/
theorem zeroPadded_append_lt {width m n : ℕ} (hw : 0 < width) (hm : m < 10 ^ width)
    (hn : n < 10 ^ width) (h : m < n) (t : List Char) :
    zeroPadded width m ++ t < zeroPadded width n ++ t :=
  append_lt_append_of_lt (numeral_zeroPadded _ _) (numeral_zeroPadded _ _)
    (by rw [length_zeroPadded hw hm, length_zeroPadded hw hn]) (i := 0) (by simpa using h) t

end Digits
