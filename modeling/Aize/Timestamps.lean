/-
  Timestamps as texts: what `datetime.fromisoformat` reads, and that it reads
  back what `isoformat` writes.

  `fromIsoformat` reads the extended forms of a date and time with an offset:
  `YYYY-MM-DD`, a separator, `HH[:MM[:SS[.ffffff]]]`, and `Z` or
  `±HH[:MM[:SS[.ffffff]]]`; its value is the instant, in microseconds. The
  calendar is the proleptic Gregorian one: `daysFromCivil` is the inverse of
  `civil` (`daysFromCivil_civil`), and `civil` only gives dates of the calendar
  (`validDate_civil`). Hence the text of any second between the years 1 and 9999
  reads back as this second (`fromIsoformat_isoformat`).
-/
import Mathlib
import Aize.Defs
import Aize.Lib.Digits

namespace Aize

/-! ## The calendar -/

/-- The number of days from the epoch to a date: the inverse of `civil`. -/
def daysFromCivil (year month day : Int) : Int :=
  let y := year - (if month ≤ 2 then 1 else 0)
  let mp := if month ≤ 2 then month + 9 else month - 3
  y * 365 + y / 4 - y / 100 + y / 400 + (153 * mp + 2) / 5 + (day - 1) - 719468

def leapYear (year : Int) : Bool := year % 4 = 0 && (year % 100 ≠ 0 || year % 400 = 0)

def daysInMonth (year month : Int) : Int :=
  if month = 2 then (if leapYear year then 29 else 28)
  else if month = 4 ∨ month = 6 ∨ month = 9 ∨ month = 11 then 30
  else 31

/-- The dates that a `date` object can hold, but for the bounds on the year. -/
def ValidDate (year month day : Int) : Prop :=
  1 ≤ month ∧ month ≤ 12 ∧ 1 ≤ day ∧ day ≤ daysInMonth year month

instance (year month day : Int) : Decidable (ValidDate year month day) := by
  unfold ValidDate; infer_instance

/-- The year of the 400 years' cycle in which a day of the cycle lies, counted
    from March, and the day of this year. -/
structure CycleDay (doe yoe doy : Int) : Prop where
  year_nonneg : 0 ≤ yoe
  year_lt : yoe < 400
  day_nonneg : 0 ≤ doy
  day_le : doy ≤ 365
  leap : doy = 365 → yoe % 4 = 3 ∧ (yoe % 100 ≠ 99 ∨ yoe = 399)
  eq : doe = 365 * yoe + yoe / 4 - yoe / 100 + doy

/-- The division by which `civil` finds the year of the cycle. -/
theorem cycleDay {doe : Int} (h0 : 0 ≤ doe) (h1 : doe < 146097) :
    let yoe := (doe - doe / 1460 + doe / 36524 - doe / 146096) / 365
    CycleDay doe yoe (doe - (365 * yoe + yoe / 4 - yoe / 100)) := by
  intro yoe
  have hy : yoe = (doe - doe / 1460 + doe / 36524 - doe / 146096) / 365 := rfl
  clear_value yoe
  obtain ⟨doy, hd⟩ : ∃ doy, doy = doe - (365 * yoe + yoe / 4 - yoe / 100) := ⟨_, rfl⟩
  rw [← hd]
  rcases eq_or_ne doe 146096 with rfl | hne
  · constructor <;> omega
  -- in each of the four centuries of the cycle all divisions but one are by constants
  have hq : doe / 146096 = 0 := by omega
  obtain ⟨c, hc⟩ : ∃ c, doe / 36524 = c := ⟨_, rfl⟩
  have hcases : c = 0 ∨ c = 1 ∨ c = 2 ∨ c = 3 := by omega
  rw [hq, hc] at hy
  have hcentury : yoe / 100 = c := by rcases hcases with rfl | rfl | rfl | rfl <;> omega
  rw [hcentury] at hd
  have hday : 0 ≤ doy ∧ doy ≤ 365 := by
    rcases hcases with rfl | rfl | rfl | rfl <;> constructor <;> omega
  have hleap : doy = 365 → yoe % 4 = 3 ∧ (yoe % 100 ≠ 99 ∨ yoe = 399) := by
    rcases hcases with rfl | rfl | rfl | rfl <;> omega
  exact ⟨by omega, by omega, hday.1, hday.2, hleap, by omega⟩

/-- The date of a day of the cycle, as `civil` computes it. -/
theorem date_of_cycleDay {doe yoe doy : Int} (h : CycleDay doe yoe doy) (era : Int) :
    let mp := (5 * doy + 2) / 153
    let month := if mp < 10 then mp + 3 else mp - 9
    let year := yoe + era * 400 + (if month ≤ 2 then 1 else 0)
    let day := doy - (153 * mp + 2) / 5 + 1
    daysFromCivil year month day = era * 146097 + doe - 719468 ∧ ValidDate year month day := by
  obtain ⟨h0, h1, h2, h3, hl, he⟩ := h
  intro mp month year day
  have hmp : mp = (5 * doy + 2) / 153 := rfl
  have hm : month = if mp < 10 then mp + 3 else mp - 9 := rfl
  have hy : year = yoe + era * 400 + (if month ≤ 2 then 1 else 0) := rfl
  have hd : day = doy - (153 * mp + 2) / 5 + 1 := rfl
  clear_value mp month year day
  unfold daysFromCivil ValidDate daysInMonth
  rcases lt_or_ge mp 10 with hlt | hge
  · -- March to December
    rw [if_pos hlt] at hm
    rw [if_neg (by omega : ¬ month ≤ 2)] at hy
    rw [if_neg (by omega : ¬ month ≤ 2), if_neg (by omega : ¬ month ≤ 2),
      if_neg (by omega : ¬ month = 2)]
    refine ⟨by simp only; omega, by omega, by omega, by omega, ?_⟩
    split_ifs <;> omega
  · -- January and February, of the next year
    rw [if_neg (by omega)] at hm
    rw [if_pos (by omega : month ≤ 2)] at hy
    rw [if_pos (by omega : month ≤ 2), if_pos (by omega : month ≤ 2)]
    refine ⟨by simp only; omega, by omega, by omega, by omega, ?_⟩
    unfold leapYear
    simp only [Bool.and_eq_true, Bool.or_eq_true, decide_eq_true_eq]
    split_ifs <;> omega

/-- **`daysFromCivil` is the inverse of `civil`.** -/
theorem daysFromCivil_civil (days : Int) :
    daysFromCivil (civil days).1 (civil days).2.1 (civil days).2.2 = days := by
  have h := @cycleDay ((days + 719468) % 146097) (by omega) (by omega)
  obtain ⟨heq, -⟩ := date_of_cycleDay h ((days + 719468) / 146097)
  simp only [civil]
  rw [heq]
  omega

theorem validDate_civil (days : Int) :
    ValidDate (civil days).1 (civil days).2.1 (civil days).2.2 := by
  have h := @cycleDay ((days + 719468) % 146097) (by omega) (by omega)
  obtain ⟨-, hvalid⟩ := date_of_cycleDay h ((days + 719468) / 146097)
  simp only [civil]
  exact hvalid

/-- The instants that a `datetime` can hold are those of the years 1 to 9999. -/
theorem year_civil (t : Int) : Representable t ↔
    1 ≤ (civil (t / 1000000 / 86400)).1 ∧ (civil (t / 1000000 / 86400)).1 ≤ 9999 := by
  unfold Representable minInstant maxInstant
  obtain ⟨days, hdays⟩ : ∃ days, t / 1000000 / 86400 = days := ⟨_, rfl⟩
  have hbounds : (-62135596800000000 ≤ t ∧ t ≤ 253402300799999999) ↔
      306 ≤ days + 719468 ∧ days + 719468 ≤ 3652364 := by omega
  rw [hdays, hbounds]
  have hc := @cycleDay ((days + 719468) % 146097) (by omega) (by omega)
  obtain ⟨hy0, hy1, hd0, hd1, -, he⟩ := hc
  simp only [civil]
  generalize ((days + 719468) % 146097 - (days + 719468) % 146097 / 1460 +
    (days + 719468) % 146097 / 36524 - (days + 719468) % 146097 / 146096) / 365 = yoe
    at hy0 hy1 hd0 hd1 he ⊢
  generalize (days + 719468) % 146097 - (365 * yoe + yoe / 4 - yoe / 100) = doy at hd0 hd1 he ⊢
  have hz := Int.mul_ediv_add_emod (days + 719468) 146097
  rw [he] at hz
  generalize (days + 719468) / 146097 = era at hz ⊢
  clear hbounds hdays he
  -- the first and the last year lie in the first and the last cycle
  rcases (by omega : era < 0 ∨ era = 0 ∨ (0 < era ∧ era < 24) ∨ era = 24 ∨ 24 < era) with
    hera | rfl | hera | rfl | hera <;> split_ifs <;> omega

/-! ## Reading a timestamp -/

/-- A number of exactly `width` digits at the head of a text, and the rest. -/
def isoNumber (width : ℕ) (cs : List Char) : Option (Int × List Char) :=
  let ds := cs.take width
  if ds.length = width ∧ ds.all Char.isDigit then
    some (Nat.ofDigitChars 10 ds 0, cs.drop width)
  else none

/-- The rest of a text after a given character. -/
def isoAfter (c : Char) : List Char → Option (List Char)
  | [] => none
  | c' :: cs => if c' = c then some cs else none

/-- A fraction of a second, in microseconds: digits beyond the sixth are dropped. -/
def isoFraction : List Char → Option (Int × List Char)
  | [] => some (0, [])
  | c :: cs =>
    if c = '.' ∨ c = ',' then
      let ds := cs.takeWhile Char.isDigit
      if ds = [] then none
      else some (Nat.ofDigitChars 10 ((ds ++ List.replicate 6 '0').take 6) 0,
        cs.dropWhile Char.isDigit)
    else some (0, c :: cs)

/-- A time of the day: hours, minutes, seconds and microseconds, of which all but
    the hours may be left out. -/
def isoClock (cs : List Char) : Option ((Int × Int × Int × Int) × List Char) := do
  let (hour, cs) ← isoNumber 2 cs
  match isoAfter ':' cs with
  | none => return ((hour, 0, 0, 0), cs)
  | some cs =>
    let (minute, cs) ← isoNumber 2 cs
    match isoAfter ':' cs with
    | none => return ((hour, minute, 0, 0), cs)
    | some cs =>
      let (second, cs) ← isoNumber 2 cs
      let (micro, cs) ← isoFraction cs
      return ((hour, minute, second, micro), cs)

/-- A time of the day in microseconds. -/
def isoMicros (hour minute second micro : Int) : Int :=
  seconds (hour * 3600 + minute * 60 + second) + micro

/-- The offset from UTC at the end of a timestamp, of less than a day. -/
def isoOffset : List Char → Option Int
  | [] => none
  | sign :: cs => do
    guard (sign = '+' ∨ sign = '-')
    let ((hour, minute, second, micro), rest) ← isoClock cs
    guard (rest = [] ∧ isoMicros hour minute second micro < seconds 86400)
    return if sign = '-' then -isoMicros hour minute second micro
      else isoMicros hour minute second micro

/-- `value.replace("Z", "+00:00")`. -/
def replaceZ (cs : List Char) : List Char :=
  cs.flatMap fun c => if c = 'Z' then ['+', '0', '0', ':', '0', '0'] else [c]

/-- `datetime.fromisoformat(value.replace("Z", "+00:00")).astimezone(UTC)`, of the
    extended forms with an offset. -/
def fromIsoformat (value : String) : Option Int := do
  let (year, cs) ← isoNumber 4 (replaceZ value.toList)
  let cs ← isoAfter '-' cs
  let (month, cs) ← isoNumber 2 cs
  let cs ← isoAfter '-' cs
  let (day, cs) ← isoNumber 2 cs
  guard (1 ≤ year ∧ ValidDate year month day)
  let ((hour, minute, second, micro), cs) ← isoClock (cs.drop 1)
  guard (hour < 24 ∧ minute < 60 ∧ second < 60)
  let off ← isoOffset cs
  return seconds (daysFromCivil year month day * 86400) + isoMicros hour minute second micro - off

/-- A stored text, as a timestamp. -/
def Stamp.ofText (text : String) : Stamp := ⟨text, fromIsoformat text⟩

/-! ## What `isoformat` writes -/

theorem toList_padded (width : ℕ) (n : Int) :
    (padded width n).toList = Digits.zeroPadded width n.toNat := by
  unfold padded Digits.zeroPadded
  simp only [Nat.toString_eq_repr, String.toList_append, String.toList_ofList, Nat.toList_repr,
    ← String.length_toList]

theorem replaceZ_append (cs ds : List Char) : replaceZ (cs ++ ds) = replaceZ cs ++ replaceZ ds := by
  simp [replaceZ]

/-- Digits stay what they are. -/
theorem replaceZ_numeral {cs : List Char} (h : Digits.Numeral cs) : replaceZ cs = cs := by
  induction cs with
  | nil => rfl
  | cons c cs ih =>
    have hc : c ≠ 'Z' := by
      rintro rfl
      exact absurd (h 'Z' List.mem_cons_self) (by decide)
    have hcs : Digits.Numeral cs := fun d hd => h d (List.mem_cons_of_mem _ hd)
    rw [replaceZ, List.flatMap_cons, if_neg hc]
    exact congrArg (c :: ·) (ih hcs)

/-- A padded number is read back, whatever follows it. -/
theorem isoNumber_zeroPadded {width : ℕ} {n : Int} (hw : 0 < width) (h0 : 0 ≤ n)
    (h : n < 10 ^ width) (cs : List Char) :
    isoNumber width (Digits.zeroPadded width n.toNat ++ cs) = some (n, cs) := by
  have hlen : (Digits.zeroPadded width n.toNat).length = width :=
    Digits.length_zeroPadded hw ((Int.toNat_lt h0).2 (by push_cast; exact h))
  unfold isoNumber
  simp only [List.take_left' hlen, List.drop_left' hlen, hlen, Digits.ofDigitChars_zeroPadded,
    Int.toNat_of_nonneg h0, true_and]
  rw [if_pos]
  exact List.all_eq_true.2 (Digits.numeral_zeroPadded _ _)

/-- The text of a second, once `Z` is replaced. -/
theorem replaceZ_isoformat (t : Int) : replaceZ (isoformat t).toList =
    Digits.zeroPadded 4 (civil (t / 1000000 / 86400)).1.toNat ++ '-' ::
    (Digits.zeroPadded 2 (civil (t / 1000000 / 86400)).2.1.toNat ++ '-' ::
    (Digits.zeroPadded 2 (civil (t / 1000000 / 86400)).2.2.toNat ++ 'T' ::
    (Digits.zeroPadded 2 (t / 1000000 % 86400 / 3600).toNat ++ ':' ::
    (Digits.zeroPadded 2 (t / 1000000 % 86400 % 3600 / 60).toNat ++ ':' ::
    (Digits.zeroPadded 2 (t / 1000000 % 86400 % 60).toNat ++
      ['+', '0', '0', ':', '0', '0']))))) := by
  have hdash : replaceZ "-".toList = ['-'] := by decide
  have hT : replaceZ "T".toList = ['T'] := by decide
  have hcolon : replaceZ ":".toList = [':'] := by decide
  have hZ : replaceZ "Z".toList = ['+', '0', '0', ':', '0', '0'] := by decide
  unfold isoformat
  simp only [String.toList_append, toList_padded, replaceZ_append, hdash, hT, hcolon, hZ,
    replaceZ_numeral (Digits.numeral_zeroPadded _ _), List.append_assoc, List.singleton_append]

/-- A time of the day written in whole seconds, before an offset. -/
theorem isoClock_zeroPadded {hour minute second : Int} (hh : 0 ≤ hour ∧ hour < 100)
    (hm : 0 ≤ minute ∧ minute < 100) (hs : 0 ≤ second ∧ second < 100) (cs : List Char) :
    isoClock (Digits.zeroPadded 2 hour.toNat ++ ':' :: (Digits.zeroPadded 2 minute.toNat ++ ':' ::
      (Digits.zeroPadded 2 second.toNat ++ '+' :: cs))) =
        some ((hour, minute, second, 0), '+' :: cs) := by
  have hfraction : isoFraction ('+' :: cs) = some (0, '+' :: cs) := by
    rw [isoFraction, if_neg (by decide)]
  unfold isoClock
  rw [isoNumber_zeroPadded (by decide) hh.1 hh.2]
  simp only [Option.bind_eq_bind, Option.bind_some, isoAfter, if_true]
  rw [isoNumber_zeroPadded (by decide) hm.1 hm.2]
  simp only [Option.bind_some, if_true]
  rw [isoNumber_zeroPadded (by decide) hs.1 hs.2]
  simp only [Option.bind_some, hfraction]
  rfl

/-- **The text of a second reads back as this second.** -/
theorem fromIsoformat_isoformat {t : Int} (h : Representable t) :
    fromIsoformat (isoformat t) = some (floorSecond t) := by
  obtain ⟨hy0, hy1⟩ := (year_civil t).1 h
  have hdays := daysFromCivil_civil (t / 1000000 / 86400)
  obtain ⟨hm0, hm1, hd0, hd1⟩ := validDate_civil (t / 1000000 / 86400)
  have hd2 : (civil (t / 1000000 / 86400)).2.2 ≤ 31 := by
    unfold daysInMonth at hd1
    split_ifs at hd1 <;> omega
  have hoffset : isoOffset ['+', '0', '0', ':', '0', '0'] = some 0 := by decide
  -- the parts of the text, from the left
  unfold fromIsoformat
  rw [replaceZ_isoformat, isoNumber_zeroPadded (by decide) (by omega) (by omega)]
  simp only [Option.bind_eq_bind, Option.bind_some, isoAfter, if_true]
  rw [isoNumber_zeroPadded (by decide) (by omega) (by omega)]
  simp only [Option.bind_some, if_true]
  rw [isoNumber_zeroPadded (by decide) (by omega) (by omega)]
  simp only [Option.bind_some]
  rw [guard, if_pos ⟨hy0, hm0, hm1, hd0, hd1⟩, List.drop_one, List.tail_cons,
    isoClock_zeroPadded (by omega) (by omega) (by omega)]
  simp only [Option.pure_def, Option.bind_some]
  rw [guard, if_pos (by omega), hoffset, hdays]
  simp only [Option.pure_def, Option.bind_some, Option.some.injEq]
  unfold isoMicros seconds floorSecond
  omega

/-- A number with more digits than `width` is not read to its end. -/
theorem isoNumber_of_lt {width : ℕ} {n : Int} (hw : 0 < width) (h : 10 ^ width ≤ n) (cs : List Char) :
    ∀ r, isoNumber width (Digits.zeroPadded width n.toNat ++ cs) = some r →
      ∃ d ds, r.2 = d :: ds ∧ d.isDigit = true := by
  intro r hr
  have hlen : width < (Nat.toDigits 10 n.toNat).length := by
    by_contra hle
    have := (Nat.length_toDigits_le_iff (b := 10) (by decide) hw).1 (not_lt.1 hle)
    have : ((n.toNat : ℕ) : Int) < 10 ^ width := by exact_mod_cast this
    omega
  have hpad : Digits.zeroPadded width n.toNat = Nat.toDigits 10 n.toNat := by
    rw [Digits.zeroPadded, Nat.sub_eq_zero_of_le hlen.le]
    rfl
  have hnumeral := Digits.numeral_zeroPadded width n.toNat
  rw [hpad] at hr hnumeral
  unfold isoNumber at hr
  dsimp only at hr
  split_ifs at hr
  cases hr
  rw [List.drop_append_of_le_length hlen.le]
  cases hrest : (Nat.toDigits 10 n.toNat).drop width with
  | nil => exact absurd (List.drop_eq_nil_iff.1 hrest) (by omega)
  | cons d ds =>
    refine ⟨d, ds ++ cs, rfl, hnumeral d (List.mem_of_mem_drop (i := width) ?_)⟩
    rw [hrest]
    exact List.mem_cons_self

/-- An instant that a `datetime` cannot hold is not read back. -/
theorem fromIsoformat_isoformat_eq_none {t : Int} (h : ¬Representable t) :
    fromIsoformat (isoformat t) = none := by
  obtain ⟨hm0, hm1, hd0, hd1⟩ := validDate_civil (t / 1000000 / 86400)
  have hd2 : (civil (t / 1000000 / 86400)).2.2 ≤ 31 := by
    unfold daysInMonth at hd1
    split_ifs at hd1 <;> omega
  rw [year_civil, not_and_or, not_le, not_le] at h
  unfold fromIsoformat
  rw [replaceZ_isoformat]
  rcases h with h | h
  · -- the year is written as 0000
    have hyear : (civil (t / 1000000 / 86400)).1.toNat = (0 : Int).toNat := by omega
    rw [hyear, isoNumber_zeroPadded (by decide) (by decide) (by decide)]
    simp only [Option.bind_eq_bind, Option.bind_some, isoAfter, if_true]
    rw [isoNumber_zeroPadded (by decide) (by omega) (by omega)]
    simp only [Option.bind_some, if_true]
    rw [isoNumber_zeroPadded (by decide) (by omega) (by omega)]
    simp only [Option.bind_some]
    rw [guard, if_neg fun h' => absurd h'.1 (by decide)]
    rfl
  · -- the year has more than four digits
    cases hn : isoNumber 4 (Digits.zeroPadded 4 (civil (t / 1000000 / 86400)).1.toNat ++ _) with
    | none => rfl
    | some r =>
      obtain ⟨d, ds, hr, hd⟩ := isoNumber_of_lt (by decide) (by omega) _ r hn
      have hdash : d ≠ '-' := by
        rintro rfl
        exact absurd hd (by decide)
      simp [hr, isoAfter, hdash]

/-- **The text of a second reads back as this second, as long as a `datetime` can hold it.** -/
theorem fromIsoformat_isoformat_iff {t n : Int} :
    fromIsoformat (isoformat t) = some n ↔ Representable t ∧ n = floorSecond t := by
  by_cases h : Representable t
  · rw [fromIsoformat_isoformat h]
    simp [h, eq_comm]
  · simp [fromIsoformat_isoformat_eq_none h, h]

/-- What the program writes it can read. -/
theorem ofText_isoformat {t : Int} (h : Representable t) :
    Stamp.ofText (isoformat (floorSecond t)) = Stamp.ofInstant t := by
  rw [Stamp.ofText, fromIsoformat_isoformat (representable_floorSecond.2 h),
    floorSecond_floorSecond]
  rfl

example : fromIsoformat "2026-08-08T15:00:00.25+09:00" =
    fromIsoformat "2026-08-08T06:00:00.250000Z" := by decide +kernel

end Aize
