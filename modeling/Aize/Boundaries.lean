/-
  When `next_interval_boundary` is in time.

  The resolver adds the interval to the anchor until the candidate is past
  `completed_at`, and both are instants to the microsecond; then it writes the
  candidate with its fraction of a second cut off. The loop always ends
  (`loop_advancePast`), at the first candidate that is past `completed_at`
  (`boundary_spec`) or, before that, at a candidate that is no date
  (`advancePast_eq`). The text it gives reads back as that candidate's second,
  which is past `completed_at` exactly when `completed_at` does not fall between
  a boundary's second and the boundary itself (`resolveNextRunAt_inTime_iff`).
-/
import Aize.Schedules
import Aize.Timestamps

namespace Aize

/-! ## The loop -/

/-- `while candidate <= completed: candidate += interval`, from `candidate` to its
    end: the last candidate, or the error of a sum that is no date. -/
inductive Loop (completed interval : Int) : Int → Except Err Int → Prop where
  | done {candidate : Int} : completed < candidate →
      Loop completed interval candidate (.ok candidate)
  | overflow {candidate : Int} : candidate ≤ completed → ¬Representable (candidate + interval) →
      Loop completed interval candidate (.error .overflowError)
  | round {candidate : Int} {result : Except Err Int} : candidate ≤ completed →
      Representable (candidate + interval) → Loop completed interval (candidate + interval) result →
      Loop completed interval candidate result

theorem loop_of_lt {completed interval : Int} : ∀ {rounds : ℕ} {candidate : Int},
    completed < candidate + rounds * interval →
      Loop completed interval candidate (advancePast completed interval rounds candidate)
  | 0, _, h => .done (by simpa using h)
  | rounds + 1, candidate, h => by
    unfold advancePast toDatetime
    split_ifs with hc hr
    · refine .round hc hr (loop_of_lt ?_)
      have : ((rounds + 1 : ℕ) : Int) * interval = rounds * interval + interval := by
        push_cast; ring
      omega
    · exact .overflow hc hr
    · exact .done (not_le.1 hc)

/-- **The loop ends**, as `next_interval_boundary` says. -/
theorem loop_advancePast {completed interval : Int} (hi : 0 < interval) (candidate : Int) :
    Loop completed interval candidate (advancePast completed interval
      (boundaryRounds candidate completed interval) candidate) :=
  loop_of_lt (lt_add_boundaryRounds hi)

/-- The first of `candidate`, `candidate + interval`, ... that is past `completed`. -/
def boundary (completed interval candidate : Int) : Int :=
  candidate + boundaryRounds candidate completed interval * interval

/-- **The first candidate past `completed_at`.** -/
theorem boundary_spec {completed interval : Int} (hi : 0 < interval) (candidate : Int) :
    completed < boundary completed interval candidate ∧
      ∃ k : ℕ, boundary completed interval candidate = candidate + k * interval ∧
        ∀ j < k, candidate + j * interval ≤ completed := by
  refine ⟨lt_add_boundaryRounds hi, _, rfl, fun j hj => ?_⟩
  unfold boundaryRounds at hj
  have hle : (j : Int) ≤ (completed - candidate) / interval := by omega
  have := (Int.le_ediv_iff_mul_le hi).1 hle
  omega

/-- One round less is needed from the next candidate. -/
theorem boundaryRounds_add {completed interval candidate : Int} (hi : 0 < interval) {rounds : ℕ}
    (h : boundaryRounds candidate completed interval = rounds + 1) :
    candidate ≤ completed ∧ boundaryRounds (candidate + interval) completed interval = rounds := by
  unfold boundaryRounds at *
  have hdiv : (completed - (candidate + interval)) / interval =
      (completed - candidate) / interval - 1 := by
    rw [← sub_sub, Int.sub_ediv_of_dvd _ (dvd_refl interval), Int.ediv_self (ne_of_gt hi)]
  have hnonneg : 0 ≤ (completed - candidate) / interval := by omega
  have := (Int.le_ediv_iff_mul_le hi).1 hnonneg
  rw [hdiv]
  constructor <;> omega

/-- **From a date, the loop ends at the boundary**, or in an error if that is no date. -/
theorem advancePast_eq {completed interval : Int} (hi : 0 < interval) : ∀ {rounds : ℕ}
    {candidate : Int}, boundaryRounds candidate completed interval = rounds →
      Representable candidate → advancePast completed interval rounds candidate =
        toDatetime (boundary completed interval candidate)
  | 0, candidate, h, hc => by
    unfold advancePast boundary
    rw [h, Nat.cast_zero, zero_mul, add_zero]
    exact (toDatetime_eq_ok.2 ⟨hc, rfl⟩).symm
  | rounds + 1, candidate, h, hc => by
    obtain ⟨hle, hnext⟩ := boundaryRounds_add hi h
    have hsum : boundary completed interval candidate =
        boundary completed interval (candidate + interval) := by
      unfold boundary
      rw [h, hnext]
      push_cast
      ring
    unfold advancePast
    rw [if_pos hle, hsum]
    by_cases hr : Representable (candidate + interval)
    · rw [toDatetime_eq_ok.2 ⟨hr, rfl⟩, Except.ok_bind]
      exact advancePast_eq hi hnext hr
    · -- later candidates are no dates either
      have hlater : ¬Representable (boundary completed interval (candidate + interval)) := by
        have : 0 ≤ (boundaryRounds (candidate + interval) completed interval : Int) * interval :=
          mul_nonneg (Int.natCast_nonneg _) hi.le
        unfold Representable boundary at *
        omega
      unfold toDatetime
      rw [if_neg hr, if_neg hlater]
      rfl

/-! ## The resolver -/

/-- The runtime parameter that a resolver starts from. -/
def FixedParameters.anchorName (u : FixedParameters) : String :=
  strip (if u.anchor = "" then "scheduled_for" else u.anchor)

/-- A text that is not blank and parses to an instant. -/
def Stamp.At (s : Stamp) (t : Int) : Prop := s.strip.isAbsent = false ∧ s.instant = some t

instance (s : Stamp) (t : Int) : Decidable (s.At t) := by unfold Stamp.At; infer_instance

/-- A time that the program reads back from the text of `next`, past `completed`
    and the earliest of `anchor`, `anchor + interval`, ... in whole seconds that
    is. -/
def InTime (anchor completed interval : Int) (next : Stamp) : Prop :=
  ∃ n, fromIsoformat next.text = some n ∧ next.instant = some n ∧ completed < n ∧
    (∃ k : ℕ, n = floorSecond (anchor + k * interval)) ∧
    ∀ k : ℕ, completed < floorSecond (anchor + k * interval) → n ≤ floorSecond (anchor + k * interval)

/-- A boundary is a whole number of seconds after the anchor. -/
theorem floorSecond_add_seconds (anchor : Int) (k : ℕ) (n : Int) :
    floorSecond (anchor + k * seconds n) = floorSecond anchor + k * seconds n := by
  have hk : (k : Int) * seconds n = k * n * 1000000 := by unfold seconds; ring
  rw [hk]
  unfold floorSecond
  generalize (k : Int) * n = m
  omega

/-- **No date overflows**: the anchor and the completion are dates in UTC, the interval is a
    `timedelta`, and the boundary is a date. -/
structure InRange (u : FixedParameters) (anchor completed : Int) : Prop where
  start : Representable anchor
  finish : Representable completed
  interval : u.intervalSeconds ≤ maxTimedelta
  next : Representable (boundary completed (seconds u.intervalSeconds) anchor)

instance (u : FixedParameters) (anchor completed : Int) : Decidable (InRange u anchor completed) :=
  decidable_of_iff (Representable anchor ∧ Representable completed ∧
      u.intervalSeconds ≤ maxTimedelta ∧
      Representable (boundary completed (seconds u.intervalSeconds) anchor))
    ⟨fun h => ⟨h.1, h.2.1, h.2.2.1, h.2.2.2⟩, fun h => ⟨h.start, h.finish, h.interval, h.next⟩⟩

theorem seconds_pos {n : Int} (h : 1 ≤ n) : 0 < seconds n := by
  unfold seconds
  omega

/-- What the function of the resolver makes of an anchor and a completion. -/
theorem nextIntervalBoundary_eq {u : FixedParameters} {p : RuntimeParameters}
    {anchor completed : Int} (hi : 1 ≤ u.intervalSeconds) (ha : (p.get u.anchorName).At anchor)
    (hc : p.completedAt.At completed) :
    nextIntervalBoundary u p = if InRange u anchor completed then
        .ok (.ofInstant (boundary completed (seconds u.intervalSeconds) anchor))
      else .error .overflowError := by
  obtain ⟨hpresent, hanchor⟩ := ha
  unfold FixedParameters.anchorName at hpresent hanchor
  unfold nextIntervalBoundary
  simp only [Except.require, if_pos hi, Except.ok_bind, hpresent, hc.1, Bool.not_false, if_true,
    Stamp.parseUtc, Stamp.strip_instant, hanchor, hc.2]
  unfold timedelta
  by_cases h₁ : Representable anchor
  swap
  · have hno : ¬InRange u anchor completed := fun h => h₁ h.start
    rw [toDatetime, if_neg h₁, Except.error_bind, if_neg hno]
  rw [toDatetime_eq_ok.2 ⟨h₁, rfl⟩, Except.ok_bind]
  by_cases h₂ : Representable completed
  swap
  · have hno : ¬InRange u anchor completed := fun h => h₂ h.finish
    rw [toDatetime, if_neg h₂, Except.error_bind, if_neg hno]
  rw [toDatetime_eq_ok.2 ⟨h₂, rfl⟩, Except.ok_bind]
  by_cases h₃ : u.intervalSeconds ≤ maxTimedelta
  swap
  · have hno : ¬InRange u anchor completed := fun h => h₃ h.interval
    rw [if_neg h₃, Except.error_bind, if_neg hno]
  rw [if_pos h₃, Except.ok_bind, advancePast_eq (seconds_pos hi) rfl h₁]
  by_cases h₄ : Representable (boundary completed (seconds u.intervalSeconds) anchor)
  · rw [toDatetime_eq_ok.2 ⟨h₄, rfl⟩, Except.ok_bind, if_pos ⟨h₁, h₂, h₃, h₄⟩]
    rfl
  · have hno : ¬InRange u anchor completed := fun h => h₄ h.next
    rw [toDatetime, if_neg h₄, Except.error_bind, if_neg hno]

/-- The result of the resolver: the boundary, in whole seconds, unless a date overflows. -/
theorem resolveNextRunAt_interval {u : FixedParameters} {p : RuntimeParameters}
    {anchor completed : Int} (hi : 1 ≤ u.intervalSeconds) (ha : (p.get u.anchorName).At anchor)
    (hc : p.completedAt.At completed) :
    resolveNextRunAt "next_interval_boundary" u p = if InRange u anchor completed then
        .ok (.ofInstant (boundary completed (seconds u.intervalSeconds) anchor))
      else .error .overflowError := by
  have hname : strip "next_interval_boundary" = "next_interval_boundary" := by decide
  unfold resolveNextRunAt
  simp only [hname, nextIntervalBoundary_eq hi ha hc, if_true]
  rw [if_neg (by decide)]
  split_ifs with h
  · rw [Except.ok_bind, Stamp.parseUtc_eq_ok.2 ⟨rfl, representable_floorSecond.2 h.next⟩]
    simp only [Except.ok_bind, Stamp.ofInstant, floorSecond_floorSecond]
    rfl
  · rfl

/-- A remainder is known from any quotient that leaves one. -/
theorem emod_eq_of_bounds {x r m : Int} {k : ℕ} (h : x = r + k * m) (h0 : 0 ≤ r) (h1 : r < m) :
    x % m = r := by
  rw [h, Int.add_mul_emod_self_right, Int.emod_eq_of_lt h0 h1]

/-- The seconds of a boundary are past `completed` exactly when `completed` is not
    within the fraction of a second that is cut off. -/
theorem lt_floorSecond_boundary_iff {anchor completed n : Int} (hn : 1 ≤ n) :
    completed < floorSecond (boundary completed (seconds n) anchor) ↔
      completed < floorSecond anchor ∨
        anchor - floorSecond anchor ≤ (completed - floorSecond anchor) % seconds n := by
  have hinterval : 1000000 ≤ seconds n := by unfold seconds; omega
  have hfraction : 0 ≤ anchor - floorSecond anchor ∧ anchor - floorSecond anchor < 1000000 := by
    unfold floorSecond; omega
  obtain ⟨hlt, k, hk, hall⟩ := @boundary_spec completed (seconds n)
    (by omega) anchor
  rw [hk] at hlt
  rw [hk, floorSecond_add_seconds]
  constructor
  · intro h
    rcases lt_or_ge completed (floorSecond anchor) with hbefore | hafter
    · exact .inl hbefore
    right
    -- the boundary before is not past `completed`, so the remainder counts from there
    obtain ⟨j, rfl⟩ : ∃ j, k = j + 1 := by
      cases k with
      | zero => simp at h; omega
      | succ j => exact ⟨j, rfl⟩
    have hj := hall j (Nat.lt_succ_self j)
    push_cast at h
    rw [emod_eq_of_bounds (k := j) (r := completed - floorSecond anchor - j * seconds n)
      (by ring) (by linarith) (by linarith)]
    linarith
  · contrapose!
    intro h
    have hk0 : 0 ≤ (k : Int) * seconds n := mul_nonneg (Int.natCast_nonneg k) (by omega)
    refine ⟨by linarith, ?_⟩
    rw [emod_eq_of_bounds (k := k) (r := completed - floorSecond anchor - k * seconds n)
      (by ring) (by linarith) (by linarith)]
    linarith

/-- **The resolver ends, and its result is in time exactly when no date overflows and
    `completed_at` does not fall between the second of a boundary and the boundary itself**:
    it is before the anchor's second, or the time since the last boundary, counted from
    the anchor's second, is at least the anchor's fraction of a second. -/
theorem resolveNextRunAt_inTime_iff {u : FixedParameters} {p : RuntimeParameters}
    {anchor completed : Int} (hi : 1 ≤ u.intervalSeconds) (ha : (p.get u.anchorName).At anchor)
    (hc : p.completedAt.At completed) :
    Loop completed (seconds u.intervalSeconds) anchor (advancePast completed
        (seconds u.intervalSeconds) (boundaryRounds anchor completed (seconds u.intervalSeconds))
        anchor) ∧
      (resolveNextRunAt "next_interval_boundary" u p = .error .overflowError ↔
        ¬InRange u anchor completed) ∧
      ((∃ next, resolveNextRunAt "next_interval_boundary" u p = .ok next ∧
          InTime anchor completed (seconds u.intervalSeconds) next) ↔
        InRange u anchor completed ∧ (completed < floorSecond anchor ∨
          anchor - floorSecond anchor ≤
            (completed - floorSecond anchor) % seconds u.intervalSeconds)) := by
  have hpos := seconds_pos hi
  refine ⟨loop_advancePast hpos anchor, ?_⟩
  rw [← lt_floorSecond_boundary_iff hi, resolveNextRunAt_interval hi ha hc]
  split_ifs with hr
  swap
  · simp [hr]
  refine ⟨by simp [hr], ?_⟩
  have hread := congrArg Stamp.instant (ofText_isoformat hr.next)
  obtain ⟨hlt, k, hk, hall⟩ := boundary_spec hpos anchor
  constructor
  · rintro ⟨next, hnext, n, -, hn, hpast, -⟩
    rw [← Except.ok.inj hnext, Stamp.ofInstant_instant] at hn
    refine ⟨hr, ?_⟩
    rwa [Option.some.inj hn]
  · rintro ⟨-, h⟩
    refine ⟨_, rfl, _, hread, rfl, h, ⟨k, by rw [hk]⟩, fun j hj => ?_⟩
    -- an earlier second past `completed` belongs to a candidate past `completed`
    have hkj : k ≤ j := by
      by_contra hlt'
      have := hall j (by omega)
      exact absurd ((floorSecond_le _).trans this) (by omega)
    rw [hk, floorSecond_add_seconds, floorSecond_add_seconds]
    have := mul_le_mul_of_nonneg_right (Int.ofNat_le.2 hkj) hpos.le
    omega

/-! ## A boundary with a fraction of a second -/

/-- An hourly schedule whose next run is half a second after six o'clock, completed
    at six o'clock. -/
def halfPast : RuntimeParameters where
  sessionId := "session"
  unitId := "unit"
  scheduledFor := .ofText "2026-08-08T06:00:00.5Z"
  queuedAt := .ofText "2026-08-08T06:00:00Z"
  startedAt := .ofText "2026-08-08T06:00:00Z"
  completedAt := .ofText "2026-08-08T06:00:00Z"
  completionIsProvisional := false
  callParameters := {}

/-- **The next run is set to the very second of the completion**, and is not past it. -/
theorem resolveNextRunAt_not_inTime :
    resolveNextRunAt "next_interval_boundary" ⟨3600, ""⟩ halfPast =
        .ok (.ofText "2026-08-08T06:00:00Z") ∧
      (halfPast.get (FixedParameters.anchorName ⟨3600, ""⟩)).At 1786168800500000 ∧
      halfPast.completedAt.At 1786168800000000 ∧
      ¬ ∃ next, resolveNextRunAt "next_interval_boundary" ⟨3600, ""⟩ halfPast = .ok next ∧
        InTime 1786168800500000 1786168800000000 (seconds 3600) next := by
  have hanchor : (halfPast.get (FixedParameters.anchorName ⟨3600, ""⟩)).At 1786168800500000 ∧
      halfPast.completedAt.At 1786168800000000 := by decide +kernel
  have hboundary : Stamp.ofInstant (boundary 1786168800000000 (seconds 3600) 1786168800500000) =
      .ofText "2026-08-08T06:00:00Z" := by decide +kernel
  have hresolved := @resolveNextRunAt_interval ⟨3600, ""⟩ _ _ _ (by decide) hanchor.1 hanchor.2
  rw [if_pos (by decide +kernel), hboundary] at hresolved
  refine ⟨hresolved, hanchor.1, hanchor.2, ?_⟩
  rintro ⟨next, hnext, n, hread, -, hpast, -⟩
  have htext : fromIsoformat "2026-08-08T06:00:00Z" = some 1786168800000000 := by decide +kernel
  rw [hresolved] at hnext
  rw [← Except.ok.inj hnext, Stamp.ofText, htext] at hread
  rw [← Option.some.inj hread] at hpast
  exact lt_irrefl _ hpast

/-- The same schedule completed a quarter of a second after the boundary. -/
def quarterLater : RuntimeParameters :=
  { halfPast with completedAt := .ofText "2026-08-08T06:00:00.75Z" }

theorem resolveNextRunAt_inTime_quarterLater :
    ∃ next, resolveNextRunAt "next_interval_boundary" ⟨3600, ""⟩ quarterLater = .ok next ∧
      InTime 1786168800500000 1786168800750000 (seconds 3600) next := by
  have hanchor : (quarterLater.get (FixedParameters.anchorName ⟨3600, ""⟩)).At 1786168800500000 ∧
      quarterLater.completedAt.At 1786168800750000 := by decide +kernel
  have hrange : InRange ⟨3600, ""⟩ 1786168800500000 1786168800750000 := by decide +kernel
  exact (@resolveNextRunAt_inTime_iff ⟨3600, ""⟩ _ _ _ (by decide) hanchor.1 hanchor.2).2.2.2
    ⟨hrange, .inr (by decide +kernel)⟩

end Aize
