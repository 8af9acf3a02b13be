/-
  The normal form of Units (`_normalize_unit_schedule` and
  `_normalize_unit_activation_triggers`): which Units `ensure_defaults` accepts, and that
  what it makes of them is accepted again.
-/
import Aize.Store

namespace Aize

/-- The resolver of a stored schedule: its own, or the default. -/
def Schedule.resolverName (x : Schedule) : String :=
  strip (if x.resolver = "" then "explicit" else x.resolver)

/-- A schedule that `_normalize_unit_schedule` accepts. -/
structure Schedule.Normal (x : Schedule) : Prop where
  nextRunAt : x.enabled → x.nextRunAt.strip.isAbsent = false →
    ∃ t, x.nextRunAt.strip.parseUtc = .ok t
  resolver : x.resolverName = "explicit" ∨ x.resolverName = "next_interval_boundary"

/-- A Unit that `ensure_defaults` accepts. -/
structure UnitRecord.Normal (unit : UnitRecord) : Prop where
  schedule : ∀ x ∈ unit.schedule, x.Normal
  triggers : ∀ t ∈ unit.activationTriggers, t.manual || t.scheduled || t.startup

/-- What a stored Unit keeps while Goals are worked on and the schedule goes on. -/
structure UnitRecord.Kept (unit unit' : UnitRecord) : Prop where
  owner : unit'.ownerAccount = unit.ownerAccount
  policy : unit'.instancePolicy = unit.instancePolicy
  singleton : unit'.singletonSessionId = unit.singletonSessionId
  groups : unit'.spawnGroups = unit.spawnGroups
  normal : unit.Normal → unit'.Normal

namespace UnitRecord.Kept

theorem refl (unit : UnitRecord) : Kept unit unit := ⟨rfl, rfl, rfl, rfl, id⟩

theorem trans {u v w : UnitRecord} (h₁ : Kept u v) (h₂ : Kept v w) : Kept u w :=
  ⟨h₂.owner.trans h₁.owner, h₂.policy.trans h₁.policy, h₂.singleton.trans h₁.singleton,
    h₂.groups.trans h₁.groups, fun h => h₂.normal (h₁.normal h)⟩

end UnitRecord.Kept

/-! ## Schedules -/

theorem Stamp.parseUtc_strip {x : Stamp} {t : Int} (h : x.parseUtc = .ok t) :
    x.strip.parseUtc = .ok t := by
  unfold parseUtc at h ⊢
  rw [strip_instant]
  cases hx : x.instant with
  | some u => simpa [hx] using h
  | none => simp [hx] at h

/-- The normal form of a schedule: an interval in hours becomes one in seconds. -/
def Schedule.normalized (x : Schedule) : Schedule :=
  let byHours := x.everyHours ≠ 0 ∧ x.resolverName = "explicit"
  { x with
    nextRunAt := x.nextRunAt.strip
    note := strip x.note
    resolver := if byHours then "next_interval_boundary" else x.resolverName
    fixedParameters :=
      if byHours then ⟨x.everyHours * 3600, "scheduled_for"⟩ else x.fixedParameters
    everyHours := 0 }

theorem Schedule.normal_iff {x : Schedule} : x.Normal ↔
    (x.enabled ∧ x.nextRunAt.strip.isAbsent = false → ∃ t, x.nextRunAt.strip.parseUtc = .ok t) ∧
      (x.normalized.resolver = "explicit" ∨ x.normalized.resolver = "next_interval_boundary") := by
  have hresolver : (x.normalized.resolver = "explicit" ∨
      x.normalized.resolver = "next_interval_boundary") ↔
      (x.resolverName = "explicit" ∨ x.resolverName = "next_interval_boundary") := by
    unfold Schedule.normalized
    dsimp only
    split_ifs with h
    · simp [h.2]
    · exact Iff.rfl
  rw [hresolver]
  constructor
  · intro h
    exact ⟨fun hc => h.nextRunAt hc.1 hc.2, h.resolver⟩
  · rintro ⟨h₁, h₂⟩
    exact ⟨fun he ha => h₁ ⟨he, ha⟩, h₂⟩

/-- What `_normalize_unit_schedule` accepts, and what it makes of it. -/
theorem normalizeUnitSchedule_eq_ok {x : Schedule} {schedule' : Option Schedule} :
    normalizeUnitSchedule (some x) = .ok schedule' ↔
      x.Normal ∧ schedule' = some x.normalized := by
  rw [Schedule.normal_iff]
  change (if x.enabled = true ∧ (!x.nextRunAt.strip.isAbsent) = true then
    (do discard x.nextRunAt.strip.parseUtc
        Except.require (x.normalized.resolver = "explicit" ∨
          x.normalized.resolver = "next_interval_boundary") _
        pure (some x.normalized))
    else do
      Except.require (x.normalized.resolver = "explicit" ∨
        x.normalized.resolver = "next_interval_boundary") _
      pure (some x.normalized)) = _ ↔ _
  simp only [Bool.not_eq_true']
  have hrest : (do
      Except.require (x.normalized.resolver = "explicit" ∨
        x.normalized.resolver = "next_interval_boundary")
        (Err.storeError s!"unknown schedule resolver: {x.normalized.resolver}")
      pure (some x.normalized)) = Except.ok schedule' ↔
      (x.normalized.resolver = "explicit" ∨ x.normalized.resolver = "next_interval_boundary") ∧
        schedule' = some x.normalized := by
    rw [Except.require_bind_eq_ok, Except.pure_eq_ok]
    exact and_congr_right fun _ => eq_comm
  by_cases hc : x.enabled = true ∧ x.nextRunAt.strip.isAbsent = false
  · rw [if_pos hc]
    cases hp : x.nextRunAt.strip.parseUtc with
    | error e =>
      constructor
      · intro h
        cases h
      · rintro ⟨⟨h, -⟩, -⟩
        obtain ⟨t, ht⟩ := h hc
        cases ht
    | ok t =>
      refine hrest.trans ?_
      rw [and_assoc]
      exact (and_iff_right fun _ => ⟨t, rfl⟩).symm
  · rw [if_neg hc]
    refine hrest.trans ?_
    rw [and_assoc]
    exact (and_iff_right fun h => absurd h hc).symm

/-- The normal form is normal. -/
theorem Schedule.Normal.normalized {x : Schedule} (h : x.Normal) : x.normalized.Normal := by
  obtain ⟨-, hr⟩ := Schedule.normal_iff.1 h
  constructor
  · intro henabled hpresent
    have hstrip : x.normalized.nextRunAt.strip = x.nextRunAt.strip := Stamp.strip_strip _
    rw [hstrip] at hpresent ⊢
    exact h.nextRunAt henabled hpresent
  · unfold Schedule.resolverName
    rcases hr with hr | hr
    · rw [hr]
      exact .inl (by decide)
    · rw [hr]
      exact .inr (by decide)

/-- **What is normalized is normal.** -/
theorem normal_of_normalize {schedule schedule' : Option Schedule}
    (h : normalizeUnitSchedule schedule = .ok schedule') : ∀ x ∈ schedule', x.Normal := by
  intro x' hx'
  cases schedule with
  | none => cases h; cases hx'
  | some x =>
    obtain ⟨hx, rfl⟩ := normalizeUnitSchedule_eq_ok.1 h
    cases hx'
    exact hx.normalized

/-- **A normal schedule is accepted.** -/
theorem normalizeUnitSchedule_ok {schedule : Option Schedule} (h : ∀ x ∈ schedule, x.Normal) :
    ∃ schedule', normalizeUnitSchedule schedule = .ok schedule' := by
  cases schedule with
  | none => exact ⟨none, rfl⟩
  | some x => exact ⟨_, normalizeUnitSchedule_eq_ok.2 ⟨h x rfl, rfl⟩⟩

/-! ## Triggers -/

/-- The triggers of a Unit after normalization are not all off. -/
theorem triggers_of_normalize {args : TriggerArgs} {schedule : Option Schedule} {t : Triggers}
    (h : normalizeUnitActivationTriggers args schedule = .ok t) :
    t.manual || t.scheduled || t.startup := by
  unfold normalizeUnitActivationTriggers at h
  obtain ⟨ht, h⟩ := Except.require_bind_eq_ok.1 h
  cases h
  exact ht

/-- Triggers that are not all off are accepted. -/
theorem normalizeUnitActivationTriggers_ok {triggers : Option Triggers}
    (h : ∀ t ∈ triggers, t.manual || t.scheduled || t.startup) (schedule : Option Schedule) :
    ∃ t, normalizeUnitActivationTriggers (triggers.elim {} Triggers.args) schedule = .ok t := by
  unfold normalizeUnitActivationTriggers
  refine Except.exists_require_bind_ok.2 ⟨?_, _, rfl⟩
  cases triggers with
  | none => rfl
  | some t =>
    have ht := h t rfl
    rw [if_neg (by simp [Triggers.args])]
    simpa [Triggers.args] using ht

/-! ## Units -/

/-- **The normal form of a Unit** is normal and keeps what the Unit was. -/
theorem kept_of_normalize {unit unit' : UnitRecord} (h : State.normalizeUnit unit = .ok unit') :
    unit.Kept unit' ∧ unit'.Normal := by
  unfold State.normalizeUnit at h
  obtain ⟨schedule, hs, h⟩ := Except.bind_eq_ok.1 h
  obtain ⟨triggers, ht, h⟩ := Except.bind_eq_ok.1 h
  cases h
  have hnormal : ({ unit with
      schedule := schedule, activationTriggers := some triggers } : UnitRecord).Normal :=
    ⟨normal_of_normalize hs, fun t h => by cases h; exact triggers_of_normalize ht⟩
  exact ⟨⟨rfl, rfl, rfl, rfl, fun _ => hnormal⟩, hnormal⟩

/-- A normal Unit is accepted. -/
theorem UnitRecord.Normal.ok {unit : UnitRecord} (h : unit.Normal) :
    ∃ unit', State.normalizeUnit unit = .ok unit' := by
  obtain ⟨schedule, hs⟩ := normalizeUnitSchedule_ok h.schedule
  obtain ⟨triggers, ht⟩ := normalizeUnitActivationTriggers_ok h.triggers schedule
  unfold State.normalizeUnit
  rw [hs, Except.ok_bind, ht]
  exact ⟨_, rfl⟩

end Aize
