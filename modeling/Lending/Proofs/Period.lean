import Lending.Proofs.Calendar.Days
import Lending.Proofs.Policy.DueDate

/-! # Periods and their minutes

A period that is added to an instant lasts as many minutes as it counts for. Only months may last
fewer, so that a loan is never charged for minutes within a period that it was given.
-/

namespace Lending

namespace Instant

variable {x y : Instant} {n : Nat}

theorem total_addMinutes (hx : x.wall.date.Exists) (h : x.addMinutes n = .ok y) :
    y.zone = x.zone ∧ y.wall.total = x.wall.total + n * WallTime.microsPerMinute ∧
      y.wall.total / WallTime.microsPerDay ≤ Date.lastNumber := by
  obtain ⟨d, hd, hy⟩ := bind_eq_ok_iff.mp h
  obtain ⟨hk, rfl⟩ := Date.ofNumber?_eq_ok hd
  obtain rfl := pure_eq_ok_iff.mp hy
  have hday : 0 < WallTime.microsPerDay := by decide
  have h1 : WallTime.microsPerDay ≤ x.wall.total := by
    have hm := Nat.mul_le_mul_right WallTime.microsPerDay hx.one_le_number
    unfold WallTime.total
    omega
  generalize ht : x.wall.total + n * WallTime.microsPerMinute = total at hk ⊢
  have hn : 1 ≤ total / WallTime.microsPerDay := (Nat.one_le_div_iff hday).mpr (by omega)
  have hw : WallTime.total ⟨Date.ofNumber (total / WallTime.microsPerDay),
      total % WallTime.microsPerDay⟩ = total := by
    rw [WallTime.total, Date.number_ofNumber hn]
    exact Nat.div_add_mod' ..
  exact ⟨rfl, hw, hw.symm ▸ hk⟩

theorem addMonths_eq_ok (h : x.addMonths n = .ok y) :
    y.zone = x.zone ∧ y.wall = { date := x.wall.date.monthsLater n, micros := x.wall.micros } ∧
      (x.wall.date.monthsLater n).year ≤ Date.greatestYear := by
  unfold addMonths at h
  dsimp only at h
  split at h
  next => cases h
  next hy =>
    obtain rfl := Except.ok.inj h
    exact ⟨rfl, rfl, Nat.not_lt.mp hy⟩

variable [ZoneData]

theorem minutesTo_addMinutes (hx : x.wall.date.Exists) (h : x.addMinutes n = .ok y) :
    x.minutesTo y = n := by
  obtain ⟨hz, ht, hk⟩ := total_addMinutes hx h
  refine minutesTo_of_whole ?_ ?_
  · rw [microsTo_of_zone_eq hz, ht, microsPerMinute]
    omega
  · have hl : Date.lastNumber = 3652059 := by decide
    rw [hl, ht] at hk
    unfold WallTime.microsPerDay WallTime.microsPerMinute WallTime.microsPerSecond at hk
    omega

theorem minutesTo_addMonths (hx : x.wall.date.Exists) (h : x.addMonths n = .ok y) :
    x.minutesTo y = (1440 * ((x.wall.date.monthsLater n).number - x.wall.date.number) : Nat) := by
  obtain ⟨hz, hw, hy⟩ := addMonths_eq_ok h
  have hlt := (hx.monthsLater hy).number_lt
  have hle := (hx.number_monthsLater_bounds n).1
  refine minutesTo_of_whole ?_ (by omega)
  rw [microsTo_of_zone_eq hz, hw]
  unfold WallTime.total microsPerMinute WallTime.microsPerDay WallTime.microsPerMinute
    WallTime.microsPerSecond
  dsimp only
  omega

end Instant

namespace Period

section Units

/-- A quantity of minutes is itself, and every other unit is made of one before it. A month counts
as the longest one does. -/
theorem toMinutes_of_units (n : Nat) :
    toMinutes { quantity := n, unit := some .minutes } = n ∧
    toMinutes { quantity := n, unit := some .hours } =
      toMinutes { quantity := n * 60, unit := some .minutes } ∧
    toMinutes { quantity := n, unit := some .days } =
      toMinutes { quantity := n * 24, unit := some .hours } ∧
    toMinutes { quantity := n, unit := some .weeks } =
      toMinutes { quantity := n * 7, unit := some .days } ∧
    toMinutes { quantity := n, unit := some .months } =
      toMinutes { quantity := n * 31, unit := some .days } := by
  simp only [toMinutes, Nat.mul_assoc]
  exact ⟨Nat.mul_one n, rfl, rfl, rfl, rfl⟩

end Units

section Lengths

variable [ZoneData] {p : Period} {x y : Instant}

theorem minutesTo_of_none (hu : p.unit = none) (h : p.addTo x = .ok y) :
    p.toMinutes = 0 ∧ x.minutesTo y = 0 ∧ y = x := by
  unfold addTo at h
  rw [hu] at h
  obtain rfl := Except.ok.inj h
  exact ⟨by simp [toMinutes, hu], Instant.minutesTo_of_whole (by simp) (by decide), rfl⟩

theorem minutesTo_of_unit {u : IntervalUnit} (hx : x.wall.date.Exists) (hu : p.unit = some u)
    (hm : u ≠ .months) (h : p.addTo x = .ok y) : x.minutesTo y = p.toMinutes := by
  unfold addTo at h
  rw [hu] at h
  cases u with
  | months => exact absurd rfl hm
  | _ => exact Instant.minutesTo_addMinutes hx h

theorem minutesTo_of_months (hx : x.wall.date.Exists) (hu : p.unit = some .months)
    (h : p.addTo x = .ok y) : p.toMinutes = 31 * 1440 * p.quantity ∧
      (28 * 1440 * p.quantity : Nat) ≤ x.minutesTo y ∧ x.minutesTo y ≤ p.toMinutes := by
  have hp : p.toMinutes = 31 * 1440 * p.quantity := by
    simp only [toMinutes, hu, IntervalUnit.inMinutes]
    omega
  unfold addTo at h
  rw [hu] at h
  obtain ⟨hlo, hhi⟩ := hx.number_monthsLater_bounds p.quantity
  rw [hp, Instant.minutesTo_addMonths hx h]
  omega

/-- A period that ends in time lasts as many minutes as it counts for, unless it is one of months:
these last 28 days at least and 31 days at most, for which they are counted. One that is not
recognised lasts no time. -/
theorem lasts_its_minutes (p : Period) (x : Instant) (hx : x.wall.date.Exists)
    (h : p.EndsInTime x) : ∃ y, p.addTo x = .ok y ∧
      (p.unit = none → p.toMinutes = 0 ∧ x.minutesTo y = 0 ∧ y = x) ∧
      (∀ u, p.unit = some u → u ≠ .months → x.minutesTo y = p.toMinutes) ∧
      (p.unit = some .months → p.toMinutes = 31 * 1440 * p.quantity ∧
        (28 * 1440 * p.quantity : Nat) ≤ x.minutesTo y ∧ x.minutesTo y ≤ p.toMinutes) ∧
      x.minutesTo y ≤ p.toMinutes := by
  obtain ⟨y, hy⟩ := exists_addTo_iff.mpr h
  have hnone (hu : p.unit = none) := minutesTo_of_none hu hy
  have hunit u (hu : p.unit = some u) hm := minutesTo_of_unit hx hu hm hy
  have hmonths (hu : p.unit = some .months) := minutesTo_of_months hx hu hy
  refine ⟨y, hy, hnone, hunit, hmonths, ?_⟩
  cases hu : p.unit with
  | none =>
    obtain ⟨h0, hm, -⟩ := hnone hu
    rw [h0, hm, Nat.cast_zero]
  | some u =>
    by_cases hm : u = .months
    · exact (hmonths (hm ▸ hu)).2.2
    · exact (hunit u hu hm).le

end Lengths

section January

def lastOfJanuary : Instant where
  wall := .atHour { year := 2026, month := 1, day := 31 } 12
  zone := .region "America/New_York"

attribute [local instance] ZoneData.of2026

theorem lasts_its_minutes_of_january :
    lastOfJanuary.wall.date.Exists ∧
    EndsInTime { quantity := 1, unit := some .months } lastOfJanuary ∧
    EndsInTime { quantity := 6, unit := some .weeks } lastOfJanuary ∧
    (∃ y, addTo { quantity := 1, unit := some .months } lastOfJanuary = .ok y ∧
      28 * 1440 ≤ lastOfJanuary.minutesTo y ∧ lastOfJanuary.minutesTo y ≤ 31 * 1440) ∧
    ∃ y, addTo { quantity := 6, unit := some .weeks } lastOfJanuary = .ok y ∧
      lastOfJanuary.minutesTo y = 6 * 10080 := by
  have hx : lastOfJanuary.wall.date.Exists := by decide
  have hmonth : EndsInTime { quantity := 1, unit := some .months } lastOfJanuary := by
    change _ ≤ Date.greatestYear
    decide
  have hweeks : EndsInTime { quantity := 6, unit := some .weeks } lastOfJanuary := by
    change _ ≤ Date.lastNumber
    decide +kernel
  obtain ⟨y, hy, -, -, hm, -⟩ := lasts_its_minutes _ _ hx hmonth
  obtain ⟨z, hz, -, hw, -, -⟩ := lasts_its_minutes _ _ hx hweeks
  exact ⟨hx, hmonth, hweeks, ⟨y, hy, (hm rfl).2⟩, z, hz, hw .weeks rfl (by decide)⟩

end January

end Period

end Lending
