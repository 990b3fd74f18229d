import Lending.Proofs.Period

/-! # Periods in steps

A longer period of a unit ends later. One that is added in two steps ends where it ends at once,
unless it is one of months: there the day may be cut short on the way, and never grows back.
-/

namespace Lending

namespace Instant

variable {x y z : Instant} {n m : Nat}

theorem addMinutes_addMinutes (hx : x.wall.date.Exists) (h : x.addMinutes n = .ok y) (m : Nat) :
    y.addMinutes m = x.addMinutes (n + m) := by
  obtain ⟨hz, ht, -⟩ := total_addMinutes hx h
  unfold addMinutes
  rw [ht, hz, Nat.add_mul, Nat.add_assoc]

def onDate (x : Instant) (d : Date) : Instant := { x with wall := { x.wall with date := d } }

theorem addMonths_eq_ok_iff : x.addMonths n = .ok y ↔
    (x.wall.date.monthsLater n).year ≤ Date.greatestYear ∧
      y = x.onDate (x.wall.date.monthsLater n) := by
  constructor
  · intro h
    obtain ⟨hz, hw, hy⟩ := addMonths_eq_ok h
    refine ⟨hy, ?_⟩
    rw [onDate, ← hw, ← hz]
  · rintro ⟨hy, rfl⟩
    exact if_neg (Nat.not_lt.mpr hy)

theorem total_addMonths (h : x.addMonths n = .ok y) :
    y.zone = x.zone ∧ y.wall.total =
      (x.wall.date.monthsLater n).number * WallTime.microsPerDay + x.wall.micros := by
  obtain ⟨-, rfl⟩ := addMonths_eq_ok_iff.mp h
  exact ⟨rfl, rfl⟩

theorem addMonths_addMonths (hy : x.addMonths n = .ok y) (hz : x.addMonths (n + m) = .ok z) :
    y.addMonths m = .ok (z.onDate ((x.wall.date.monthsLater n).monthsLater m)) := by
  obtain ⟨-, rfl⟩ := addMonths_eq_ok_iff.mp hy
  obtain ⟨hyear, rfl⟩ := addMonths_eq_ok_iff.mp hz
  refine addMonths_eq_ok_iff.mpr ⟨?_, rfl⟩
  exact (x.wall.date.monthsLater_monthsLater n m).1.trans_le hyear

variable [ZoneData]

theorem before_of_total_lt (hz : y.zone = x.zone) (h : x.wall.total < y.wall.total) :
    x.before y = true := by
  rw [before_iff, microsTo_of_zone_eq hz]
  omega

theorem not_before_of_total_le (hz : y.zone = x.zone) (h : x.wall.total ≤ y.wall.total) :
    y.before x = false := by
  rw [← Bool.not_eq_true, before_iff, microsTo_of_zone_eq hz.symm]
  omega

end Instant

namespace Period

variable {u : IntervalUnit} {x y z : Instant} {n m : Nat}

theorem addTo_months (x : Instant) (n : Nat) :
    addTo { quantity := n, unit := some .months } x = x.addMonths n := rfl

theorem addTo_of_ne_months (hu : u ≠ .months) (x : Instant) (n : Nat) :
    addTo { quantity := n, unit := some u } x = x.addMinutes (n * u.inMinutes) := by
  cases u with
  | months => exact absurd rfl hu
  | _ => rfl

theorem inMinutes_pos (u : IntervalUnit) : 0 < u.inMinutes := by
  cases u <;> decide

theorem exists_addTo_of_add (h : EndsInTime { quantity := n + m, unit := some u } x) :
    ∃ y, addTo { quantity := n, unit := some u } x = .ok y := by
  obtain ⟨z, hz⟩ := exists_addTo_iff.mpr h
  obtain rfl | hu := eq_or_ne u .months
  · rw [addTo_months] at *
    have hle := Instant.exists_addMonths_iff.mp ⟨z, hz⟩
    refine Instant.exists_addMonths_iff.mpr (Nat.le_trans ?_ hle)
    gcongr
    exact Nat.le_add_right n m
  · rw [addTo_of_ne_months hu] at *
    have hle := Instant.exists_addMinutes_iff.mp ⟨z, hz⟩
    refine Instant.exists_addMinutes_iff.mpr (Nat.le_trans ?_ hle)
    gcongr
    exact Nat.le_add_right n m

theorem total_le_addTo (hx : x.wall.date.Exists)
    (h : addTo { quantity := n, unit := some u } x = .ok y) :
    y.zone = x.zone ∧ x.wall.total ≤ y.wall.total := by
  obtain rfl | hu := eq_or_ne u .months
  · rw [addTo_months] at h
    obtain ⟨hz, ht⟩ := Instant.total_addMonths h
    have hn := (hx.number_monthsLater_bounds n).1
    rw [ht, WallTime.total]
    refine ⟨hz, ?_⟩
    gcongr
    omega
  · rw [addTo_of_ne_months hu] at h
    obtain ⟨hz, ht, -⟩ := Instant.total_addMinutes hx h
    rw [ht]
    exact ⟨hz, Nat.le_add_right _ _⟩

theorem total_addTo_lt (hx : x.wall.date.Exists) (hm : 0 < m)
    (hy : addTo { quantity := n, unit := some u } x = .ok y)
    (hz : addTo { quantity := n + m, unit := some u } x = .ok z) :
    y.wall.total < z.wall.total := by
  obtain rfl | hu := eq_or_ne u .months
  · rw [(Instant.total_addMonths hy).2, (Instant.total_addMonths hz).2]
    gcongr
    · decide
    · exact Date.Exists.number_monthsLater_lt hx hm n
  · rw [addTo_of_ne_months hu] at hy hz
    rw [(Instant.total_addMinutes hx hy).2.1, (Instant.total_addMinutes hx hz).2.1]
    gcongr
    · decide
    · exact inMinutes_pos u
    · exact Nat.lt_add_of_pos_right hm

theorem addTo_addTo (hx : x.wall.date.Exists) (hu : u ≠ .months)
    (h : addTo { quantity := n, unit := some u } x = .ok y) :
    addTo { quantity := m, unit := some u } y =
      addTo { quantity := n + m, unit := some u } x := by
  rw [addTo_of_ne_months hu] at *
  rw [addTo_of_ne_months hu, Instant.addMinutes_addMinutes hx h, Nat.add_mul]

/-- A period of a recognised unit does not end before it starts, and a longer one ends later. Added
in two steps it ends where it ends at once; if it is one of months, then it ends in the same month,
at the same time of day and in the same zone, no later in the month, and on the same day wherever
every month has the day that it starts on. -/
theorem adds_up [ZoneData] (u : IntervalUnit) (x : Instant) (n m : Nat) (hx : x.wall.date.Exists)
    (h : EndsInTime { quantity := n + m, unit := some u } x) :
    ∃ y z, addTo { quantity := n, unit := some u } x = .ok y ∧
      addTo { quantity := n + m, unit := some u } x = .ok z ∧
      y.before x = false ∧ z.before x = false ∧ (0 < m → y.before z = true) ∧
      ∃ z', addTo { quantity := m, unit := some u } y = .ok z' ∧
        (u ≠ .months → z' = z) ∧
        (u = .months → z'.wall.date.year = z.wall.date.year ∧
          z'.wall.date.month = z.wall.date.month ∧ z'.wall.micros = z.wall.micros ∧
          z'.zone = z.zone ∧ z'.wall.date.day ≤ z.wall.date.day ∧
          (x.wall.date.day ≤ 28 → z' = z)) := by
  obtain ⟨y, hy⟩ := exists_addTo_of_add h
  obtain ⟨z, hz⟩ := exists_addTo_iff.mpr h
  obtain ⟨hyz, hyt⟩ := total_le_addTo hx hy
  obtain ⟨hzz, hzt⟩ := total_le_addTo hx hz
  refine ⟨y, z, hy, hz, Instant.not_before_of_total_le hyz hyt,
    Instant.not_before_of_total_le hzz hzt, fun hm => ?_, ?_⟩
  · exact Instant.before_of_total_lt (hzz.trans hyz.symm) (total_addTo_lt hx hm hy hz)
  · by_cases hu : u = .months
    · subst hu
      obtain ⟨-, rfl⟩ := Instant.addMonths_eq_ok_iff.mp hz
      obtain ⟨hyear, hmonth, hday⟩ := x.wall.date.monthsLater_monthsLater n m
      refine ⟨_, Instant.addMonths_addMonths hy hz, fun h => absurd rfl h, fun _ =>
        ⟨hyear, hmonth, rfl, rfl, hday.trans_le (Nat.min_le_left ..), fun hd => ?_⟩⟩
      rw [Date.monthsLater_monthsLater_of_le hd]
      rfl
    · exact ⟨z, (addTo_addTo hx hu hy).trans hz, fun _ => rfl, fun h => absurd h hu⟩

section January

attribute [local instance] ZoneData.of2026

/-- A month after the last day of January 2026 and a month after that it is 28 March, though two
months at once end on 31 March. -/
theorem adds_up_of_january :
    lastOfJanuary.wall.date.Exists ∧
    EndsInTime { quantity := 1 + 1, unit := some .months } lastOfJanuary ∧
    ∃ y z z', addTo { quantity := 1, unit := some .months } lastOfJanuary = .ok y ∧
      addTo { quantity := 1 + 1, unit := some .months } lastOfJanuary = .ok z ∧
      addTo { quantity := 1, unit := some .months } y = .ok z' ∧ y.before z = true ∧
      z'.wall.date.month = z.wall.date.month ∧ z'.wall.date.day ≤ z.wall.date.day ∧
      z'.wall.date.day = 28 ∧ z.wall.date.day = 31 := by
  have hx : lastOfJanuary.wall.date.Exists := by decide
  have h : EndsInTime { quantity := 1 + 1, unit := some .months } lastOfJanuary := by
    change _ ≤ Date.greatestYear
    decide
  obtain ⟨y, z, hy, hz, -, -, hlt, z', hz', -, hm⟩ := adds_up .months lastOfJanuary 1 1 hx h
  obtain ⟨-, hmonth, -, -, hday, -⟩ := hm rfl
  refine ⟨hx, h, y, z, z', hy, hz, hz', hlt Nat.one_pos, hmonth, hday, ?_, ?_⟩
  · obtain rfl := Except.ok.inj hy
    obtain rfl := Except.ok.inj hz'
    rfl
  · obtain rfl := Except.ok.inj hz
    rfl

end January

end Period

end Lending
