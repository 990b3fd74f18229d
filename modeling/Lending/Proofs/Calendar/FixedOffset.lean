import Lending.Proofs.Calendar.Span

/-! # Instants with a fixed offset

Where offsets do not change, instants come in the order of the points of universal time that they
stand for. The calendar is short enough for the minutes up to a later instant to be no fewer.
-/

namespace Lending

section Bounds

theorem Date.daysBeforeYear_le (year : Nat) : daysBeforeYear year ≤ 366 * (year - 1) := by
  unfold daysBeforeYear
  dsimp only
  omega

theorem Date.daysInMonth_bounds (year month : Nat) :
    28 ≤ daysInMonth year month ∧ daysInMonth year month ≤ 31 := by
  unfold daysInMonth
  split
  · split <;> omega
  all_goals omega

theorem Date.daysBeforeMonth_le (year month : Nat) : daysBeforeMonth year month ≤ 31 * month := by
  induction month using daysBeforeMonth.induct with
  | case1 => exact Nat.zero_le _
  | case2 => exact Nat.zero_le _
  | case3 month hm ih =>
    have hd := (daysInMonth_bounds year month).2
    rw [daysBeforeMonth]
    · omega
    · exact hm

def Date.Exists (d : Date) : Prop := make? d.year d.month d.day = some d

instance (d : Date) : Decidable d.Exists := inferInstanceAs (Decidable (_ = _))

theorem Date.Exists.number_lt {d : Date} (h : d.Exists) : d.number < 3660000 := by
  unfold Exists make? leastYear greatestYear at h
  split at h
  next hd =>
    have hy := daysBeforeYear_le d.year
    have hm := daysBeforeMonth_le d.year d.month
    have hl := (daysInMonth_bounds d.year d.month).2
    unfold number
    omega
  next => cases h

end Bounds

variable [ZoneData]

/-- The zone is always as far from universal time. -/
def Zone.IsFixed (z : Zone) : Prop := ∀ w w', z.offset w = z.offset w'

namespace Instant

/-- A time of a date that exists, in a zone that is always as far from universal time and less than
a day away from it. -/
structure HasFixedOffset (x : Instant) : Prop where
  date_exists : x.wall.date.Exists
  micros_lt : x.wall.micros < WallTime.microsPerDay
  zone_isFixed : x.zone.IsFixed
  offset_lt : x.offset.natAbs < WallTime.microsPerDay

variable {x y z : Instant}

theorem HasFixedOffset.universal_bounds (h : x.HasFixedOffset) :
    -(WallTime.microsPerDay : Int) < x.universal ∧
      x.universal < (3660002 * WallTime.microsPerDay : Nat) := by
  have hn := h.date_exists.number_lt
  have hm := h.micros_lt
  have ho := h.offset_lt
  unfold universal WallTime.total
  unfold WallTime.microsPerDay WallTime.microsPerMinute WallTime.microsPerSecond at *
  omega

theorem HasFixedOffset.microsTo_eq (hx : x.HasFixedOffset) :
    x.microsTo y = y.universal - x.universal := by
  cases hs : x.sameRegion y with
  | false => simp [microsTo, hs]
  | true =>
    have ho : y.offset = x.offset := by
      unfold sameRegion at hs
      split at hs
      next r r' hr hr' =>
        obtain rfl := eq_of_beq hs
        unfold offset
        rw [hr', ← hr]
        exact hx.zone_isFixed _ _
      next => cases hs
    -- Within one region the wall clocks differ as universal time does.
    simp only [microsTo, hs, if_true, universal, ho]
    omega

theorem HasFixedOffset.not_before_iff (hy : y.HasFixedOffset) :
    y.before z = false ↔ z.universal ≤ y.universal := by
  rw [← Bool.not_eq_true, before_iff, hy.microsTo_eq]
  omega

theorem HasFixedOffset.minutesTo_mono (hx : x.HasFixedOffset) (hz : z.HasFixedOffset)
    (hp : x.before y = true) (h : z.before y = false) :
    x.before z = true ∧ x.minutesTo y ≤ x.minutesTo z := by
  have hle : x.microsTo y ≤ x.microsTo z := by
    have hu := hz.not_before_iff.mp h
    rw [hx.microsTo_eq, hx.microsTo_eq]
    omega
  have hy0 : 0 < x.microsTo y := before_iff.mp hp
  have hz0 : 0 < x.microsTo z := Int.lt_of_lt_of_le hy0 hle
  have hs : x.microsTo z < (2 ^ 53 : Nat) * WallTime.microsPerSecond := by
    have hbx := hx.universal_bounds
    have hbz := hz.universal_bounds
    rw [hx.microsTo_eq]
    unfold WallTime.microsPerDay WallTime.microsPerMinute WallTime.microsPerSecond at *
    omega
  refine ⟨before_iff.mpr hz0, ?_⟩
  rw [minutesTo_of_nonneg hy0.le, minutesTo_of_nonneg hz0.le]
  exact Double.floorDiv_ofRatio_mono (by decide) (by decide) (Int.toNat_le_toNat hle)
    (toNat_microsTo_lt hz0.le hs)

end Instant

end Lending
