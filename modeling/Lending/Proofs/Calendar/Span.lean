import Lending.Calendar.Instant
import Lending.Proofs.Number.Double

/-! # The span between two instants

Comparison and difference look at one span of microseconds, so they agree in sign. The minutes in a
span are its whole minutes, as long as the span is short enough for a double to tell its
microseconds apart; a longer one may be given the minute that is not yet over.
-/

namespace Lending.Instant

theorem sameRegion_comm (x y : Instant) : x.sameRegion y = y.sameRegion x := by
  unfold sameRegion
  cases x.zone <;> cases y.zone <;> simp [Bool.beq_comm]

variable [ZoneData] {x y : Instant}

section Order

theorem microsTo_of_region {r : String} (hx : x.zone = .region r) (hy : y.zone = .region r) :
    x.microsTo y = (y.wall.total : Int) - x.wall.total := by
  simp [microsTo, sameRegion, hx, hy]

theorem microsTo_of_no_region (h : ∀ r, x.zone = .region r → y.zone ≠ .region r) :
    x.microsTo y = y.universal - x.universal := by
  have hs : x.sameRegion y = false := by
    unfold sameRegion
    split
    next r r' hx hy =>
      rw [beq_eq_false_iff_ne]
      rintro rfl
      exact h r hx hy
    next => rfl
  simp [microsTo, hs]

theorem microsTo_of_zone_eq (h : y.zone = x.zone) :
    x.microsTo y = (y.wall.total : Int) - x.wall.total := by
  cases hx : x.zone with
  | region r => exact microsTo_of_region hx (h.trans hx)
  | utc | fixed =>
    rw [microsTo_of_no_region (by simp [hx])]
    simp only [universal, offset, Zone.offset, h, hx]
    omega

theorem before_iff : x.before y = true ↔ 0 < x.microsTo y := by simp [before]

@[simp] theorem microsTo_self (x : Instant) : x.microsTo x = 0 := by
  unfold microsTo
  split <;> exact Int.sub_self _

@[simp] theorem not_before_self (x : Instant) : x.before x = false := by simp [before]

theorem microsTo_swap (x y : Instant) : y.microsTo x = -x.microsTo y := by
  unfold microsTo
  rw [sameRegion_comm]
  split <;> omega

/-- Instants are not in one order for all zones, but no two of them are before one another. -/
theorem before_asymm (h : x.before y = true) : y.before x = false := by
  rw [before_iff] at h
  rw [← Bool.not_eq_true, before_iff, microsTo_swap]
  omega

theorem not_before_earlier (x y : Instant) : y.before (x.earlier y) = false := by
  unfold earlier
  split
  next => exact not_before_self y
  next h => simpa using h

theorem not_before_earlier_left (x y : Instant) : x.before (x.earlier y) = false := by
  unfold earlier
  split
  next h => exact before_asymm h
  next => exact not_before_self x

theorem earlier_eq_or (x y : Instant) : x.earlier y = x ∨ x.earlier y = y := by
  unfold earlier
  split
  · exact .inr rfl
  · exact .inl rfl

@[simp] theorem earlier_earlier (x y : Instant) : (x.earlier y).earlier y = x.earlier y := by
  unfold earlier
  split
  · simp
  · simp

end Order

section Minutes

/-- The seconds that a double holds to half a microsecond: some 544 years. -/
def exactSeconds : Nat := 2 ^ 34

theorem minutesTo_of_nonneg (h : 0 ≤ x.microsTo y) : x.minutesTo y =
    (Double.ofRatio false (x.microsTo y).toNat WallTime.microsPerSecond).floorDiv 60 := by
  have hn : ¬ x.microsTo y < 0 := Int.not_lt.mpr h
  have ha : (x.microsTo y).natAbs = (x.microsTo y).toNat := by omega
  simp [minutesTo, hn, ha]

theorem toNat_div_microsPerMinute (h : 0 ≤ x.microsTo y) :
    (((x.microsTo y).toNat / (WallTime.microsPerSecond * 60) : Nat) : Int) =
      x.microsTo y / microsPerMinute := by
  rw [Int.natCast_ediv, Int.toNat_of_nonneg h]
  rfl

theorem toNat_microsTo_lt {n : Nat} (h : 0 ≤ x.microsTo y)
    (hs : x.microsTo y < n * WallTime.microsPerSecond) :
    (x.microsTo y).toNat < WallTime.microsPerSecond * n := by
  rw [Nat.mul_comm]
  omega

theorem minutesTo_nonneg (h : 0 ≤ x.microsTo y) : 0 ≤ x.minutesTo y := by
  rw [minutesTo_of_nonneg h]
  exact Double.floorDiv_nonneg

/-- A span of less than `exactSeconds` has its whole minutes. -/
theorem minutesTo_eq_floor (h : 0 ≤ x.microsTo y)
    (hs : x.microsTo y < exactSeconds * WallTime.microsPerSecond) :
    x.minutesTo y = x.microsTo y / microsPerMinute := by
  rw [minutesTo_of_nonneg h, ← toNat_div_microsPerMinute h]
  exact Double.floorDiv_ofRatio_eq (j := 20) (by decide) (by decide) (by decide) (by decide)
    (toNat_microsTo_lt h hs)

/-- A longer span has its whole minutes, or one more. -/
theorem floor_le_minutesTo (h : 0 ≤ x.microsTo y)
    (hs : x.microsTo y < (2 ^ 53 : Nat) * WallTime.microsPerSecond) :
    x.microsTo y / microsPerMinute ≤ x.minutesTo y ∧
      x.minutesTo y ≤ x.microsTo y / microsPerMinute + 1 := by
  rw [minutesTo_of_nonneg h, ← toNat_div_microsPerMinute h]
  exact ⟨Double.le_floorDiv_ofRatio (toNat_microsTo_lt h hs),
    Double.floorDiv_ofRatio_le (by decide) (by decide) (toNat_microsTo_lt h hs)⟩

theorem minutesTo_of_whole {n : Nat} (h : x.microsTo y = n * microsPerMinute)
    (hs : n * 60 < 2 ^ 53) : x.minutesTo y = n := by
  have h0 : 0 ≤ x.microsTo y := h ▸ Int.mul_nonneg (Int.natCast_nonneg n) (by decide)
  have hn : (x.microsTo y).toNat = WallTime.microsPerSecond * (n * 60) := by
    rw [h, microsPerMinute, ← Int.natCast_mul, Int.toNat_natCast, WallTime.microsPerMinute]
    ring
  have hlt : WallTime.microsPerSecond * (n * 60) < WallTime.microsPerSecond * 2 ^ 53 :=
    Nat.mul_lt_mul_of_pos_left hs (by decide)
  have hq : WallTime.microsPerSecond * (n * 60) / (WallTime.microsPerSecond * 60) = n := by
    rw [Nat.mul_div_mul_left _ _ (by decide), Nat.mul_div_cancel n (by decide)]
  rw [minutesTo_of_nonneg h0, hn]
  apply le_antisymm
  · calc (Double.ofRatio false _ _).floorDiv 60
      _ ≤ ((n * 60 / 60 : Nat) : Int) := Double.floorDiv_ofRatio_le_div (Nat.le_refl _) hlt
      _ = n := by rw [Nat.mul_div_cancel n (by decide)]
  · calc (n : Int)
      _ = _ := by rw [hq]
      _ ≤ (Double.ofRatio false _ _).floorDiv 60 := Double.le_floorDiv_ofRatio hlt

end Minutes

end Lending.Instant

namespace Lending

def WallTime.atHour (d : Date) (hour : Nat) : WallTime where
  date := d
  micros := clock hour 0 0 0

/-- From the first time up to, but not including, the second. -/
def WallTime.within (w first last : WallTime) : Bool :=
  first.total ≤ w.total && w.total < last.total

/-- The hours that New York and London were ahead of universal time in 2026. -/
def ZoneData.hoursIn2026 (name : String) (w : WallTime) : Int :=
  if name = "America/New_York" then
    if w.within (.atHour ⟨2026, 3, 8⟩ 3) (.atHour ⟨2026, 11, 1⟩ 2) then -4 else -5
  else if w.within (.atHour ⟨2026, 3, 29⟩ 2) (.atHour ⟨2026, 10, 25⟩ 2) then 1 else 0

/-- A time zone database of the year 2026 for New York and London. -/
@[reducible] def ZoneData.of2026 : ZoneData where
  knows name := ["America/New_York", "Europe/London"].contains name
  offset name w := hoursIn2026 name w * 60 * WallTime.microsPerMinute

end Lending
