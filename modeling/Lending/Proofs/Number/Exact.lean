import Lending.Proofs.Number.Decimal
import Mathlib.Algebra.Order.Round
import Mathlib.Algebra.Order.Archimedean.Basic
import Mathlib.Data.Rat.Floor

/-! # Exact amounts

A multiple that the precision holds is not rounded, and one that is not too great is an amount. Two
places are taken from the magnitude of an amount, so a half goes away from zero on both sides of it,
and an amount may gain up to half a cent.
-/

namespace Lending.Decimal

/-- The precision holds a value that has few enough digits and no leading digit too high. -/
structure Held (v : ℚ) : Prop where
  digits : ∃ k e, k < 10 ^ precision ∧ |v| = magnitude k e
  lt : |v| < 10 ^ (greatestLead + 1)

/-- The number of cents nearest to the magnitude of a value, the greater one where two are. -/
def wholeCents (v : ℚ) : ℤ := round (100 * |v|)

/-- A value rounded to two places, a half away from zero. -/
def nearestCent (v : ℚ) : ℚ := if v < 0 then -(wholeCents v / 100) else wholeCents v / 100

section Multiples

variable {x : Decimal} {c k n : Nat} {e : Int} {negative : Bool}

@[simp] theorem abs_value_finite (negative : Bool) (c : Nat) (e : Int) :
    |(finite negative c e).value| = magnitude c e := by
  cases negative
  · exact abs_of_nonneg (magnitude_nonneg c e)
  · exact (abs_neg _).trans (abs_of_nonneg (magnitude_nonneg c e))

theorem value_finite_mul (negative : Bool) (c n : Nat) (e : Int) :
    (finite negative (c * n) e).value = (finite negative c e).value * n := by
  have h : magnitude (c * n) e = magnitude c e * n := by
    unfold magnitude
    push_cast
    ring
  cases negative
  · exact h
  · exact (congrArg Neg.neg h).trans (neg_mul _ _).symm

theorem lead_lt_of_magnitude_lt {j : Int} (hc : c ≠ 0) (h : magnitude c e < 10 ^ j) :
    lead c e < j :=
  (zpow_lt_zpow_iff_right₀ (by norm_num : (1 : ℚ) < 10)).mp ((lead_le_magnitude hc).trans_lt h)

theorem rounded_of_held (h : Held (finite negative c e).value) :
    ∃ a, rounded negative c e = .ok a ∧ a.isFinite = true ∧
      a.value = (finite negative c e).value := by
  obtain ⟨k, e', hk, hv⟩ := h.digits
  rw [abs_value_finite] at hv
  have hoff : roundOff c = c := roundOff_of_magnitude hk hv
  have hm := roundToPrecision_magnitude c e
  have hlt := h.lt
  rw [abs_value_finite, ← hoff, ← hm] at hlt
  have hfit : ¬ ((roundToPrecision c e).1 ≠ 0 ∧
      greatestLead < lead (roundToPrecision c e).1 (roundToPrecision c e).2) := by
    rintro ⟨hc, hl⟩
    exact absurd (lead_lt_of_magnitude_lt hc hlt) (Int.not_lt.mpr hl)
  have hr : rounded negative c e =
      .ok (.finite negative (roundToPrecision c e).1 (roundToPrecision c e).2) := if_neg hfit
  obtain ⟨hf, hva⟩ := rounded_eq_ok hr
  exact ⟨_, hr, hf, by rw [hva, hoff]⟩

theorem exists_rounded_of_lt (negative : Bool) (h : magnitude c e < 10 ^ greatestLead) :
    ∃ a, rounded negative c e = .ok a := by
  have hfit : ¬ ((roundToPrecision c e).1 ≠ 0 ∧
      greatestLead < lead (roundToPrecision c e).1 (roundToPrecision c e).2) := by
    rintro ⟨h0, hl⟩
    have hc : c ≠ 0 := by
      rintro rfl
      exact h0 rfl
    -- Rounding reaches the next power of ten at most.
    have hlead := lead_lt_of_magnitude_lt hc h
    have hle : magnitude (roundToPrecision c e).1 (roundToPrecision c e).2 ≤ 10 ^ greatestLead :=
      calc magnitude (roundToPrecision c e).1 (roundToPrecision c e).2
        _ = magnitude (roundOff c) e := roundToPrecision_magnitude c e
        _ ≤ magnitude (10 ^ digitCount c) e :=
          magnitude_mono (roundOff_le_ten_pow (lt_ten_pow_digitCount c).le (Nat.sub_le ..))
        _ = 10 ^ (digitCount c + e) := by
          rw [magnitude, ten_zpow_add, zpow_natCast]
          push_cast
          rfl
        _ ≤ 10 ^ greatestLead := by
          refine zpow_le_zpow_right₀ (by norm_num) ?_
          unfold lead at hlead
          omega
    have hle' := (lead_le_magnitude h0).trans hle
    exact absurd hl (not_lt.mpr ((zpow_le_zpow_iff_right₀ (by norm_num : (1 : ℚ) < 10)).mp hle'))
  exact ⟨_, if_neg hfit⟩

theorem exists_times_of_lt (hx : x.isFinite = true) (h : |x.value * n| < 10 ^ greatestLead) :
    ∃ a, x.times n = .ok a := by
  obtain ⟨negative, c, e, rfl⟩ := isFinite_iff.mp hx
  rw [← value_finite_mul, abs_value_finite] at h
  exact exists_rounded_of_lt negative h

theorem times_of_held (hx : x.isFinite = true) (h : Held (x.value * n)) :
    ∃ a, x.times n = .ok a ∧ a.isFinite = true ∧ a.value = x.value * n := by
  obtain ⟨negative, c, e, rfl⟩ := isFinite_iff.mp hx
  rw [← value_finite_mul] at h ⊢
  exact rounded_of_held h

end Multiples

section TwoPlaces

variable {x a : Decimal} {k c : Nat} {e : Int}

theorem NearestCents.wholeCents_eq (h : NearestCents k (magnitude c e)) (negative : Bool) :
    wholeCents (finite negative c e).value = k := by
  rw [wholeCents, abs_value_finite, round_eq, Int.floor_eq_iff]
  exact ⟨by exact_mod_cast h.1, by exact_mod_cast h.2⟩

theorem NearestCents.nearestCent_eq (h : NearestCents k (magnitude c e)) (negative : Bool) :
    nearestCent (finite negative c e).value = (finite negative k (-2)).value := by
  rw [nearestCent, h.wholeCents_eq, Int.cast_natCast, ← magnitude_cents]
  cases negative
  case false => exact if_neg (not_lt.mpr (magnitude_nonneg c e))
  case true =>
    by_cases hc : c = 0
    · subst hc
      simp [value, h.eq_zero]
    · exact if_pos (neg_lt_zero.mpr (magnitude_pos hc))

theorem toCents_of_lt (hx : x.isFinite = true) (h : wholeCents x.value < 10 ^ precision) :
    ∃ negative k, x.toCents = .ok (.finite negative k (-2)) ∧
      (finite negative k (-2)).value = nearestCent x.value := by
  obtain ⟨negative, c, e, rfl⟩ := isFinite_iff.mp hx
  obtain ⟨k, hk, hc⟩ := toCents_finite negative c e
  rw [hk.wholeCents_eq] at h
  refine ⟨negative, k, ?_, (hk.nearestCent_eq negative).symm⟩
  rw [hc, if_pos (by exact_mod_cast h)]

section Nearest

variable {v w : ℚ}

theorem wholeCents_eq_floor (h : 0 ≤ v) : wholeCents v = ⌊100 * v + 1 / 2⌋ := by
  rw [wholeCents, abs_of_nonneg h, round_eq]

theorem wholeCents_mono (h : 0 ≤ v) (hw : v ≤ w) : wholeCents v ≤ wholeCents w := by
  rw [wholeCents_eq_floor h, wholeCents_eq_floor (h.trans hw)]
  exact Int.floor_le_floor (by linarith)

theorem nearestCent_of_nonneg (h : 0 ≤ v) : nearestCent v = wholeCents v / 100 :=
  if_neg (not_lt.mpr h)

theorem nearestCent_nonneg (h : 0 ≤ v) : 0 ≤ nearestCent v := by
  have h0 : 0 ≤ wholeCents v := by
    rw [wholeCents_eq_floor h]
    exact Int.floor_nonneg.mpr (by linarith)
  rw [nearestCent_of_nonneg h]
  exact div_nonneg (Int.cast_nonneg h0) (by norm_num)

theorem NearestCents.le_nearestCent (hk : NearestCents k v) (h : 0 ≤ w) (hw : v ≤ w) :
    magnitude k (-2) ≤ nearestCent w := by
  have hle : (k : ℤ) ≤ wholeCents w := by
    rw [wholeCents_eq_floor h]
    refine Int.le_floor.mpr ?_
    push_cast
    linarith [hk.1]
  rw [magnitude_cents, nearestCent_of_nonneg h]
  exact div_le_div_of_nonneg_right (by exact_mod_cast hle) (by norm_num)

theorem nearestCent_le_add (h : 0 ≤ v) : nearestCent v ≤ v + 1 / 200 := by
  have hle := Int.floor_le (100 * v + 1 / 2)
  rw [nearestCent_of_nonneg h, wholeCents_eq_floor h]
  linarith

theorem nearestCent_le_self (h : 0 ≤ v) (hf : Int.fract (100 * v) < 1 / 2) : nearestCent v ≤ v := by
  have hr : round (100 * v) = ⌊100 * v⌋ := if_pos (by linarith)
  have hle := Int.floor_le (100 * v)
  rw [nearestCent_of_nonneg h, wholeCents, abs_of_nonneg h, hr]
  linarith

end Nearest

theorem toCents_places (h : x.toCents = .ok a) (ha : a.isFinite = true) :
    ∃ negative k, a = .finite negative k (-2) := by
  cases x with
  | finite negative c e =>
    obtain ⟨k, -, hc⟩ := toCents_finite negative c e
    rw [hc] at h
    split at h
    · exact ⟨negative, k, (Except.ok.inj h).symm⟩
    · cases h
  | infinite => cases h
  | nan negative signaling payload =>
    cases signaling with
    | true => cases h
    | false =>
      obtain rfl := Except.ok.inj h
      cases ha

end TwoPlaces

end Lending.Decimal
