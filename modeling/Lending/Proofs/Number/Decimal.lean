import Lending.Number.Decimal
import Lending.Proofs.Number.Double
import Lending.Proofs.Result
import Mathlib.Algebra.Order.Field.Rat
import Mathlib.Tactic.FieldSimp
import Mathlib.Tactic.Linarith
import Mathlib.Tactic.NormNum

/-! # Values of decimals

The comparison of amounts is the comparison of their values. Rounding to a number of significant
digits and rounding to cents keep the order of values, so sums of equal parts stay in the order of
how many parts they have.
-/

namespace Lending

section Digits

variable {n m : Nat}

theorem tenTo_eq (k : Nat) : tenTo k = 10 ^ k := rfl

theorem digitCount_pos (n : Nat) : 0 < digitCount n := Nat.length_toDigits_pos

theorem digitCount_le_iff {k : Nat} (hk : 0 < k) : digitCount n ≤ k ↔ n < 10 ^ k :=
  Nat.length_toDigits_le_iff (by decide) hk

theorem lt_ten_pow_digitCount (n : Nat) : n < 10 ^ digitCount n :=
  (digitCount_le_iff (digitCount_pos n)).mp le_rfl

theorem ten_pow_le_of_lt_digitCount {k : Nat} (h : k < digitCount n) (hn : n ≠ 0) : 10 ^ k ≤ n := by
  cases k with
  | zero => exact Nat.pos_of_ne_zero hn
  | succ k =>
    by_contra hlt
    have hle := (digitCount_le_iff k.succ_pos).mpr (Nat.not_le.mp hlt)
    omega

theorem digitCount_mono (h : n ≤ m) : digitCount n ≤ digitCount m :=
  (digitCount_le_iff (digitCount_pos m)).mpr (Nat.lt_of_le_of_lt h (lt_ten_pow_digitCount m))

end Digits

namespace Decimal

section Magnitude

variable {c c' : Nat} {e e' : Int}

/-- The value of a coefficient and an exponent. -/
def magnitude (c : Nat) (e : Int) : ℚ := c * 10 ^ e

theorem ten_zpow_pos (e : Int) : (0 : ℚ) < 10 ^ e := zpow_pos (by norm_num) e

theorem ten_zpow_add (e e' : Int) : (10 : ℚ) ^ (e + e') = 10 ^ e * 10 ^ e' :=
  zpow_add₀ (by norm_num) e e'

theorem magnitude_nonneg (c : Nat) (e : Int) : 0 ≤ magnitude c e :=
  mul_nonneg (Nat.cast_nonneg c) (ten_zpow_pos e).le

@[simp] theorem magnitude_zero (e : Int) : magnitude 0 e = 0 := by simp [magnitude]

theorem magnitude_pos (h : c ≠ 0) : 0 < magnitude c e :=
  mul_pos (Nat.cast_pos.mpr (Nat.pos_of_ne_zero h)) (ten_zpow_pos e)

theorem magnitude_mono (h : c ≤ c') : magnitude c e ≤ magnitude c' e :=
  mul_le_mul_of_nonneg_right (Nat.cast_le.mpr h) (ten_zpow_pos e).le

theorem magnitude_lt_iff : magnitude c e < magnitude c' e ↔ c < c' :=
  (mul_lt_mul_iff_of_pos_right (ten_zpow_pos e)).trans Nat.cast_lt

theorem magnitude_inj : magnitude c e = magnitude c' e ↔ c = c' :=
  (mul_left_inj' (ten_zpow_pos e).ne').trans Nat.cast_inj

theorem magnitude_eq_of_grid {k : Nat} (h : e = e' + k) (c : Nat) :
    magnitude c e = magnitude (c * tenTo k) e' := by
  rw [magnitude, magnitude, h, ten_zpow_add, zpow_natCast, tenTo_eq]
  push_cast
  ring

theorem magnitude_lt_lead (c : Nat) (e : Int) : magnitude c e < 10 ^ (lead c e + 1) := by
  have hl : lead c e + 1 = (digitCount c : Int) + e := by unfold lead; omega
  have hc : (c : ℚ) < 10 ^ digitCount c := by exact_mod_cast lt_ten_pow_digitCount c
  rw [hl, ten_zpow_add, zpow_natCast]
  exact mul_lt_mul_of_pos_right hc (ten_zpow_pos e)

theorem lead_le_magnitude (h : c ≠ 0) : 10 ^ lead c e ≤ magnitude c e := by
  have hp := digitCount_pos c
  have hl : lead c e = ((digitCount c - 1 : Nat) : Int) + e := by unfold lead; omega
  have hc : (10 : ℚ) ^ (digitCount c - 1) ≤ c := by
    exact_mod_cast ten_pow_le_of_lt_digitCount (by omega) h
  rw [hl, ten_zpow_add, zpow_natCast]
  exact mul_le_mul_of_nonneg_right hc (ten_zpow_pos e).le

theorem magnitude_lt_of_lead_lt (h : lead c e < lead c' e') (hc : c' ≠ 0) :
    magnitude c e < magnitude c' e' :=
  calc magnitude c e < 10 ^ (lead c e + 1) := magnitude_lt_lead c e
    _ ≤ 10 ^ lead c' e' := zpow_le_zpow_right₀ (by norm_num) h
    _ ≤ magnitude c' e' := lead_le_magnitude hc

theorem magnitudeLess_iff : magnitudeLess c e c' e' = true ↔ magnitude c e < magnitude c' e' := by
  unfold magnitudeLess
  split_ifs with h0 h0' hl
  · subst h0
    by_cases h' : c' = 0
    · simp [h']
    · simp [h', magnitude_pos]
  · subst h0'
    simp [magnitude_nonneg]
  · rw [decide_eq_true_iff]
    constructor
    · intro h
      exact magnitude_lt_of_lead_lt h h0'
    · intro h
      by_contra hle
      have hgt := magnitude_lt_of_lead_lt (by omega : lead c' e' < lead c e) h0
      exact lt_asymm h hgt
  · -- On the finer of the two grids both have a coefficient.
    have hg : e = min e e' + (e - e').toNat := by omega
    have hg' : e' = min e e' + (e' - e).toNat := by omega
    rw [decide_eq_true_iff, magnitude_eq_of_grid hg, magnitude_eq_of_grid hg', magnitude_lt_iff]

end Magnitude

section Value

variable {x y : Decimal}

/-- The value of an amount that is a finite number. -/
def value : Decimal → ℚ
  | .finite true c e => -magnitude c e
  | .finite false c e => magnitude c e
  | _ => 0

@[simp] theorem value_zero : zero.value = 0 := magnitude_zero 0

@[simp] theorem value_zeroCents : zeroCents.value = 0 := magnitude_zero (-2)

theorem isFinite_iff : x.isFinite = true ↔ ∃ negative c e, x = .finite negative c e := by
  cases x <;> simp [isFinite]

theorem less_eq (hx : x.isFinite = true) (hy : y.isFinite = true) :
    less x y = .ok (decide (x.value < y.value)) := by
  obtain ⟨n, c, e, rfl⟩ := isFinite_iff.mp hx
  obtain ⟨n', c', e', rfl⟩ := isFinite_iff.mp hy
  unfold less
  refine congrArg Except.ok (Bool.eq_iff_iff.mpr ?_)
  rw [decide_eq_true_iff]
  cases n <;> cases n'
  case false.false => exact magnitudeLess_iff
  case true.true => exact magnitudeLess_iff.trans neg_lt_neg_iff.symm
  case false.true =>
    have h : -magnitude c' e' ≤ magnitude c e := by
      linarith [magnitude_nonneg c e, magnitude_nonneg c' e']
    simpa [value] using h
  case true.false =>
    by_cases h : c = 0 ∧ c' = 0
    · simp [value, h]
    · have hpos : 0 < magnitude c e + magnitude c' e' := by
        by_cases hc : c = 0
        · exact add_pos_of_nonneg_of_pos (magnitude_nonneg ..) (magnitude_pos fun h' => h ⟨hc, h'⟩)
        · exact add_pos_of_pos_of_nonneg (magnitude_pos hc) (magnitude_nonneg ..)
      have hlt : -magnitude c e < magnitude c' e' := by linarith
      have hne : c ≠ 0 ∨ c' ≠ 0 := by tauto
      simpa [value, hlt] using hne

theorem nonneg_iff (hx : x.isFinite = true) : less x zero = .ok false ↔ 0 ≤ x.value := by
  rw [less_eq hx rfl, Except.ok.injEq, decide_eq_false_iff_not, value_zero, not_lt]

theorem lower?_eq_ok (hx : x.isFinite = true) (hy : y.isFinite = true) :
    ∃ r, x.lower? y = .ok r ∧ r.isFinite = true ∧ r.value = min x.value y.value := by
  unfold lower?
  rw [less_eq hy hx, ok_bind]
  by_cases h : y.value < x.value
  · exact ⟨y, if_pos (decide_eq_true h), hy, (min_eq_right h.le).symm⟩
  · exact ⟨x, if_neg (by simpa using h), hx, (min_eq_left (not_lt.mp h)).symm⟩

end Value

section Rounding

variable {c c' k : Nat} {e : Int}

/-- The multiple of a power of ten that a coefficient is rounded to. -/
def roundOff (c : Nat) : Nat :=
  roundHalfEven c (tenTo (digitCount c - precision)) * tenTo (digitCount c - precision)

theorem roundToPrecision_magnitude (c : Nat) (e : Int) :
    magnitude (roundToPrecision c e).1 (roundToPrecision c e).2 = magnitude (roundOff c) e := by
  unfold roundToPrecision roundOff
  generalize digitCount c - precision = drop
  dsimp only
  split_ifs with h h28
  · simp [h, tenTo_eq, roundHalfEven, Nat.mod_one]
  · -- A coefficient with one digit more gives up its last zero.
    have h27 : tenTo precision = tenTo (precision - 1) * tenTo 1 := by decide
    rw [h28, ← magnitude_eq_of_grid (e := e + drop) rfl, h27]
    exact magnitude_eq_of_grid rfl _
  · exact magnitude_eq_of_grid rfl _

theorem ten_pow_eq_tenTo_mul {d : Nat} (h : d ≤ k) : 10 ^ k = tenTo d * 10 ^ (k - d) := by
  rw [tenTo_eq, ← Nat.pow_add, Nat.add_sub_cancel' h]

theorem roundOff_le_ten_pow (h : c ≤ 10 ^ k) (hk : digitCount c - precision ≤ k) :
    roundOff c ≤ 10 ^ k := by
  rw [ten_pow_eq_tenTo_mul hk] at h ⊢
  rw [roundOff, Nat.mul_comm]
  exact Nat.mul_le_mul_left _ (roundHalfEven_le_of_le_mul h)

theorem ten_pow_le_roundOff (h : 10 ^ k ≤ c) (hk : digitCount c - precision ≤ k) :
    10 ^ k ≤ roundOff c := by
  have hd : tenTo (digitCount c - precision) ≠ 0 := (Nat.pow_pos (by decide)).ne'
  rw [ten_pow_eq_tenTo_mul hk] at h ⊢
  rw [roundOff, Nat.mul_comm _ (tenTo _)]
  exact Nat.mul_le_mul_left _ (le_roundHalfEven_of_mul_le hd h)

theorem roundOff_mul_ten_pow {j : Nat} (hk : k < 10 ^ precision) :
    roundOff (k * 10 ^ j) = k * 10 ^ j := by
  have hlt : k * 10 ^ j < 10 ^ (precision + j) := by
    rw [Nat.pow_add]
    exact Nat.mul_lt_mul_of_pos_right hk (Nat.pow_pos (by decide))
  have hj : digitCount (k * 10 ^ j) - precision ≤ j := by
    have hp : 0 < precision + j := Nat.add_pos_left (by decide) j
    have hd := (digitCount_le_iff hp).mpr hlt
    omega
  have h0 : tenTo (digitCount (k * 10 ^ j) - precision) ≠ 0 := (Nat.pow_pos (by decide)).ne'
  unfold roundOff
  generalize digitCount (k * 10 ^ j) - precision = drop at hj h0 ⊢
  have he : k * 10 ^ j = tenTo drop * (k * 10 ^ (j - drop)) := by
    rw [ten_pow_eq_tenTo_mul hj, Nat.mul_left_comm]
  rw [he, roundHalfEven_mul h0, Nat.mul_comm]

theorem roundOff_of_magnitude {e' : Int} (hk : k < 10 ^ precision)
    (h : magnitude c e = magnitude k e') : roundOff c = c := by
  obtain hle | hlt := le_or_gt e e'
  · have hg : e' = e + (e' - e).toNat := by omega
    rw [magnitude_eq_of_grid hg, magnitude_inj] at h
    rw [h]
    exact roundOff_mul_ten_pow hk
  · have hg : e = e' + (e - e').toNat := by omega
    rw [magnitude_eq_of_grid hg, magnitude_inj] at h
    have hc : c ≤ k := h ▸ Nat.le_mul_of_pos_right c (Nat.pow_pos (by decide))
    simpa using roundOff_mul_ten_pow (j := 0) (Nat.lt_of_le_of_lt hc hk)

/-- Rounding keeps the order, also where it drops more digits of the greater number. -/
theorem roundOff_mono (h : c ≤ c') : roundOff c ≤ roundOff c' := by
  obtain hd | hd := (digitCount_mono h).eq_or_lt
  · rw [roundOff, roundOff, hd]
    exact Nat.mul_le_mul_right _ (roundHalfEven_mono h)
  · -- The power of ten that the greater number reaches lies between them.
    have hc' : c' ≠ 0 := by
      rintro rfl
      rw [Nat.le_zero.mp h] at hd
      exact lt_irrefl _ hd
    have hlt : c < 10 ^ (digitCount c' - 1) :=
      calc c < 10 ^ digitCount c := lt_ten_pow_digitCount c
        _ ≤ 10 ^ (digitCount c' - 1) := Nat.pow_le_pow_right (by decide) (by omega)
    have hle : 10 ^ (digitCount c' - 1) ≤ c' := ten_pow_le_of_lt_digitCount (by omega) hc'
    have hp : 0 < precision := by decide
    exact (roundOff_le_ten_pow hlt.le (by omega)).trans (ten_pow_le_roundOff hle (by omega))

end Rounding

section Order

/-- Two finite amounts, neither of them below zero and the first not above the second. -/
structure Ascending (x y : Decimal) : Prop where
  left_isFinite : x.isFinite = true
  right_isFinite : y.isFinite = true
  nonneg : 0 ≤ x.value
  le : x.value ≤ y.value

variable {x y a b : Decimal} {k n c : Nat} {e : Int} {negative : Bool}

theorem Ascending.less_eq (h : Ascending x y) : less y x = .ok false := by
  rw [Decimal.less_eq h.right_isFinite h.left_isFinite, decide_eq_false (not_lt.mpr h.le)]

theorem Ascending.right (h : Ascending x y) : Ascending y y :=
  ⟨h.right_isFinite, h.right_isFinite, h.nonneg.trans h.le, le_rfl⟩

theorem ascending_zeroCents_of_nonneg (hx : x.isFinite = true) (h : 0 ≤ x.value) :
    Ascending zeroCents x :=
  ⟨rfl, hx, value_zeroCents.ge, value_zeroCents ▸ h⟩

theorem ascending_zeroCents : Ascending zeroCents zeroCents :=
  ascending_zeroCents_of_nonneg rfl value_zeroCents.ge

theorem rounded_eq_ok (h : rounded negative c e = .ok x) :
    x.isFinite = true ∧ x.value = (finite negative (roundOff c) e).value := by
  unfold rounded at h
  dsimp only at h
  split at h
  · cases h
  · obtain rfl := Except.ok.inj h
    cases negative <;> simp [isFinite, value, roundToPrecision_magnitude]

theorem coefficient_eq_zero (h : 0 ≤ (finite true c e).value) : c = 0 := by
  by_contra hc
  have hpos : 0 < magnitude c e := magnitude_pos hc
  unfold value at h
  linarith

/-- More equal parts make no smaller amount, each sum being rounded. -/
theorem Ascending.of_times (hx : x.isFinite = true) (h0 : 0 ≤ x.value) (hk : k ≤ n)
    (ha : x.times k = .ok a) (hb : x.times n = .ok b) : Ascending a b := by
  obtain ⟨negative, c, e, rfl⟩ := isFinite_iff.mp hx
  obtain ⟨hfa, hva⟩ := rounded_eq_ok ha
  obtain ⟨hfb, hvb⟩ := rounded_eq_ok hb
  cases negative with
  | false =>
    refine ⟨hfa, hfb, hva ▸ magnitude_nonneg .., ?_⟩
    rw [hva, hvb]
    exact magnitude_mono (roundOff_mono (Nat.mul_le_mul_left c hk))
  | true =>
    -- A zero below zero stays what it is.
    have hz : (finite true (roundOff 0) e).value = 0 := neg_eq_zero.mpr (magnitude_zero e)
    rw [coefficient_eq_zero h0, Nat.zero_mul, hz] at hva hvb
    exact ⟨hfa, hfb, hva.ge, (hva.trans hvb.symm).le⟩

end Order

section Cents

variable {x y a b : Decimal} {k n c : Nat} {e : Int}

/-- A number of cents is nearest to a value, the greater one where two are. -/
def NearestCents (k : Nat) (v : ℚ) : Prop := (k : ℚ) ≤ 100 * v + 1 / 2 ∧ 100 * v + 1 / 2 < k + 1

theorem NearestCents.mono {v w : ℚ} (hk : NearestCents k v) (hn : NearestCents n w) (h : v ≤ w) :
    k ≤ n := by
  have hlt : (k : ℚ) < (n + 1 : Nat) := by
    push_cast
    linarith [hk.1, hn.2]
  exact Nat.le_of_lt_succ (Nat.cast_lt.mp hlt)

theorem magnitude_cents (n : Nat) : magnitude n (-2) = n / 100 := by
  rw [magnitude, div_eq_mul_inv]
  norm_num

theorem nearestCents_cents (n : Nat) : NearestCents n (magnitude n (-2)) := by
  have hv : 100 * magnitude n (-2) = n := by
    rw [magnitude_cents]
    ring
  unfold NearestCents
  rw [hv]
  constructor <;> linarith

theorem NearestCents.eq_zero (h : NearestCents k (magnitude 0 e)) : k = 0 := by
  rw [magnitude_zero, ← magnitude_zero (-2)] at h
  exact Nat.eq_zero_of_le_zero (h.mono (nearestCents_cents 0) le_rfl)

theorem nearestCents_roundHalfUp {d : Nat} (hd : 0 < d) (n : Nat) :
    NearestCents (roundHalfUp n d) (magnitude n (-2) / d) := by
  have hdq : (0 : ℚ) < 2 * d := by positivity
  have hv : 100 * (magnitude n (-2) / d) + 1 / 2 = ((2 * n + d : Nat) : ℚ) / (2 * d) := by
    rw [magnitude_cents]
    push_cast
    field_simp
  have hlo : 2 * d * roundHalfUp n d ≤ 2 * n + d := Nat.mul_div_le ..
  have hhi : 2 * n + d < 2 * d * (roundHalfUp n d + 1) := Nat.lt_mul_div_succ _ (by omega)
  unfold NearestCents
  rw [hv, le_div_iff₀' hdq, div_lt_iff₀' hdq]
  exact ⟨by exact_mod_cast hlo, by exact_mod_cast hhi⟩

theorem nearestCents_zero (h : lead c e < -4) : NearestCents 0 (magnitude c e) := by
  have hlt : magnitude c e < 10 ^ (-4 : Int) :=
    calc magnitude c e < 10 ^ (lead c e + 1) := magnitude_lt_lead c e
      _ ≤ 10 ^ (-4 : Int) := zpow_le_zpow_right₀ (by norm_num) (by omega)
  have h0 := magnitude_nonneg c e
  norm_num at hlt
  constructor
  · push_cast
    linarith
  · push_cast
    linarith

theorem nearestCents_of_grid (c : Nat) (e : Int) :
    NearestCents (if -2 ≤ e then c * tenTo (e + 2).toNat else roundHalfUp c (tenTo (-2 - e).toNat))
      (magnitude c e) := by
  split
  next he =>
    have hg : e = -2 + (e + 2).toNat := by omega
    rw [magnitude_eq_of_grid hg]
    exact nearestCents_cents _
  next he =>
    have hg : -2 = e + (-2 - e).toNat := by omega
    have hd : 0 < tenTo (-2 - e).toNat := Nat.pow_pos (by decide)
    have hm : magnitude c e = magnitude c (-2) / tenTo (-2 - e).toNat := by
      rw [magnitude_eq_of_grid hg, eq_div_iff (Nat.cast_pos.mpr hd).ne', magnitude, magnitude]
      push_cast
      ring
    rw [hm]
    exact nearestCents_roundHalfUp hd c

theorem NearestCents.ten_pow_le (h : NearestCents k (magnitude c e)) (hc : c ≠ 0)
    (hl : (precision : Int) < lead c e + 3) : 10 ^ precision ≤ k := by
  have hp : (10 : ℚ) ^ precision ≤ 100 * magnitude c e :=
    calc (10 : ℚ) ^ precision = 100 * 10 ^ ((precision : Int) - 2) := by
          rw [← zpow_natCast, show (precision : Int) = 2 + ((precision : Int) - 2) by omega,
            ten_zpow_add]
          norm_num
      _ ≤ 100 * 10 ^ lead c e := by
          gcongr
          · norm_num
          · omega
      _ ≤ 100 * magnitude c e := by
          gcongr
          exact lead_le_magnitude hc
  have hlt : ((10 ^ precision : Nat) : ℚ) < (k + 1 : Nat) := by
    push_cast
    linarith [h.2]
  exact Nat.le_of_lt_succ (Nat.cast_lt.mp hlt)

/-- An amount has the cents that are nearest to it, unless they take too many digits. -/
theorem toCents_finite (negative : Bool) (c : Nat) (e : Int) :
    ∃ k, NearestCents k (magnitude c e) ∧ (finite negative c e).toCents =
      if k < 10 ^ precision then .ok (.finite negative k (-2)) else .error .invalid := by
  unfold toCents
  dsimp only
  split
  next hc =>
    refine ⟨0, ?_, rfl⟩
    unfold NearestCents
    rw [hc, magnitude_zero]
    norm_num
  next hc =>
    have hn := nearestCents_of_grid c e
    generalize (if -2 ≤ e then _ else _) = cents at hn ⊢
    split_ifs with hp hl hd
    · exact ⟨cents, hn, (if_neg (Nat.not_lt.mpr (hn.ten_pow_le hc hp))).symm⟩
    · exact ⟨0, nearestCents_zero hl, rfl⟩
    · refine ⟨cents, hn, (if_neg fun h => ?_).symm⟩
      exact Nat.not_le.mpr hd ((digitCount_le_iff (by decide)).mpr h)
    · exact ⟨cents, hn, (if_pos ((digitCount_le_iff (by decide)).mp (Nat.not_lt.mp hd))).symm⟩

theorem toCents_eq_ok (hx : x.isFinite = true) (h0 : 0 ≤ x.value) (h : x.toCents = .ok a) :
    a.isFinite = true ∧ ∃ k, NearestCents k x.value ∧ a.value = magnitude k (-2) := by
  obtain ⟨negative, c, e, rfl⟩ := isFinite_iff.mp hx
  obtain ⟨k, hk, hc⟩ := toCents_finite negative c e
  rw [hc] at h
  split at h
  next =>
    obtain rfl := Except.ok.inj h
    cases negative with
    | false => exact ⟨rfl, k, hk, rfl⟩
    | true =>
      -- The amount is zero, and so are its cents.
      obtain rfl := coefficient_eq_zero h0
      obtain rfl := hk.eq_zero
      exact ⟨rfl, 0, by simpa [value] using hk, by simp [value]⟩
  next => cases h

theorem Ascending.of_toCents (h : Ascending x y) (ha : x.toCents = .ok a) (hb : y.toCents = .ok b) :
    Ascending a b := by
  obtain ⟨hfa, k, hk, hva⟩ := toCents_eq_ok h.left_isFinite h.nonneg ha
  obtain ⟨hfb, n, hn, hvb⟩ := toCents_eq_ok h.right_isFinite h.right.nonneg hb
  refine ⟨hfa, hfb, hva ▸ magnitude_nonneg .., ?_⟩
  rw [hva, hvb]
  exact magnitude_mono (hk.mono hn h.le)

end Cents

end Decimal

end Lending
