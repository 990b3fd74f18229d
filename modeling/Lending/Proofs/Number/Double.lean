import Lending.Number.Double
import Mathlib.Data.Nat.Log
import Mathlib.Tactic.Ring

/-! # Whole parts of rounded quotients

A quotient held as a double is at most half a place away from its value. The whole part of what is
left after a division by an integer is therefore never too small, too great by one at most, and
right where the places are finer than the steps of the quotient. It grows with the quotient.
-/

namespace Lending

section Rounding

variable {n d j : Nat}

theorem twoTo_eq (k : Nat) : twoTo k = 2 ^ k := rfl

theorem div_le_roundHalfEven : n / d ≤ roundHalfEven n d := by
  unfold roundHalfEven
  dsimp only
  split
  · rfl
  · split
    · omega
    · split <;> omega

theorem roundHalfEven_le : roundHalfEven n d ≤ n / d + 1 := by
  unfold roundHalfEven
  dsimp only
  split
  · omega
  · split
    · rfl
    · split <;> omega

theorem two_mul_roundHalfEven_le : 2 * (d * roundHalfEven n d) ≤ 2 * n + d := by
  have hn : d * (n / d) + n % d = n := Nat.div_add_mod n d
  have hs : d * (n / d + 1) = d * (n / d) + d := Nat.mul_succ d (n / d)
  unfold roundHalfEven
  dsimp only
  split
  · omega
  · split
    · omega
    · split <;> omega

theorem roundHalfEven_le_of_le_mul {m : Nat} (h : n ≤ d * m) : roundHalfEven n d ≤ m := by
  by_cases hd : d = 0
  · subst hd
    simp [roundHalfEven, Nat.eq_zero_of_le_zero (Nat.zero_mul m ▸ h)]
  by_contra hlt
  -- Rounding up to a number that is too great would take a whole step.
  have hs : d * (m + 1) ≤ d * roundHalfEven n d := Nat.mul_le_mul_left d (Nat.not_le.mp hlt)
  have hr := two_mul_roundHalfEven_le (n := n) (d := d)
  rw [Nat.mul_succ] at hs
  omega

theorem le_roundHalfEven_of_mul_le {m : Nat} (hd : d ≠ 0) (h : d * m ≤ n) :
    m ≤ roundHalfEven n d := by
  rw [Nat.mul_comm, ← Nat.le_div_iff_mul_le (Nat.pos_of_ne_zero hd)] at h
  exact h.trans div_le_roundHalfEven

theorem roundHalfEven_mul {m : Nat} (hd : d ≠ 0) : roundHalfEven (d * m) d = m :=
  le_antisymm (roundHalfEven_le_of_le_mul le_rfl) (le_roundHalfEven_of_mul_le hd le_rfl)

theorem roundHalfEven_mono {n' : Nat} (h : n ≤ n') : roundHalfEven n d ≤ roundHalfEven n' d := by
  obtain hq | hq := (Nat.div_le_div_right (c := d) h).eq_or_lt
  · have hr : n % d ≤ n' % d := by
      have hn := Nat.div_add_mod n d
      have hn' := Nat.div_add_mod n' d
      rw [hq] at hn
      omega
    -- Within one step the part that is left decides.
    unfold roundHalfEven
    dsimp only
    rw [hq]
    split_ifs <;> omega
  · exact roundHalfEven_le.trans (Nat.le_trans hq div_le_roundHalfEven)

theorem floorLog2_lt (hn : n ≠ 0) (h : n < d * 2 ^ j) : floorLog2 n d < j := by
  have hlt : n.log2 < d.log2 + 1 + j := by
    have hp : 2 ^ n.log2 < 2 ^ (d.log2 + 1 + j) :=
      calc 2 ^ n.log2 ≤ n := Nat.log2_self_le hn
        _ < d * 2 ^ j := h
        _ ≤ 2 ^ (d.log2 + 1) * 2 ^ j := Nat.mul_le_mul_right _ Nat.lt_log2_self.le
        _ = 2 ^ (d.log2 + 1 + j) := (Nat.pow_add ..).symm
    exact (Nat.pow_lt_pow_iff_right (by decide)).mp hp
  unfold floorLog2
  dsimp only
  split
  · split
    next hr =>
      -- The power is reached, so the quotient is not below it.
      rw [twoTo_eq] at hr
      by_contra hge
      have hj : 2 ^ j ≤ 2 ^ ((n.log2 : Int) - d.log2).toNat :=
        Nat.pow_le_pow_right (by decide) (by omega)
      exact absurd h (Nat.not_lt.mpr ((Nat.mul_le_mul_left d hj).trans hr))
    next => omega
  · split <;> omega

theorem ne_zero_of_mul_two_pow_le (hd : d ≠ 0) (h : d * 2 ^ j ≤ n) : n ≠ 0 := by
  have hpos := Nat.mul_pos (Nat.pos_of_ne_zero hd) (Nat.two_pow_pos j)
  omega

theorem exists_mul_two_pow_le (hd : d ≠ 0) (h : d ≤ n) :
    ∃ j, d * 2 ^ j ≤ n ∧ n < d * 2 ^ (j + 1) := by
  have hd0 : 0 < d := Nat.pos_of_ne_zero hd
  have hq : n / d ≠ 0 := Nat.div_ne_zero_iff.mpr ⟨hd, h⟩
  refine ⟨(n / d).log2, ?_, ?_⟩
  · rw [Nat.mul_comm, ← Nat.le_div_iff_mul_le hd0]
    exact Nat.log2_self_le hq
  · rw [Nat.mul_comm, ← Nat.div_lt_iff_lt_mul hd0]
    exact Nat.lt_log2_self

theorem le_floorLog2 (hd : d ≠ 0) (h : d * 2 ^ j ≤ n) : (j : Int) ≤ floorLog2 n d := by
  have hle : d.log2 + j < n.log2 + 1 := by
    have hp : 2 ^ (d.log2 + j) < 2 ^ (n.log2 + 1) :=
      calc 2 ^ (d.log2 + j) = 2 ^ d.log2 * 2 ^ j := Nat.pow_add ..
        _ ≤ d * 2 ^ j := Nat.mul_le_mul_right _ (Nat.log2_self_le hd)
        _ ≤ n := h
        _ < 2 ^ (n.log2 + 1) := Nat.lt_log2_self
    exact (Nat.pow_lt_pow_iff_right (by decide)).mp hp
  have hk : (0 : Int) ≤ (n.log2 : Int) - d.log2 := by omega
  unfold floorLog2
  simp only [if_pos hk, twoTo_eq]
  split
  next => omega
  next hr =>
    -- The estimate is too high, so it is not the exponent.
    have hne : ((n.log2 : Int) - d.log2).toNat ≠ j := by
      rintro rfl
      exact hr h
    omega

end Rounding

namespace Double

variable {n d k j : Nat}

/-- The binary places that a quotient keeps behind the point. -/
def places (n d : Nat) : Nat := (-(max (floorLog2 n d - 52) leastExponent)).toNat

theorem le_places (hn : n ≠ 0) (hj : j ≤ 54) (h : n < d * 2 ^ (54 - j)) :
    j ≤ places n d + 1 := by
  have hl := floorLog2_lt hn h
  unfold places leastExponent
  omega

theorem floorDiv_nonneg : 0 ≤ (ofRatio false n d).floorDiv k := by
  have hf (m : Nat) (e : Int) : 0 ≤ (finite false m e).floorDiv k :=
    Int.ediv_nonneg (Int.natCast_nonneg _) (Int.natCast_nonneg _)
  have hp (p : Nat × Int) : 0 ≤ (if greatestExponent < p.2 then infinite false
      else finite false p.1 p.2).floorDiv k := by
    split
    · exact Int.le_refl 0
    · exact hf ..
  unfold ofRatio
  split
  · exact hf ..
  · exact hp _

theorem floorDiv_finite (m p k : Nat) :
    (finite false m (-(p : Int))).floorDiv k = (m / (k * 2 ^ p) : Nat) := by
  unfold floorDiv
  cases p with
  | zero => simp [twoTo_eq]
  | succ p =>
    have hp : ¬ 0 ≤ -((p + 1 : Nat) : Int) := by omega
    simp only [hp, if_false, Bool.false_eq_true, neg_neg, Int.toNat_natCast, twoTo_eq,
      Int.natCast_ediv]

theorem floorDiv_zero (d k : Nat) : (ofRatio false 0 d).floorDiv k = 0 := by
  change (finite false 0 (-(1074 : Nat))).floorDiv k = 0
  rw [floorDiv_finite, Nat.zero_div, Nat.cast_zero]

/-- The whole part of a rounded quotient below `2 ^ 53`, divided once more. -/
theorem floorDiv_ofRatio (hn : n ≠ 0) (h : n < d * 2 ^ 53) :
    (ofRatio false n d).floorDiv k =
      (roundHalfEven (n * 2 ^ places n d) d / (k * 2 ^ places n d) : Nat) := by
  have hl := floorLog2_lt hn h
  have he : max (floorLog2 n d - 52) leastExponent = -(places n d : Int) := by
    unfold places leastExponent
    omega
  generalize places n d = p at he ⊢
  have hm : (if 0 ≤ -(p : Int) then roundHalfEven n (d * twoTo (-(p : Int)).toNat)
      else roundHalfEven (n * twoTo (-(-(p : Int))).toNat) d) = roundHalfEven (n * 2 ^ p) d := by
    cases p with
    | zero => simp [twoTo_eq]
    | succ p =>
      have hp : ¬ 0 ≤ -((p + 1 : Nat) : Int) := by omega
      rw [if_neg hp, neg_neg, Int.toNat_natCast, twoTo_eq]
  simp only [ofRatio, hn, if_false, he, hm]
  generalize roundHalfEven (n * 2 ^ p) d = m
  have hg : ¬ greatestExponent < -(p : Int) := by unfold greatestExponent; omega
  by_cases hc : m = twoTo 53
  · -- The mantissa has become too long: half of it is kept, with the next exponent.
    cases p with
    | zero => simp [hc, twoTo_eq, floorDiv, greatestExponent]
    | succ p =>
      have hp : -((p + 1 : Nat) : Int) + 1 = -(p : Int) := by omega
      have hg : ¬ greatestExponent < -(p : Int) := by unfold greatestExponent; omega
      have hh : twoTo 53 / (k * 2 ^ (p + 1)) = twoTo 52 / (k * 2 ^ p) := by
        rw [Nat.pow_succ, ← Nat.mul_assoc, twoTo_eq, twoTo_eq, Nat.pow_succ 2 52]
        exact Nat.mul_div_mul_right _ _ (by decide)
      simp only [hc, if_true, hp, hg, if_false, hh, floorDiv_finite]
  · simp only [hc, if_false, hg, floorDiv_finite]

theorem add_le_mul_div_add_one (hd : d ≠ 0) (hk : k ≠ 0) (p : Nat) :
    n * 2 ^ p + 2 ^ p ≤ d * (k * 2 ^ p * (n / (d * k) + 1)) := by
  have hlt : n + 1 ≤ (n / (d * k) + 1) * (d * k) := by
    rw [Nat.mul_comm]
    exact Nat.lt_mul_div_succ n (Nat.pos_of_ne_zero (Nat.mul_ne_zero hd hk))
  calc n * 2 ^ p + 2 ^ p = (n + 1) * 2 ^ p := (Nat.succ_mul ..).symm
    _ ≤ (n / (d * k) + 1) * (d * k) * 2 ^ p := Nat.mul_le_mul_right _ hlt
    _ = d * (k * 2 ^ p * (n / (d * k) + 1)) := by ring

theorem le_floorDiv_ofRatio (h : n < d * 2 ^ 53) :
    ((n / (d * k) : Nat) : Int) ≤ (ofRatio false n d).floorDiv k := by
  by_cases hn : n = 0
  · simp [hn, floorDiv_zero]
  rw [floorDiv_ofRatio hn h, Int.ofNat_le]
  generalize places n d = p
  calc n / (d * k) = n * 2 ^ p / (d * (k * 2 ^ p)) := by
        rw [← Nat.mul_assoc, Nat.mul_div_mul_right _ _ (Nat.two_pow_pos p)]
    _ = n * 2 ^ p / d / (k * 2 ^ p) := (Nat.div_div_eq_div_mul ..).symm
    _ ≤ roundHalfEven (n * 2 ^ p) d / (k * 2 ^ p) := Nat.div_le_div_right div_le_roundHalfEven

theorem floorDiv_ofRatio_le (hd : d ≠ 0) (hk : k ≠ 0) (h : n < d * 2 ^ 53) :
    (ofRatio false n d).floorDiv k ≤ ((n / (d * k) + 1 : Nat) : Int) := by
  by_cases hn : n = 0
  · simp [hn, floorDiv_zero]
  rw [floorDiv_ofRatio hn h, Int.ofNat_le]
  generalize places n d = p
  have hq : n * 2 ^ p / d < k * 2 ^ p * (n / (d * k) + 1) := by
    rw [Nat.div_lt_iff_lt_mul (Nat.pos_of_ne_zero hd), Nat.mul_comm _ d]
    exact Nat.lt_of_lt_of_le (Nat.lt_add_of_pos_right (Nat.two_pow_pos p))
      (add_le_mul_div_add_one hd hk p)
  exact Nat.div_le_of_le_mul (roundHalfEven_le.trans hq)

/-- Where half a place is less than the step between quotients, the whole part is right. -/
theorem floorDiv_ofRatio_eq (hd : d ≠ 0) (hk : k ≠ 0) (hj : j ≤ 54) (hdj : d < 2 ^ j)
    (h : n < d * 2 ^ (54 - j)) :
    (ofRatio false n d).floorDiv k = ((n / (d * k) : Nat) : Int) := by
  by_cases hn : n = 0
  · simp [hn, floorDiv_zero]
  have hj0 : j ≠ 0 := by
    rintro rfl
    omega
  have hlt : n < d * 2 ^ 53 :=
    Nat.lt_of_lt_of_le h (Nat.mul_le_mul_left d (Nat.pow_le_pow_right (by decide) (by omega)))
  refine le_antisymm ?_ (le_floorDiv_ofRatio hlt)
  have hp : 2 ^ j ≤ 2 * 2 ^ places n d := by
    rw [← Nat.pow_succ']
    exact Nat.pow_le_pow_right (by decide) (le_places hn hj h)
  rw [floorDiv_ofRatio hn hlt, Int.ofNat_le]
  generalize places n d = p at hp ⊢
  refine Nat.le_of_lt_succ (Nat.div_lt_of_lt_mul ?_)
  by_contra hge
  -- Rounding up to the next whole part would take more than half a step.
  have hb := add_le_mul_div_add_one (n := n) hd hk p
  have hr := two_mul_roundHalfEven_le (n := n * 2 ^ p) (d := d)
  have hm := Nat.mul_le_mul_left d (Nat.not_lt.mp hge)
  rw [Nat.succ_eq_add_one] at hm
  omega

theorem places_eq (hd : d ≠ 0) (hj : d * 2 ^ j ≤ n) (h : n < d * 2 ^ (j + 1)) :
    places n d = 52 - j := by
  have hlt := floorLog2_lt (ne_zero_of_mul_two_pow_le hd hj) h
  have hle := le_floorLog2 hd hj
  unfold places leastExponent
  omega

theorem floorDiv_ofRatio_le_div {m : Nat} (h : n ≤ d * m) (hlt : n < d * 2 ^ 53) :
    (ofRatio false n d).floorDiv k ≤ ((m / k : Nat) : Int) := by
  by_cases hn : n = 0
  · rw [hn, floorDiv_zero]
    exact Int.natCast_nonneg _
  rw [floorDiv_ofRatio hn hlt, Int.ofNat_le]
  generalize places n d = p
  have hr : roundHalfEven (n * 2 ^ p) d ≤ m * 2 ^ p := by
    refine roundHalfEven_le_of_le_mul ?_
    rw [← Nat.mul_assoc]
    exact Nat.mul_le_mul_right _ h
  calc roundHalfEven (n * 2 ^ p) d / (k * 2 ^ p)
    _ ≤ m * 2 ^ p / (k * 2 ^ p) := Nat.div_le_div_right hr
    _ = m / k := Nat.mul_div_mul_right _ _ (Nat.two_pow_pos p)

theorem floorDiv_ofRatio_mono {n' : Nat} (hd : d ≠ 0) (hk : 1 < k) (h : n ≤ n')
    (h' : n' < d * 2 ^ 53) :
    (ofRatio false n d).floorDiv k ≤ (ofRatio false n' d).floorDiv k := by
  have hlt : n < d * 2 ^ 53 := Nat.lt_of_le_of_lt h h'
  by_cases h1 : n' < d
  · -- Neither quotient reaches one, and one divided by `k` has no whole part.
    calc (ofRatio false n d).floorDiv k
      _ ≤ ((1 / k : Nat) : Int) := floorDiv_ofRatio_le_div (by omega) hlt
      _ = 0 := by rw [Nat.div_eq_of_lt hk, Nat.cast_zero]
      _ ≤ (ofRatio false n' d).floorDiv k := floorDiv_nonneg
  obtain ⟨j, hj, hj'⟩ := exists_mul_two_pow_le hd (Nat.not_lt.mp h1)
  obtain hle | hge := Nat.le_total n (d * 2 ^ j)
  · -- A power of two lies between the quotients.
    have hq : 2 ^ j ≤ n' / d := by
      rwa [Nat.le_div_iff_mul_le (Nat.pos_of_ne_zero hd), Nat.mul_comm]
    calc (ofRatio false n d).floorDiv k
      _ ≤ ((2 ^ j / k : Nat) : Int) := floorDiv_ofRatio_le_div hle hlt
      _ ≤ ((n' / (d * k) : Nat) : Int) := by
          rw [Int.ofNat_le, ← Nat.div_div_eq_div_mul]
          exact Nat.div_le_div_right hq
      _ ≤ (ofRatio false n' d).floorDiv k := le_floorDiv_ofRatio h'
  · -- The quotients lie between the same powers of two, so their steps are the same.
    rw [floorDiv_ofRatio (ne_zero_of_mul_two_pow_le hd hge) hlt,
      floorDiv_ofRatio (ne_zero_of_mul_two_pow_le hd hj) h',
      places_eq hd hge (Nat.lt_of_le_of_lt h hj'), places_eq hd hj hj', Int.ofNat_le]
    exact Nat.div_le_div_right (roundHalfEven_mono (Nat.mul_le_mul_right _ h))

end Double

end Lending
