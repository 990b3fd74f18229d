import Lending.Proofs.Fine
import Lending.Proofs.Number.Exact

/-! # The amount of a fine

The fine for some minutes is what exact arithmetic gives: the amount of the rate for every interval
that has started, lowered to the maximum, in whole cents. The precision of the arithmetic does not
show as long as it holds the product, and the maximum is taken before the cents.
-/

namespace Lending.Loan

section Charges

variable {rate : FineRate} {x maximum f : Decimal} {k c interval : Nat}

theorem le_startedIntervals_mul (h : interval ≠ 0) :
    k ≤ startedIntervals k interval * interval := by
  have hd := Nat.div_add_mod (k + interval - 1) interval
  have hm := Nat.mod_lt (k + interval - 1) (Nat.pos_of_ne_zero h)
  rw [startedIntervals, Nat.mul_comm]
  omega

theorem startedIntervals_mul_lt (h : interval ≠ 0) :
    startedIntervals k interval * interval < k + interval := by
  have hd := Nat.div_mul_le_self (k + interval - 1) interval
  rw [startedIntervals]
  omega

theorem fineAtRate_eq_ok (hc : startedIntervals k rate.interval.toMinutes = c)
    (hi : rate.interval.toMinutes ≠ 0) (ha : rate.amount.isFinite = true)
    (hm : maximum.isFinite = true) (hheld : Decimal.Held (rate.amount.value * c))
    (hfit : Decimal.wholeCents (lowered (rate.amount.value * c) maximum.value) <
      10 ^ Decimal.precision) :
    ∃ negative n, fineAtRate rate maximum k = .ok (.finite negative n (-2)) ∧
      (Decimal.finite negative n (-2)).value =
        Decimal.nearestCent (lowered (rate.amount.value * c) maximum.value) := by
  obtain ⟨a, hta, hfa, hva⟩ := Decimal.times_of_held ha hheld
  obtain ⟨r, hr, hfr, hvr⟩ := capped_eq_ok hfa hm
  rw [hva] at hvr
  rw [← hvr] at hfit ⊢
  obtain ⟨negative, n, hcents, hv⟩ := Decimal.toCents_of_lt hfr hfit
  refine ⟨negative, n, ?_, hv⟩
  unfold fineAtRate
  dsimp only
  rw [if_neg hi, hc, hta, ok_bind, hr, ok_bind, hcents]

theorem fineAtRate_places (h : fineAtRate rate maximum k = .ok f) (hf : f.isFinite = true) :
    ∃ negative n, f = .finite negative n (-2) := by
  unfold fineAtRate at h
  dsimp only at h
  split at h
  · exact ⟨false, 0, (Except.ok.inj h).symm⟩
  · obtain ⟨a, -, h⟩ := bind_eq_ok_iff.mp h
    obtain ⟨r, -, h⟩ := bind_eq_ok_iff.mp h
    exact Decimal.toCents_places h hf

end Charges

section Fines

variable {l : Loan} {p : OverdueFinePolicy} {rate : FineRate} {maximum f : Decimal} {m : Int}

theorem fine_of_interval_zero (hp : l.finePolicy = some p)
    (ht : ∀ rate ∈ (p.terms l.recalled).1, rate.interval.toMinutes = 0) :
    l.fine m = .ok .zeroCents := by
  by_cases hm : 0 < m
  · rw [fine_of_pos hp hm]
    split
    next => rfl
    next rate hr =>
      have h0 : fineAtRate rate (p.terms l.recalled).2 m.toNat = .ok .zeroCents :=
        if_pos (ht rate hr)
      rw [h0]
      rfl
  · exact fine_of_nonpos (Int.not_lt.mp hm)

theorem fine_of_rate (hp : l.finePolicy = some p) (ht : p.terms l.recalled = (some rate, maximum))
    (hm : 0 < m) : l.fine m = Result.ofAmount (fineAtRate rate maximum m.toNat) := by
  rw [fine_of_pos hp hm, ht]

theorem fine_places (h : l.fine m = .ok f) (hf : f.isFinite = true) :
    ∃ negative n, f = .finite negative n (-2) := by
  have hz : f = .zeroCents → ∃ negative n, f = .finite negative n (-2) := fun h => ⟨false, 0, h⟩
  cases hp : l.finePolicy with
  | none =>
    simp only [fine, hp] at h
    exact hz (Except.ok.inj h).symm
  | some p =>
    by_cases hm : 0 < m
    · rw [fine_of_pos hp hm] at h
      split at h
      next => exact hz (Except.ok.inj h).symm
      next rate hr => exact fineAtRate_places (mapError_eq_ok_iff.mp h) hf
    · rw [fine_of_nonpos (Int.not_lt.mp hm)] at h
      exact hz (Except.ok.inj h).symm

/-- Exact arithmetic gives the fine. There is none for no minutes, without a rate or for an interval
that is not recognised. Otherwise the amount of the rate is taken for every interval that has
started, lowered to a maximum above zero and rounded to cents, a half away from zero, unless the
precision does not hold the product or the cents. A fine that is a number has two places. -/
theorem fine_is_exact (l : Loan) (p : OverdueFinePolicy) (m : Int) (rate? : Option FineRate)
    (maximum : Decimal) (hp : l.finePolicy = some p)
    (ht : (rate?, maximum) =
      if l.recalled then (p.recallRate, p.recallMaximum) else (p.rate, p.maximum)) :
    (m ≤ 0 ∨ rate? = none ∨ (∃ rate, rate? = some rate ∧ rate.interval.unit = none) →
      l.fine m = .ok .zeroCents) ∧
    (∀ rate, 0 < m → rate? = some rate → rate.interval.unit ≠ none →
      rate.interval.toMinutes = 0 ∧ l.fine m = .ok .zeroCents ∨
      ∃ c : Int, (c - 1) * rate.interval.toMinutes < m ∧ m ≤ c * rate.interval.toMinutes ∧
        (rate.amount.isFinite = true → maximum.isFinite = true →
          Decimal.Held (rate.amount.value * c) →
          Decimal.wholeCents (lowered (rate.amount.value * c) maximum.value) <
            10 ^ Decimal.precision →
          ∃ negative n, l.fine m = .ok (.finite negative n (-2)) ∧
            (Decimal.finite negative n (-2)).value =
              Decimal.nearestCent (lowered (rate.amount.value * c) maximum.value))) ∧
    ∀ f, l.fine m = .ok f → f.isFinite = true → ∃ negative n, f = .finite negative n (-2) := by
  have hterms : p.terms l.recalled = (rate?, maximum) := ht.symm
  refine ⟨?_, fun rate hm hr _ => ?_, fun f => fine_places⟩
  · rintro (hm | rfl | ⟨rate, rfl, hu⟩)
    · exact fine_of_nonpos hm
    · exact fine_of_interval_zero hp (by simp [hterms])
    · exact fine_of_interval_zero hp (by simp [hterms, Period.toMinutes, hu])
  subst hr
  by_cases hi : rate.interval.toMinutes = 0
  · exact .inl ⟨hi, fine_of_interval_zero hp (by simp [hterms, hi])⟩
  have hlo := startedIntervals_mul_lt (k := m.toNat) hi
  have hhi := le_startedIntervals_mul (k := m.toNat) hi
  refine .inr ⟨startedIntervals m.toNat rate.interval.toMinutes, ?_, ?_, ?_⟩
  · rw [sub_mul, one_mul]
    omega
  · omega
  · intro ha hmax hheld hfit
    rw [Int.cast_natCast] at hheld hfit ⊢
    obtain ⟨negative, n, hf, hv⟩ := fineAtRate_eq_ok rfl hi ha hmax hheld hfit
    refine ⟨negative, n, ?_, hv⟩
    rw [fine_of_rate hp hterms hm, hf]
    rfl

def thirdAnHour : FineRate where
  amount := .finite false 333 (-3)
  interval := { quantity := 1, unit := some .hours }

def recalledAtlas : Loan :=
  { quarterAnHour with
    recalled := true
    finePolicy := some { (default : OverdueFinePolicy) with
      recallRate := some thirdAnHour
      recallMaximum := .finite false 3335 (-3)
      countClosed := .bool true } }

theorem fine_is_exact_of_recalledAtlas :
    recalledAtlas.finePolicy = some (recalledAtlas.finePolicy.get rfl) ∧
    ∃ negative n, recalledAtlas.fine 601 = .ok (.finite negative n (-2)) ∧
      (Decimal.finite negative n (-2)).value = 334 / 100 := by
  refine ⟨rfl, ?_⟩
  have hfine := (fine_is_exact recalledAtlas _ 601 (some thirdAnHour) (.finite false 3335 (-3)) rfl
    rfl).2.1 thirdAnHour (by decide) rfl (by decide)
  have hi : thirdAnHour.interval.toMinutes = 60 := rfl
  rw [hi] at hfine
  obtain ⟨h0, -⟩ | ⟨c, hlo, hhi, hfine⟩ := hfine
  · cases h0
  obtain rfl : c = 11 := by omega
  have hv : thirdAnHour.amount.value * (11 : Int) = 3663 / 1000 := by
    norm_num [thirdAnHour, Decimal.value, Decimal.magnitude]
  have hmax : (Decimal.finite false 3335 (-3)).value = 3335 / 1000 := by
    norm_num [Decimal.value, Decimal.magnitude]
  have hlow : lowered (3663 / 1000) (3335 / 1000) = 3335 / 1000 := by
    norm_num [lowered]
  have hcents : Decimal.wholeCents (3335 / 1000) = 334 := by
    rw [Decimal.wholeCents, round_eq, Int.floor_eq_iff]
    norm_num [abs_of_pos]
  have hheld : Decimal.Held (3663 / 1000) := by
    refine ⟨⟨3663, -3, by decide, by norm_num [Decimal.magnitude, abs_of_pos]⟩, ?_⟩
    calc |(3663 / 1000 : ℚ)| < 10 ^ (1 : Int) := by norm_num [abs_of_pos]
      _ ≤ 10 ^ (Decimal.greatestLead + 1) := zpow_le_zpow_right₀ (by norm_num) (by decide)
  rw [hv, hmax, hlow, Decimal.nearestCent, hcents] at hfine
  obtain ⟨negative, n, hf, hn⟩ := hfine rfl rfl hheld (by decide)
  refine ⟨negative, n, hf, ?_⟩
  rw [hn]
  norm_num

end Fines

end Lending.Loan
