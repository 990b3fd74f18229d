import Lending.Proofs.FineAmount

/-! # Fines and their maximum

A fine is lowered to its maximum before it is rounded to cents. It is never above the maximum in
cents, so it stays within a maximum of whole cents, and within every other one that is rounded down.
A maximum that is rounded up may be exceeded, by half a cent at most.
-/

namespace Lending.Loan

section Charges

variable {rate : FineRate} {x maximum f : Decimal} {k interval : Nat}

theorem startedIntervals_le (hi : interval ≠ 0) (hk : k ≠ 0) : startedIntervals k interval ≤ k := by
  obtain ⟨i, rfl⟩ := Nat.exists_eq_succ_of_ne_zero hi
  obtain ⟨n, rfl⟩ := Nat.exists_eq_succ_of_ne_zero hk
  refine Nat.div_le_of_le_mul ?_
  calc n.succ + i.succ - 1 = n + i + 1 := by omega
    _ ≤ i.succ * n.succ := by
      rw [Nat.succ_mul, Nat.mul_succ]
      omega

theorem lowered_le {v limit : ℚ} (h : 0 < limit) : lowered v limit ≤ limit := by
  rw [lowered_of_pos h]
  exact min_le_right v limit

theorem fineAtRate_le (ha : rate.amount.isFinite = true) (h0 : 0 ≤ rate.amount.value)
    (hm : maximum.isFinite = true) (hpos : 0 < maximum.value)
    (h : fineAtRate rate maximum k = .ok f) :
    f.isFinite = true ∧ 0 ≤ f.value ∧ f.value ≤ Decimal.nearestCent maximum.value := by
  unfold fineAtRate at h
  dsimp only at h
  split at h
  · obtain rfl := Except.ok.inj h
    rw [Decimal.value_zeroCents]
    exact ⟨rfl, le_rfl, Decimal.nearestCent_nonneg hpos.le⟩
  · obtain ⟨a, hta, h⟩ := bind_eq_ok_iff.mp h
    obtain ⟨r, hr, h⟩ := bind_eq_ok_iff.mp h
    have hx := Decimal.Ascending.of_times ha h0 le_rfl hta hta
    obtain ⟨r', hr', hfr, hvr⟩ := capped_eq_ok hx.left_isFinite hm
    obtain rfl : r' = r := Except.ok.inj (hr'.symm.trans hr)
    have hr0 : 0 ≤ r'.value := hvr ▸ lowered_nonneg hx.nonneg _
    obtain ⟨hff, n, hn, hvf⟩ := Decimal.toCents_eq_ok hfr hr0 h
    refine ⟨hff, hvf ▸ Decimal.magnitude_nonneg .., ?_⟩
    rw [hvf]
    exact hn.le_nearestCent hpos.le (hvr ▸ lowered_le hpos)

theorem exists_fineAtRate (ha : rate.amount.isFinite = true) (h0 : 0 ≤ rate.amount.value)
    (hm : maximum.isFinite = true) (hpos : 0 < maximum.value) (hk : k ≠ 0)
    (hlead : rate.amount.value * k < 10 ^ Decimal.greatestLead)
    (hfit : Decimal.wholeCents maximum.value < 10 ^ Decimal.precision) :
    ∃ f, fineAtRate rate maximum k = .ok f := by
  unfold fineAtRate
  dsimp only
  split
  · exact ⟨_, rfl⟩
  next hi =>
    have hc : (startedIntervals k rate.interval.toMinutes : ℚ) ≤ k := by
      exact_mod_cast startedIntervals_le hi hk
    obtain ⟨a, hta⟩ :
        ∃ a, rate.amount.times (startedIntervals k rate.interval.toMinutes) = .ok a := by
      refine Decimal.exists_times_of_lt ha ?_
      rw [abs_of_nonneg (mul_nonneg h0 (Nat.cast_nonneg _))]
      exact (mul_le_mul_of_nonneg_left hc h0).trans_lt hlead
    have hx := Decimal.Ascending.of_times ha h0 le_rfl hta hta
    obtain ⟨r, hr, hfr, hvr⟩ := capped_eq_ok hx.left_isFinite hm
    have hcents : Decimal.wholeCents r.value ≤ Decimal.wholeCents maximum.value := by
      rw [hvr]
      exact Decimal.wholeCents_mono (lowered_nonneg hx.nonneg _) (lowered_le hpos)
    obtain ⟨negative, n, hn, -⟩ := Decimal.toCents_of_lt hfr (hcents.trans_lt hfit)
    exact ⟨.finite negative n (-2), by rw [hta, ok_bind, hr, ok_bind, hn]⟩

end Charges

section Fines

variable {l : Loan} {p : OverdueFinePolicy} {rate? : Option FineRate} {maximum : Decimal} {m : Int}

theorem fine_cases (hp : l.finePolicy = some p) (ht : p.terms l.recalled = (rate?, maximum)) :
    l.fine m = .ok .zeroCents ∨ ∃ rate, rate? = some rate ∧ 0 < m ∧
      l.fine m = Result.ofAmount (fineAtRate rate maximum m.toNat) := by
  by_cases hm : 0 < m
  · cases rate? with
    | none => exact .inl (fine_of_interval_zero hp (by simp [ht]))
    | some rate => exact .inr ⟨rate, rfl, hm, fine_of_rate hp ht hm⟩
  · exact .inl (fine_of_nonpos (Int.not_lt.mp hm))

/-- A fine at a rate that is not below zero is an amount of cents, and not above its maximum in
cents. So it stays within a maximum that loses less than half a cent, a maximum of whole cents among
others, and is never more than half a cent above any other. There is a fine unless its numbers have
too many digits. -/
theorem fine_within_rounded_maximum (l : Loan) (p : OverdueFinePolicy) (m : Int)
    (rate? : Option FineRate) (maximum : Decimal) (hp : l.finePolicy = some p)
    (ht : (rate?, maximum) =
      if l.recalled then (p.recallRate, p.recallMaximum) else (p.rate, p.maximum))
    (ha : ∀ rate, rate? = some rate → rate.amount.isFinite = true ∧ 0 ≤ rate.amount.value)
    (hm : maximum.isFinite = true) (hpos : 0 < maximum.value) :
    (∀ f, l.fine m = .ok f →
      f.isFinite = true ∧ 0 ≤ f.value ∧ f.value ≤ Decimal.nearestCent maximum.value ∧
      (Int.fract (100 * maximum.value) < 1 / 2 → f.value ≤ maximum.value) ∧
      f.value ≤ maximum.value + 1 / 200) ∧
    ((∀ rate, rate? = some rate → rate.amount.value * m < 10 ^ Decimal.greatestLead) →
      Decimal.wholeCents maximum.value < 10 ^ Decimal.precision → ∃ f, l.fine m = .ok f) := by
  have hterms : p.terms l.recalled = (rate?, maximum) := ht.symm
  obtain hz | ⟨rate, hr, hm0, hf⟩ := fine_cases (m := m) hp hterms
  · refine ⟨fun f h => ?_, fun _ _ => ⟨_, hz⟩⟩
    obtain rfl := Except.ok.inj (hz.symm.trans h)
    rw [Decimal.value_zeroCents]
    exact ⟨rfl, le_rfl, Decimal.nearestCent_nonneg hpos.le, fun _ => hpos.le, by linarith⟩
  obtain ⟨hra, hr0⟩ := ha rate hr
  constructor
  · intro f h
    rw [hf] at h
    obtain ⟨hff, h0, hle⟩ := fineAtRate_le hra hr0 hm hpos (mapError_eq_ok_iff.mp h)
    refine ⟨hff, h0, hle, fun hfr => ?_, ?_⟩
    · exact hle.trans (Decimal.nearestCent_le_self hpos.le hfr)
    · exact hle.trans (Decimal.nearestCent_le_add hpos.le)
  · intro hlead hfit
    have hmn : ((m.toNat : Int) : ℚ) = m := by rw [Int.toNat_of_nonneg hm0.le]
    have hlead' : rate.amount.value * m.toNat < 10 ^ Decimal.greatestLead := by
      have h := hlead rate hr
      rwa [← hmn, Int.cast_natCast] at h
    obtain ⟨f, h⟩ := exists_fineAtRate hra hr0 hm hpos (by omega) hlead' hfit
    exact ⟨f, hf.trans (mapError_eq_ok_iff.mpr h)⟩

def hourlyUpTo (maximum : Decimal) : Loan :=
  { quarterAnHour with
    finePolicy := some { (default : OverdueFinePolicy) with
      rate := some { amount := .ofNat 1, interval := { quantity := 1, unit := some .hours } }
      maximum } }

theorem fine_within_rounded_maximum_of_thousandths :
    let l := hourlyUpTo (.finite false 1254 (-3))
    (∃ f, l.fine 61 = .ok f) ∧ ∀ f, l.fine 61 = .ok f → f.value ≤ 1254 / 1000 := by
  intro l
  have hone : (Decimal.ofNat 1).value = 1 := by
    norm_num [Decimal.ofNat, Decimal.value, Decimal.magnitude]
  have hv : (Decimal.finite false 1254 (-3)).value = 1254 / 1000 := by
    norm_num [Decimal.value, Decimal.magnitude]
  have hfract : Int.fract (100 * (1254 / 1000) : ℚ) = 4 / 10 := by
    rw [Int.fract_eq_iff]
    exact ⟨by norm_num, by norm_num, 125, by norm_num⟩
  have hcents : Decimal.wholeCents (1254 / 1000) = 125 := by
    rw [Decimal.wholeCents, round_eq, Int.floor_eq_iff]
    norm_num [abs_of_pos]
  have hlead : (61 : ℚ) < 10 ^ Decimal.greatestLead :=
    calc (61 : ℚ) < 10 ^ (2 : Int) := by norm_num
      _ ≤ 10 ^ Decimal.greatestLead := zpow_le_zpow_right₀ (by norm_num) (by decide)
  have hrate : ∀ rate, l.finePolicy.bind (·.rate) = some rate → rate.amount = .ofNat 1 := by
    rintro rate ⟨⟩
    rfl
  obtain ⟨hle, hex⟩ := fine_within_rounded_maximum l _ 61 _ (.finite false 1254 (-3)) rfl rfl
    (fun rate hr => by rw [hrate rate hr, hone]; exact ⟨rfl, zero_le_one⟩) rfl
    (by norm_num [hv])
  rw [hv] at hle hex
  refine ⟨hex (fun rate hr => ?_) (by rw [hcents]; decide), fun f hf => ?_⟩
  · simpa [hrate rate hr, hone] using hlead
  · exact (hle f hf).2.2.2.1 (by norm_num [hfract])

def eighthAtMost : Json := .obj [("id", .str "f"),
  ("overdueFine", .obj [("quantity", .int 1), ("intervalId", .str "hour")]),
  ("maxOverdueFine", .real (.ofDecimal false 125 (-3)))]

/-- An eighth is twelve cents and a half. The first hour costs thirteen. -/
theorem fine_above_maximum : ∃ p, OverdueFinePolicy.ofJson eighthAtMost = .ok p ∧
    p.maximum = .finite false 125 (-3) ∧
    { quarterAnHour with finePolicy := some p }.fine 1 = .ok (.finite false 13 (-2)) ∧
    p.maximum.value < (Decimal.finite false 13 (-2)).value := by
  refine ⟨_, rfl, ?_, ?_, ?_⟩
  · decide +kernel
  · decide +kernel
  · change (Decimal.finite false 125 (-3)).value < _
    norm_num [Decimal.value, Decimal.magnitude]

end Fines

end Lending.Loan
