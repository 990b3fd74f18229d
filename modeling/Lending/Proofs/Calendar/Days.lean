import Lending.Proofs.Calendar.FixedOffset

/-! # Counting days

Days are numbered without gaps: by years, by the months of a year and by the days of a month. A date
some months later lies at least 28 days and at most 31 days later for each of them, also where its
month is too short for the day.
-/

namespace Lending.Date

attribute [ext] Date

section Years

variable {year n : Nat}

theorem isLeap_iff : isLeap year = true ↔ 4 ∣ year ∧ (¬ 100 ∣ year ∨ 400 ∣ year) := by
  simp [isLeap, Nat.dvd_iff_mod_eq_zero]

theorem daysBeforeYear_succ (h : 1 ≤ year) :
    daysBeforeYear (year + 1) = daysBeforeYear year + daysInYear year := by
  obtain ⟨n, rfl⟩ : ∃ n, year = n + 1 := ⟨year - 1, by omega⟩
  have hle : n / 100 ≤ n / 4 := Nat.div_le_div_left (by decide) (by decide)
  have h4 : 100 ∣ n + 1 → 4 ∣ n + 1 := Nat.dvd_trans (by decide)
  have h100 : 400 ∣ n + 1 → 100 ∣ n + 1 := Nat.dvd_trans (by decide)
  simp only [daysBeforeYear, daysInYear, isLeap_iff, Nat.add_sub_cancel, Nat.succ_div]
  generalize n / 4 = fours at hle ⊢
  generalize n / 100 = centuries at hle ⊢
  split_ifs <;> grind

theorem daysBeforeYear_yearAfter_le (n : Nat) : daysBeforeYear (yearAfter n) ≤ n := by
  unfold yearAfter daysBeforeYear
  dsimp only
  split
  · omega
  · split <;> omega

end Years

section Numbers

variable {month n : Nat}

theorem daysBeforeMonth_succ (h : 1 ≤ month) (year : Nat) :
    daysBeforeMonth year (month + 1) = daysBeforeMonth year month + daysInMonth year month := by
  rw [daysBeforeMonth]
  omega

theorem daysBeforeMonth_monthAfter (h : 1 ≤ month) (year fuel n : Nat) :
    daysBeforeMonth year (monthAfter year month fuel n).1 + (monthAfter year month fuel n).2 =
      daysBeforeMonth year month + n + 1 := by
  induction fuel generalizing month n with
  | zero => rw [monthAfter, Nat.add_assoc]
  | succ fuel ih =>
    unfold monthAfter
    split
    · rw [Nat.add_assoc]
    · rw [ih (by omega), daysBeforeMonth_succ h]
      omega

theorem number_ofNumber (h : 1 ≤ n) : (ofNumber n).number = n := by
  have hy := daysBeforeYear_yearAfter_le (n - 1)
  have hm := daysBeforeMonth_monthAfter (Nat.le_refl 1) (yearAfter (n - 1)) 11
    (n - 1 - daysBeforeYear (yearAfter (n - 1)))
  have h1 : daysBeforeMonth (yearAfter (n - 1)) 1 = 0 := rfl
  unfold number ofNumber
  dsimp only
  omega

theorem ofNumber?_eq_ok {d : Date} (h : ofNumber? n = .ok d) : n ≤ lastNumber ∧ d = ofNumber n := by
  unfold ofNumber? at h
  split at h
  next hn => exact ⟨hn, (Except.ok.inj h).symm⟩
  next => cases h

theorem exists_iff {d : Date} : d.Exists ↔ leastYear ≤ d.year ∧ d.year ≤ greatestYear ∧
    1 ≤ d.month ∧ d.month ≤ 12 ∧ 1 ≤ d.day ∧ d.day ≤ daysInMonth d.year d.month := by
  simp [Exists, make?]

theorem Exists.one_le_number {d : Date} (h : d.Exists) : 1 ≤ d.number := by
  obtain ⟨-, -, -, -, hd, -⟩ := exists_iff.mp h
  unfold number
  omega

end Numbers

section Months

variable {year n : Nat} {d : Date}

/-- The days of a month that is counted from January of a year, and those before it. -/
def daysInCounted (year m : Nat) : Nat := daysInMonth (year + m / 12) (m % 12 + 1)

def daysBeforeCounted (year m : Nat) : Nat :=
  daysBeforeYear (year + m / 12) + daysBeforeMonth (year + m / 12) (m % 12 + 1)

theorem daysInCounted_bounds (year m : Nat) :
    28 ≤ daysInCounted year m ∧ daysInCounted year m ≤ 31 := daysInMonth_bounds ..

theorem daysBeforeMonth_thirteen (year : Nat) : daysBeforeMonth year 13 = daysInYear year := by
  simp only [daysBeforeMonth, daysInMonth, daysInYear]
  split <;> rfl

theorem daysBeforeCounted_succ (h : 1 ≤ year) (m : Nat) :
    daysBeforeCounted year (m + 1) = daysBeforeCounted year m + daysInCounted year m := by
  have hs := daysBeforeMonth_succ (Nat.le_add_left 1 (m % 12)) (year + m / 12)
  unfold daysBeforeCounted daysInCounted
  by_cases hm : m % 12 = 11
  · have hq : (m + 1) / 12 = m / 12 + 1 := by omega
    have hr : (m + 1) % 12 = 0 := by omega
    have h0 : daysBeforeMonth (year + m / 12 + 1) (0 + 1) = 0 := rfl
    rw [hm, daysBeforeMonth_thirteen] at hs
    rw [hm]
    rw [hq, hr, ← Nat.add_assoc, daysBeforeYear_succ (by omega), h0]
    omega
  · have hq : (m + 1) / 12 = m / 12 := by omega
    have hr : (m + 1) % 12 = m % 12 + 1 := by omega
    rw [hq, hr, hs, Nat.add_assoc]

theorem daysBeforeCounted_add (h : 1 ≤ year) (m n : Nat) :
    daysBeforeCounted year m + 28 * n ≤ daysBeforeCounted year (m + n) ∧
      daysBeforeCounted year (m + n) ≤ daysBeforeCounted year m + 31 * n := by
  induction n with
  | zero => exact ⟨Nat.le_refl _, Nat.le_refl _⟩
  | succ n ih =>
    have hc := daysInCounted_bounds year (m + n)
    rw [← Nat.add_assoc, daysBeforeCounted_succ h]
    omega

/-- The same day some months later, or the last of that month. -/
def monthsLater (d : Date) (n : Nat) : Date where
  year := d.year + (d.month - 1 + n) / 12
  month := (d.month - 1 + n) % 12 + 1
  day := min d.day (daysInCounted d.year (d.month - 1 + n))

theorem Exists.monthsLater (h : d.Exists) (hy : (d.monthsLater n).year ≤ greatestYear) :
    (d.monthsLater n).Exists := by
  obtain ⟨hy1, -, -, -, hd, -⟩ := exists_iff.mp h
  have hl := (daysInCounted_bounds d.year (d.month - 1 + n)).1
  refine exists_iff.mpr ⟨Nat.le_trans hy1 (Nat.le_add_right ..), hy, Nat.le_add_left .., ?_, ?_, ?_⟩
  · exact Nat.mod_lt _ (by decide)
  · exact Nat.le_min.mpr ⟨hd, by omega⟩
  · exact Nat.min_le_right ..

theorem Exists.number_eq (h : d.Exists) :
    d.number = daysBeforeCounted d.year (d.month - 1) + d.day ∧
      d.day ≤ daysInCounted d.year (d.month - 1) := by
  obtain ⟨-, -, hm, hm', -, hd⟩ := exists_iff.mp h
  have hq : (d.month - 1) / 12 = 0 := by omega
  have hr : (d.month - 1) % 12 + 1 = d.month := by omega
  unfold number daysBeforeCounted daysInCounted
  rw [hq, hr, Nat.add_zero]
  exact ⟨rfl, hd⟩

theorem number_monthsLater (d : Date) (n : Nat) : (d.monthsLater n).number =
    daysBeforeCounted d.year (d.month - 1 + n) +
      min d.day (daysInCounted d.year (d.month - 1 + n)) := rfl

theorem Exists.number_monthsLater_bounds (h : d.Exists) (n : Nat) :
    d.number + 28 * n ≤ (d.monthsLater n).number ∧
      (d.monthsLater n).number ≤ d.number + 31 * n := by
  obtain ⟨hy, -⟩ := exists_iff.mp h
  obtain ⟨hn, hd⟩ := h.number_eq
  obtain ⟨hlo, hhi⟩ := daysBeforeCounted_add hy (d.month - 1) n
  rw [number_monthsLater, hn]
  refine ⟨?_, by omega⟩
  by_cases hs : d.day ≤ daysInCounted d.year (d.month - 1 + n)
  · omega
  · -- The last day of a short month is before the first of the next, which is late enough.
    have hnext := (daysBeforeCounted_add hy (d.month - 1 + 1) n).1
    have hfirst := daysBeforeCounted_succ hy (d.month - 1)
    have hlast := daysBeforeCounted_succ hy (d.month - 1 + n)
    rw [Nat.add_right_comm] at hnext
    omega

theorem daysInCounted_add (year k m : Nat) :
    daysInCounted (year + k / 12) (k % 12 + m) = daysInCounted year (k + m) := by
  have hq : year + k / 12 + (k % 12 + m) / 12 = year + (k + m) / 12 := by omega
  have hr : (k % 12 + m) % 12 = (k + m) % 12 := by omega
  rw [daysInCounted, daysInCounted, hq, hr]

/-- Months in two steps end in the month that they end in at once. The day is cut short twice. -/
theorem monthsLater_monthsLater (d : Date) (n m : Nat) :
    ((d.monthsLater n).monthsLater m).year = (d.monthsLater (n + m)).year ∧
      ((d.monthsLater n).monthsLater m).month = (d.monthsLater (n + m)).month ∧
      ((d.monthsLater n).monthsLater m).day =
        min (d.monthsLater (n + m)).day (daysInCounted d.year (d.month - 1 + n)) := by
  have hc := daysInCounted_add d.year (d.month - 1 + n) m
  have hk : d.month - 1 + n + m = d.month - 1 + (n + m) := Nat.add_assoc ..
  rw [hk] at hc
  unfold monthsLater
  simp only [Nat.add_sub_cancel, hc]
  omega

theorem monthsLater_monthsLater_of_le (h : d.day ≤ 28) (n m : Nat) :
    (d.monthsLater n).monthsLater m = d.monthsLater (n + m) := by
  have hc := (daysInCounted_bounds d.year (d.month - 1 + n)).1
  have hd : (d.monthsLater (n + m)).day ≤ d.day := Nat.min_le_left ..
  obtain ⟨hy, hm, hday⟩ := monthsLater_monthsLater d n m
  rw [Nat.min_eq_left (by omega)] at hday
  exact Date.ext hy hm hday

theorem Exists.number_monthsLater_lt {m : Nat} (h : d.Exists) (hm : 0 < m) (n : Nat) :
    (d.monthsLater n).number < (d.monthsLater (n + m)).number := by
  obtain ⟨hy, -, -, -, hd, -⟩ := exists_iff.mp h
  have hfirst := daysBeforeCounted_succ hy (d.month - 1 + n)
  have hlater := (daysBeforeCounted_add hy (d.month - 1 + n + 1) (m - 1)).1
  have hk : d.month - 1 + n + 1 + (m - 1) = d.month - 1 + (n + m) := by omega
  have hc := (daysInCounted_bounds d.year (d.month - 1 + (n + m))).1
  rw [hk] at hlater
  rw [number_monthsLater, number_monthsLater]
  omega

end Months

end Lending.Date
