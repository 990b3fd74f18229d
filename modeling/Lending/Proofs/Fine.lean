import Lending.Proofs.Calendar.FixedOffset
import Lending.Proofs.Number.Decimal
import Lending.Proofs.Overdue

/-! # Fines over time

Being later never costs less. The minutes that have passed, the intervals started in them, the
amount for so many intervals, the maximum and the cents each keep the order of what they are given.
-/

namespace Lending.Loan

variable {l : Loan} {p : OverdueFinePolicy} {m m' : Int} {f f' : Decimal}

section Rates

variable {rate : FineRate} {maximum x y : Decimal} {k n : Nat}

theorem startedIntervals_mono (h : k ≤ n) (interval : Nat) :
    startedIntervals k interval ≤ startedIntervals n interval :=
  Nat.div_le_div_right (by omega)

def lowered (v limit : ℚ) : ℚ := if 0 < limit ∧ limit < v then limit else v

theorem lowered_of_pos {v limit : ℚ} (h : 0 < limit) : lowered v limit = min v limit := by
  unfold lowered
  by_cases hv : limit < v
  · rw [if_pos ⟨h, hv⟩, min_eq_right hv.le]
  · rw [if_neg fun h => hv h.2, min_eq_left (not_lt.mp hv)]

theorem lowered_of_nonpos {v limit : ℚ} (h : ¬ 0 < limit) : lowered v limit = v :=
  if_neg fun h' => h h'.1

theorem lowered_nonneg {v : ℚ} (h : 0 ≤ v) (limit : ℚ) : 0 ≤ lowered v limit := by
  by_cases h0 : 0 < limit
  · rw [lowered_of_pos h0]
    exact le_min h h0.le
  · rwa [lowered_of_nonpos h0]

theorem lowered_mono {v w : ℚ} (h : v ≤ w) (limit : ℚ) : lowered v limit ≤ lowered w limit := by
  by_cases h0 : 0 < limit
  · rw [lowered_of_pos h0, lowered_of_pos h0]
    exact min_le_min_right limit h
  · rwa [lowered_of_nonpos h0, lowered_of_nonpos h0]

theorem capped_eq_ok (hx : x.isFinite = true) (hm : maximum.isFinite = true) :
    ∃ r, capped x maximum = .ok r ∧ r.isFinite = true ∧
      r.value = lowered x.value maximum.value := by
  unfold capped
  rw [Decimal.less_eq rfl hm, ok_bind, Decimal.value_zero]
  by_cases h0 : 0 < maximum.value
  · rw [if_pos (decide_eq_true h0), lowered_of_pos h0]
    exact Decimal.lower?_eq_ok hx hm
  · rw [if_neg (by simpa using h0), lowered_of_nonpos h0]
    exact ⟨x, rfl, hx, rfl⟩

theorem capped_ascending (h : x.Ascending y) (hm : maximum.isFinite = true)
    (hf : capped x maximum = .ok f) (hf' : capped y maximum = .ok f') : f.Ascending f' := by
  obtain ⟨r, hr, hfr, hvr⟩ := capped_eq_ok h.left_isFinite hm
  obtain ⟨s, hs, hfs, hvs⟩ := capped_eq_ok h.right_isFinite hm
  obtain rfl : r = f := Except.ok.inj (hr.symm.trans hf)
  obtain rfl : s = f' := Except.ok.inj (hs.symm.trans hf')
  refine ⟨hfr, hfs, hvr ▸ lowered_nonneg h.nonneg _, ?_⟩
  rw [hvr, hvs]
  exact lowered_mono h.le _

theorem fineAtRate_ascending (ha : rate.amount.isFinite = true) (h0 : 0 ≤ rate.amount.value)
    (hm : maximum.isFinite = true) (h : k ≤ n) (hf : fineAtRate rate maximum k = .ok f)
    (hf' : fineAtRate rate maximum n = .ok f') : f.Ascending f' := by
  unfold fineAtRate at hf hf'
  dsimp only at hf hf'
  split at hf
  next hi =>
    rw [if_pos hi] at hf'
    obtain rfl := Except.ok.inj hf
    obtain rfl := Except.ok.inj hf'
    exact Decimal.ascending_zeroCents
  next hi =>
    rw [if_neg hi] at hf'
    obtain ⟨x, hx, hf⟩ := bind_eq_ok_iff.mp hf
    obtain ⟨a, ha', hf⟩ := bind_eq_ok_iff.mp hf
    obtain ⟨y, hy, hf'⟩ := bind_eq_ok_iff.mp hf'
    obtain ⟨b, hb, hf'⟩ := bind_eq_ok_iff.mp hf'
    have hxy := Decimal.Ascending.of_times ha h0 (startedIntervals_mono h _) hx hy
    exact (capped_ascending hxy hm ha' hb).of_toCents hf hf'

end Rates

section Fines

/-- The rate that applies to the loan, if there is one, is a finite amount not below zero, and the
maximum that applies is finite. -/
structure HasFiniteTerms (l : Loan) (p : OverdueFinePolicy) : Prop where
  amount_isFinite : ∀ rate, (p.terms l.recalled).1 = some rate → rate.amount.isFinite = true
  amount_nonneg : ∀ rate, (p.terms l.recalled).1 = some rate →
    Decimal.less rate.amount .zero = .ok false
  maximum_isFinite : (p.terms l.recalled).2.isFinite = true

theorem fine_of_nonpos (h : m ≤ 0) : l.fine m = .ok .zeroCents := by
  unfold fine
  split
  · rfl
  · rw [if_pos h]

theorem fine_of_pos (hp : l.finePolicy = some p) (h : 0 < m) :
    l.fine m = match (p.terms l.recalled).1 with
      | none => .ok .zeroCents
      | some rate => Result.ofAmount (fineAtRate rate (p.terms l.recalled).2 m.toNat) := by
  unfold fine
  rw [hp]
  dsimp only
  rw [if_neg (Int.not_le.mpr h)]
  rcases p.terms l.recalled with ⟨_ | rate, maximum⟩ <;> rfl

theorem fine_ascending_of_pos (hp : l.finePolicy = some p) (ht : l.HasFiniteTerms p) (h0 : 0 < m)
    (h : m ≤ m') (hf : l.fine m = .ok f) (hf' : l.fine m' = .ok f') : f.Ascending f' := by
  rw [fine_of_pos hp h0] at hf
  rw [fine_of_pos hp (Int.lt_of_lt_of_le h0 h)] at hf'
  split at hf
  next hr =>
    simp only [hr] at hf'
    obtain rfl := Except.ok.inj hf
    obtain rfl := Except.ok.inj hf'
    exact Decimal.ascending_zeroCents
  next rate hr =>
    simp only [hr] at hf'
    have ha := ht.amount_isFinite rate hr
    exact fineAtRate_ascending ha ((Decimal.nonneg_iff ha).mp (ht.amount_nonneg rate hr))
      ht.maximum_isFinite (Int.toNat_le_toNat h) (mapError_eq_ok_iff.mp hf)
      (mapError_eq_ok_iff.mp hf')

theorem fine_ascending (hp : l.finePolicy = some p) (ht : l.HasFiniteTerms p) (h : m ≤ m')
    (hf : l.fine m = .ok f) (hf' : l.fine m' = .ok f') : f.Ascending f' := by
  by_cases h0 : 0 < m
  · exact fine_ascending_of_pos hp ht h0 h hf hf'
  rw [fine_of_nonpos (Int.not_lt.mp h0)] at hf
  obtain rfl := Except.ok.inj hf
  by_cases h0' : 0 < m'
  · have hs := fine_ascending_of_pos hp ht h0' le_rfl hf' hf'
    exact Decimal.ascending_zeroCents_of_nonneg hs.left_isFinite hs.nonneg
  · rw [fine_of_nonpos (Int.not_lt.mp h0')] at hf'
    obtain rfl := Except.ok.inj hf'
    exact Decimal.ascending_zeroCents

end Fines

theorem afterGrace_mono (l : Loan) (h : m ≤ m') : l.afterGrace m ≤ l.afterGrace m' := by
  unfold afterGrace
  split <;> split <;> omega

section Lateness

variable [ZoneData] {calendar : Calendar} {due now later : Instant}

theorem exists_late (hm : (l.overdueMinutes calendar now).answer = .ok (some m)) :
    ∃ due p, l.Late now due p := by
  cases hs : l.overdueSince? now with
  | none =>
    rw [overdueMinutes_eq_none_iff.mpr hs] at hm
    cases hm
  | some due => exact ⟨due, overdueSince?_eq_some_iff.mp hs⟩

theorem Late.of_not_before (h : l.Late now due p) (hd : due.HasFixedOffset)
    (hl : later.HasFixedOffset) (hb : later.before now = false) : l.Late later due p :=
  { h with passed := (hd.minutesTo_mono hl h.passed hb).1 }

theorem Late.answer_overdueMinutes_of_countsClosed (h : l.Late now due p)
    (hc : l.countsClosed p = true) :
    (l.overdueMinutes calendar now).answer = .ok (some (l.afterGrace (due.minutesTo now))) := by
  rw [h.answer_overdueMinutes, h.answer_lateMinutes hc, ok_bind]

/-- A loan that every minute counts for, at a rate that is not negative, costs no less at a later
instant: if it is overdue now it is overdue then, for no fewer minutes, and the fine for those is
not below the fine for these. Only the due date and the later instant have to keep their offsets. -/
theorem later_never_costs_less (calendar : Calendar) (l : Loan) (p : OverdueFinePolicy)
    (due now later : Instant) (hd : l.dueDate = some due) (hp : l.finePolicy = some p)
    (hc : l.countsClosed p = true) (ht : l.HasFiniteTerms p) (hdf : due.HasFixedOffset)
    (hlf : later.HasFixedOffset) (h : later.before now = false) (m : Int)
    (hm : (l.overdueMinutes calendar now).answer = .ok (some m)) :
    ∃ m', (l.overdueMinutes calendar later).answer = .ok (some m') ∧ m ≤ m' ∧
      ∀ f f', l.fine m = .ok f → l.fine m' = .ok f' →
        f.value ≤ f'.value ∧ Decimal.less f' f = .ok false := by
  obtain ⟨due', p', hl⟩ := exists_late hm
  obtain rfl : due' = due := Option.some.inj (hl.dueDate_eq.symm.trans hd)
  obtain rfl : p' = p := Option.some.inj (hl.finePolicy_eq.symm.trans hp)
  have hl' := hl.of_not_before hdf hlf h
  rw [hl.answer_overdueMinutes_of_countsClosed hc] at hm
  obtain rfl : l.afterGrace (due'.minutesTo now) = m := by simpa using hm
  have hle := l.afterGrace_mono (hdf.minutesTo_mono hlf hl.passed h).2
  refine ⟨_, hl'.answer_overdueMinutes_of_countsClosed hc, hle, fun f f' hf hf' => ?_⟩
  have hasc := fine_ascending hp ht hle hf hf'
  exact ⟨hasc.le, hasc.less_eq⟩

end Lateness

section Quarters

def quarterAnHour : Loan where
  id := .str "atlas"
  loanDate := none
  dueDate := some {
    wall := { date := { year := 2026, month := 3, day := 9 }, micros := 0 }
    zone := .fixed 330 }
  recalled := false
  servicePoint := .null
  loanPolicy := some { (default : LoanPolicy) with
    gracePeriod := some { quantity := 5, unit := some .minutes } }
  finePolicy := some { (default : OverdueFinePolicy) with
    rate := some {
      amount := .finite false 25 (-2)
      interval := { quantity := 1, unit := some .hours } }
    maximum := .ofNat 1
    countClosed := .bool true }

def marchEighth (hour minute : Nat) : Instant where
  wall := {
    date := { year := 2026, month := 3, day := 8 }
    micros := WallTime.clock hour minute 0 0 }
  zone := .utc

attribute [local instance] ZoneData.of2026

theorem later_never_costs_less_of_quarterAnHour :
    (quarterAnHour.overdueMinutes (fun _ _ _ => pure []) (marchEighth 19 45)).answer =
      .ok (some 75) ∧
    ∃ m', (quarterAnHour.overdueMinutes (fun _ _ _ => pure []) (marchEighth 23 50)).answer =
        .ok (some m') ∧ 75 ≤ m' ∧
      ∀ f f', quarterAnHour.fine 75 = .ok f → quarterAnHour.fine m' = .ok f' →
        f.value ≤ f'.value ∧ Decimal.less f' f = .ok false := by
  have hm : (quarterAnHour.overdueMinutes (fun _ _ _ => pure []) (marchEighth 19 45)).answer =
      .ok (some 75) := by decide +kernel
  have ht : quarterAnHour.HasFiniteTerms (quarterAnHour.finePolicy.get rfl) := by
    refine ⟨?_, ?_, rfl⟩ <;>
    · rintro rate ⟨⟩
      decide +kernel
  refine ⟨hm, later_never_costs_less _ _ _ _ _ (marchEighth 23 50) rfl rfl rfl ht ?_ ?_ ?_ 75 hm⟩
  · exact ⟨by decide +kernel, by decide, fun _ _ => rfl, by decide⟩
  · exact ⟨by decide +kernel, by decide, fun _ _ => rfl, by decide⟩
  · decide +kernel

end Quarters

end Lending.Loan
