import Lending.Overdue
import Lending.Proofs.Calendar.Span
import Lending.Proofs.Reply

/-! # Charges for late loans

A late loan is charged for all of its minutes or for none: the open minutes or the minutes that have
passed, and nothing where the grace period reaches as far. Only a span of more than five centuries
can be charged for a minute that is not yet over.
-/

namespace Lending.Loan

variable {calendar : Calendar} {l : Loan} {now due : Instant} {p : OverdueFinePolicy} {m : Int}

section Late

variable [ZoneData]

/-- The loan is past its due date, and its fine policy says whether closed time counts. -/
structure Late (l : Loan) (now due : Instant) (p : OverdueFinePolicy) : Prop where
  dueDate_eq : l.dueDate = some due
  passed : due.before now = true
  finePolicy_eq : l.finePolicy = some p
  tells : p.countClosed ≠ .null

theorem Late.countClosed_eq (h : l.Late now due p) : l.countClosed = p.countClosed := by
  rw [countClosed, h.finePolicy_eq]

theorem overdueSince?_eq_some_iff :
    l.overdueSince? now = some due ↔ ∃ p, l.Late now due p := by
  constructor
  · intro h
    obtain ⟨hd, hb⟩ := Option.filter_eq_some_iff.mp h
    obtain ⟨hb, hc⟩ : due.before now = true ∧ l.countClosed ≠ .null := by simpa using hb
    cases hp : l.finePolicy with
    | none => simp [countClosed, hp] at hc
    | some p => exact ⟨p, hd, hb, hp, by simpa [countClosed, hp] using hc⟩
  · rintro ⟨p, h⟩
    rw [overdueSince?, h.dueDate_eq, h.countClosed_eq]
    simp [h.passed, h.tells]

theorem overdueSince?_eq_none_iff :
    l.overdueSince? now = none ↔
      l.dueDate = none ∨ (∃ due, l.dueDate = some due ∧ due.before now = false) ∨
      l.finePolicy = none ∨ ∃ p, l.finePolicy = some p ∧ p.countClosed = .null := by
  rw [overdueSince?, countClosed]
  cases l.dueDate with
  | none => simp
  | some due => cases l.finePolicy <;> simp [or_iff_not_imp_left]

theorem overdueMinutes_eq_none_iff :
    (l.overdueMinutes calendar now).answer = .ok none ↔ l.overdueSince? now = none := by
  unfold overdueMinutes
  split
  next h => simp [h]
  next due h => simp [h, bind_eq_ok_iff]

end Late

section Minutes

/-- Closed time counts, or is taken to count because no service point is known. -/
def countsClosed (l : Loan) (p : OverdueFinePolicy) : Bool :=
  p.countClosed.counts || !l.servicePoint.counts

/-- The minutes before any grace: those that have passed, or the open ones among them. -/
def rawMinutes (l : Loan) (p : OverdueFinePolicy) (days : List OpeningDay) (elapsed : Int) : Int :=
  if l.countsClosed p then elapsed else min (OpeningDay.totalMinutes days) elapsed

theorem rawMinutes_bounds (days : List OpeningDay) {elapsed : Int} (h : 0 ≤ elapsed) :
    0 ≤ l.rawMinutes p days elapsed ∧ l.rawMinutes p days elapsed ≤ elapsed := by
  unfold rawMinutes
  split <;> omega

variable [ZoneData]

theorem Late.answer_lateMinutes (h : l.Late now due p) (hc : l.countsClosed p = true) :
    (l.lateMinutes calendar due now).answer = .ok (due.minutesTo now) := by
  unfold lateMinutes
  rw [h.countClosed_eq]
  obtain hc | hs := (Bool.or_eq_true ..).mp hc
  · simp [hc]
  · dsimp only
    rw [if_pos hs]
    split <;> simp [Reply.log]

theorem Late.answer_lateMinutes_open (h : l.Late now due p) (hc : l.countsClosed p = false) :
    (l.lateMinutes calendar due now).answer =
      (calendar l.servicePoint due now).answer >>= fun days =>
        .ok (min (OpeningDay.totalMinutes days : Int) (due.minutesTo now)) := by
  obtain ⟨hc, hs⟩ := (Bool.or_eq_false_iff ..).mp hc
  unfold lateMinutes
  rw [h.countClosed_eq]
  simp [hc, hs]

theorem Late.answer_lateMinutes_eq_ok (h : l.Late now due p) {days : List OpeningDay}
    (hd : l.countsClosed p = false → (calendar l.servicePoint due now).answer = .ok days) :
    (l.lateMinutes calendar due now).answer = .ok (l.rawMinutes p days (due.minutesTo now)) := by
  unfold rawMinutes
  split
  next hc => exact h.answer_lateMinutes hc
  next hc =>
    rw [Bool.not_eq_true] at hc
    rw [h.answer_lateMinutes_open hc, hd hc, ok_bind]

end Minutes

section Grace

/-- The grace period of the loan policy reaches as far as the minutes, and no recall takes it away.
-/
def Waived (l : Loan) (p : OverdueFinePolicy) (minutes : Int) : Prop :=
  ∃ policy period unit, l.loanPolicy = some policy ∧ policy.gracePeriod = some period ∧
    period.unit = some unit ∧ 0 < period.quantity * unit.inMinutes ∧
    ¬ (l.recalled = true ∧ p.ignoreGraceForRecalls = .bool true) ∧
    minutes ≤ (period.quantity * unit.inMinutes : Nat)

theorem waived_iff (h : l.finePolicy = some p) :
    l.Waived p m ↔ 0 < l.graceMinutes ∧ m ≤ l.graceMinutes := by
  have hg : l.Waived p m ↔ ¬ (l.recalled = true ∧ p.ignoreGraceForRecalls = .bool true) ∧
      ∃ policy, l.loanPolicy = some policy ∧ 0 < policy.graceMinutes ∧
        m ≤ policy.graceMinutes := by
    constructor
    · rintro ⟨policy, period, unit, hp, hg, hu, h0, hr, hm⟩
      have he : policy.graceMinutes = period.quantity * unit.inMinutes := by
        simp [LoanPolicy.graceMinutes, hg, Period.toMinutes, hu]
      exact ⟨hr, policy, hp, he ▸ h0, he ▸ hm⟩
    · rintro ⟨hr, policy, hp, h0, hm⟩
      unfold LoanPolicy.graceMinutes Period.toMinutes at h0 hm
      split at h0
      next period hg =>
        split at h0
        next unit hu =>
          simp only [hg, hu] at hm
          exact ⟨policy, period, unit, hp, hg, hu, h0, hr, hm⟩
        next => simp at h0
      next => simp at h0
  rw [hg, graceMinutes, h]
  by_cases hr : l.recalled = true ∧ p.ignoreGraceForRecalls = .bool true
  · simp [hr]
  · cases l.loanPolicy <;> simp [hr]

theorem afterGrace_cases (h : l.finePolicy = some p) :
    (l.afterGrace m = 0 ∨ l.afterGrace m = m) ∧
      (l.afterGrace m = 0 ↔ m = 0 ∨ l.Waived p m) := by
  rw [waived_iff h, afterGrace]
  split
  next hg => simp [hg]
  next hg => simp [hg]

end Grace

section Charges

variable [ZoneData]

theorem Late.answer_overdueMinutes (h : l.Late now due p) :
    (l.overdueMinutes calendar now).answer =
      (l.lateMinutes calendar due now).answer >>= fun minutes =>
        .ok (some (l.afterGrace minutes)) := by
  rw [overdueMinutes, overdueSince?_eq_some_iff.mpr ⟨p, h⟩]
  exact Reply.answer_bind ..

/-- A loan is not charged where it has no due date or is not past it, and where no fine policy tells
whether closed time counts. Any other loan is charged for all of its minutes or for none, and for
none only where there are none or the grace period waives them. Its minutes are the whole minutes of
the span since the due date, or the open ones among them, for as long as a double tells the
microseconds of the span apart; a longer span may be given one minute more. -/
theorem charged_in_full_or_waived (calendar : Calendar) (l : Loan) (now : Instant) :
    ((l.overdueMinutes calendar now).answer = .ok none ↔
      l.dueDate = none ∨ (∃ due, l.dueDate = some due ∧ due.before now = false) ∨
      l.finePolicy = none ∨ ∃ p, l.finePolicy = some p ∧ p.countClosed = .null) ∧
    ∀ due p, l.Late now due p →
      (∀ r, due.zone = .region r → now.zone = .region r →
        due.microsTo now = (now.wall.total : Int) - due.wall.total) ∧
      ((∀ r, due.zone = .region r → now.zone ≠ .region r) →
        due.microsTo now = now.universal - due.universal) ∧
      0 < due.microsTo now ∧
      (due.microsTo now < Instant.exactSeconds * WallTime.microsPerSecond →
        due.minutesTo now = due.microsTo now / Instant.microsPerMinute) ∧
      (due.microsTo now < (2 ^ 53 : Nat) * WallTime.microsPerSecond →
        due.microsTo now / Instant.microsPerMinute ≤ due.minutesTo now ∧
        due.minutesTo now ≤ due.microsTo now / Instant.microsPerMinute + 1) ∧
      (∀ e, l.countsClosed p = false → (calendar l.servicePoint due now).answer = .error e →
        (l.overdueMinutes calendar now).answer = .error e) ∧
      ∀ days, (l.countsClosed p = false →
          (calendar l.servicePoint due now).answer = .ok days) →
        let raw := l.rawMinutes p days (due.minutesTo now)
        0 ≤ raw ∧ raw ≤ due.minutesTo now ∧
        ∃ m, (l.overdueMinutes calendar now).answer = .ok (some m) ∧ (m = 0 ∨ m = raw) ∧
          (m = 0 ↔ raw = 0 ∨ l.Waived p raw) := by
  refine ⟨overdueMinutes_eq_none_iff.trans overdueSince?_eq_none_iff, fun due p h => ?_⟩
  have hpos : 0 < due.microsTo now := Instant.before_iff.mp h.passed
  refine ⟨fun r => Instant.microsTo_of_region, Instant.microsTo_of_no_region, hpos,
    Instant.minutesTo_eq_floor hpos.le, Instant.floor_le_minutesTo hpos.le, fun e hc he => ?_,
    fun days hd => ?_⟩
  · rw [h.answer_overdueMinutes, h.answer_lateMinutes_open hc, he]
    rfl
  · have hb := Instant.minutesTo_nonneg hpos.le
    obtain ⟨h0, hle⟩ := rawMinutes_bounds (l := l) (p := p) days hb
    obtain ⟨hm, hz⟩ := afterGrace_cases (m := l.rawMinutes p days (due.minutesTo now))
      h.finePolicy_eq
    refine ⟨h0, hle, l.afterGrace (l.rawMinutes p days (due.minutesTo now)), ?_, hm, hz⟩
    rw [h.answer_overdueMinutes, h.answer_lateMinutes_eq_ok hd, ok_bind]

end Charges

section Centuries

def centuriesLate : Loan where
  id := .str "codex"
  loanDate := none
  dueDate := some {
    wall := { date := { year := 1400, month := 1, day := 1 }, micros := 0 }
    zone := .utc }
  recalled := false
  servicePoint := .null
  finePolicy := some { (default : OverdueFinePolicy) with countClosed := .bool true }

def lastMicrosecond : Instant where
  wall := { date := { year := 2026, month := 1, day := 1 }, micros := WallTime.microsPerMinute - 1 }
  zone := .utc

attribute [local instance] ZoneData.of2026

theorem charged_for_a_minute_not_over : ∃ due p,
    centuriesLate.Late lastMicrosecond due p ∧ centuriesLate.countsClosed p = true ∧
    due.microsTo lastMicrosecond / Instant.microsPerMinute = 329244480 ∧
    (centuriesLate.overdueMinutes (fun _ _ _ => pure []) lastMicrosecond).answer =
      .ok (some 329244481) := by
  refine ⟨_, _, ⟨rfl, ?_, rfl, ?_⟩, rfl, ?_, ?_⟩
  all_goals decide +kernel

end Centuries

end Lending.Loan
