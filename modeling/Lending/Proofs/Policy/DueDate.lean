import Lending.Policy.Loan
import Lending.Proofs.Calendar.Span
import Lending.Proofs.Result

/-! # Due dates of new loans

A loan policy gives a due date exactly where it lends, its profile and its period are recognised and
its schedule has room for the loan date. Whatever the profile, a schedule with bands is never
outlived.
-/

namespace Lending

variable {x due rolled : Instant} {b : Band}

section Periods

/-- The period that starts at `x` ends in a year that can be dated. -/
def Period.EndsInTime (p : Period) (x : Instant) : Prop :=
  match p.unit with
  | none => True
  | some .months =>
    x.wall.date.year + (x.wall.date.month - 1 + p.quantity) / 12 ≤ Date.greatestYear
  | some _ =>
    (x.wall.total + p.toMinutes * WallTime.microsPerMinute) / WallTime.microsPerDay ≤
      Date.lastNumber

theorem Instant.exists_addMinutes_iff {n : Nat} : (∃ y, x.addMinutes n = .ok y) ↔
    (x.wall.total + n * WallTime.microsPerMinute) / WallTime.microsPerDay ≤ Date.lastNumber := by
  unfold addMinutes Date.ofNumber?
  dsimp only
  split
  next h => exact ⟨fun _ => h, fun _ => ⟨_, rfl⟩⟩
  next h => simp [h]

theorem Instant.exists_addMonths_iff {n : Nat} : (∃ y, x.addMonths n = .ok y) ↔
    x.wall.date.year + (x.wall.date.month - 1 + n) / 12 ≤ Date.greatestYear := by
  unfold addMonths
  dsimp only
  split
  next h => simp [Nat.not_le.mpr h]
  next h => simp [Nat.le_of_not_lt h]

theorem Period.exists_addTo_iff {p : Period} :
    (∃ y, p.addTo x = .ok y) ↔ p.EndsInTime x := by
  unfold addTo EndsInTime
  cases p.unit with
  | none => simp
  | some u =>
    cases u with
    | months => exact Instant.exists_addMonths_iff
    | _ => exact Instant.exists_addMinutes_iff

end Periods

section Bands

variable [ZoneData]

/-- The loan date lies strictly between the ends of the band. -/
def Band.Contains (b : Band) (x : Instant) : Prop :=
  b.first.before x = true ∧ x.before b.last = true

theorem Band.holds_iff : b.holds x = true ↔ b.Contains x := by simp [holds, Contains]

namespace Schedule

variable {s : Schedule} {ε : Type} {e : ε}

/-- The band is the first of the table that contains the loan date. -/
def Applies (s : Schedule) (x : Instant) (b : Band) : Prop :=
  ∃ earlier later, s.bands = earlier ++ b :: later ∧ b.Contains x ∧ ∀ c ∈ earlier, ¬ c.Contains x

theorem bandFor_eq_some_iff : s.bandFor x = some b ↔ s.Applies x b := by
  rw [bandFor, List.find?_eq_some_iff_append]
  constructor
  · rintro ⟨hb, earlier, later, hs, he⟩
    refine ⟨earlier, later, hs, Band.holds_iff.mp hb, fun c hc hx => ?_⟩
    simpa [Band.holds_iff.mpr hx] using he c hc
  · rintro ⟨earlier, later, hs, hb, he⟩
    refine ⟨Band.holds_iff.mpr hb, earlier, later, hs, fun c hc => ?_⟩
    simpa [← Band.holds_iff] using he c hc

theorem Applies.unique {c : Band} (hb : s.Applies x b) (hc : s.Applies x c) : b = c :=
  Option.some.inj ((bandFor_eq_some_iff.mpr hb).symm.trans (bandFor_eq_some_iff.mpr hc))

theorem bandFor_eq_none_iff : s.bandFor x = none ↔ ∀ b ∈ s.bands, ¬ b.Contains x := by
  simp only [bandFor, List.find?_eq_none, Band.holds_iff]

theorem Applies.dueFor_eq (h : s.Applies x b) : s.dueFor x = some b.due := by
  rw [dueFor, bandFor_eq_some_iff.mpr h]
  rfl

theorem dueFor_eq_none (h : ∀ b ∈ s.bands, ¬ b.Contains x) : s.dueFor x = none := by
  rw [dueFor, bandFor_eq_none_iff.mpr h]
  rfl

theorem exists_applies_iff : (∃ b, s.Applies x b) ↔ ∃ b ∈ s.bands, b.Contains x := by
  constructor
  · rintro ⟨b, earlier, later, hs, hb, -⟩
    exact ⟨b, by simp [hs], hb⟩
  · rintro ⟨b, hm, hb⟩
    cases h : s.bandFor x with
    | none => exact absurd hb (bandFor_eq_none_iff.mp h b hm)
    | some c => exact ⟨c, bandFor_eq_some_iff.mp h⟩

theorem Applies.bands_ne_nil (h : s.Applies x b) : s.bands ≠ [] := by
  obtain ⟨earlier, later, hs, -⟩ := h
  simp [hs]

theorem limit_of_empty (h : s.bands = []) : s.limit due x e = .ok due := by
  simp [limit, isEmpty, h]

theorem Applies.limit_eq (h : s.Applies x b) : s.limit due x e = .ok (due.earlier b.due) := by
  simp [limit, isEmpty, h.bands_ne_nil, h.dueFor_eq]

theorem limit_of_outside (h : ∀ b ∈ s.bands, ¬ b.Contains x) (hs : s.bands ≠ []) :
    s.limit due x e = .error e := by
  simp [limit, isEmpty, hs, dueFor_eq_none h]

end Schedule

end Bands

namespace LoanPolicy

variable {p : LoanPolicy}

section Refusals

variable [ZoneData]

theorem initialDueDate_of_not_loanable (h : p.loanable.counts = false) :
    p.initialDueDate x = .error (.refused (.notLoanable p.id)) := by
  simp [initialDueDate, h]

theorem initialDueDate_of_unknown (h : p.loanable.counts = true) (hp : p.profile = .unknown) :
    p.initialDueDate x = .error (.refused (.profileNotRecognised p.id)) := by
  simp [initialDueDate, h, hp]

/-- The policy has a period, and its unit is recognised. -/
def HasPeriod (p : LoanPolicy) : Prop :=
  ∃ period unit, p.period = some period ∧ period.unit = some unit

theorem initialDueDate_of_no_period (h : p.loanable.counts = true) (hp : p.profile = .rolling)
    (hn : ¬ p.HasPeriod) :
    p.initialDueDate x = .error (.refused (.periodNotRecognised p.id)) := by
  have hr : p.rollingPeriod? = none := by
    rw [rollingPeriod?, Option.filter_eq_none_iff]
    intro period hs hu
    obtain ⟨unit, hu⟩ := Option.isSome_iff_exists.mp hu
    exact hn ⟨period, unit, hs, hu⟩
  simp [initialDueDate, h, hp, rollingDueDate, hr]

end Refusals

section DueDates

variable [ZoneData]

theorem initialDueDate_of_rolling {period : Period} {unit : IntervalUnit}
    (h : p.loanable.counts = true) (hp : p.profile = .rolling) (hs : p.period = some period)
    (hu : period.unit = some unit) (ha : period.addTo x = .ok rolled) :
    p.initialDueDate x =
      p.schedule.limit rolled x (.refused (.outsideLimitingSchedule p.id)) := by
  have hr : p.rollingPeriod? = some period := by
    simp [rollingPeriod?, hs, Period.isRecognised, hu]
  simp [initialDueDate, h, hp, rollingDueDate, hr, ha, Result.ofDate, Except.mapError]

theorem initialDueDate_of_fixed (h : p.loanable.counts = true) (hp : p.profile = .fixed)
    (hb : p.schedule.Applies x b) : p.initialDueDate x = .ok b.due := by
  simp [initialDueDate, h, hp, fixedDueDate, hb.dueFor_eq]

theorem initialDueDate_of_fixed_outside (h : p.loanable.counts = true) (hp : p.profile = .fixed)
    (hb : ∀ b ∈ p.schedule.bands, ¬ b.Contains x) :
    p.initialDueDate x = .error (.refused (.outsideFixedSchedule p.id)) := by
  simp [initialDueDate, h, hp, fixedDueDate, Schedule.dueFor_eq_none hb]

end DueDates

section Outcomes

variable [ZoneData]

/-- What a policy that can date its period answers for a loan date. -/
inductive Outcome (p : LoanPolicy) (x : Instant) : Result Instant → Prop where
  | notLoanable : p.loanable.counts = false → Outcome p x (.error (.refused (.notLoanable p.id)))
  | unknown : p.loanable.counts = true → p.profile = .unknown →
      Outcome p x (.error (.refused (.profileNotRecognised p.id)))
  | noPeriod : p.loanable.counts = true → p.profile = .rolling → ¬ p.HasPeriod →
      Outcome p x (.error (.refused (.periodNotRecognised p.id)))
  | rolls {period : Period} {rolled : Instant} : p.loanable.counts = true → p.profile = .rolling →
      p.HasPeriod → p.period = some period → period.addTo x = .ok rolled →
      p.schedule.bands = [] → Outcome p x (.ok rolled)
  | limited {period : Period} {rolled : Instant} {b : Band} : p.loanable.counts = true →
      p.profile = .rolling → p.HasPeriod → p.period = some period → period.addTo x = .ok rolled →
      p.schedule.Applies x b → Outcome p x (.ok (rolled.earlier b.due))
  | outsideLimit : p.loanable.counts = true → p.profile = .rolling → p.HasPeriod →
      p.schedule.bands ≠ [] → (∀ b ∈ p.schedule.bands, ¬ b.Contains x) →
      Outcome p x (.error (.refused (.outsideLimitingSchedule p.id)))
  | fixed {b : Band} : p.loanable.counts = true → p.profile = .fixed → p.schedule.Applies x b →
      Outcome p x (.ok b.due)
  | outsideFixed : p.loanable.counts = true → p.profile = .fixed →
      (∀ b ∈ p.schedule.bands, ¬ b.Contains x) →
      Outcome p x (.error (.refused (.outsideFixedSchedule p.id)))

/-- The policy lends by its period, where its schedule leaves room, or by its schedule. -/
def Grants (p : LoanPolicy) (x : Instant) : Prop :=
  p.loanable.counts = true ∧
    (p.profile = .rolling ∧ p.HasPeriod ∧
        (p.schedule.bands = [] ∨ ∃ b ∈ p.schedule.bands, b.Contains x) ∨
      p.profile = .fixed ∧ ∃ b ∈ p.schedule.bands, b.Contains x)

theorem Outcome.exists_ok_iff {r : Result Instant} (h : p.Outcome x r) :
    (∃ due, r = .ok due) ↔ p.Grants x := by
  unfold Grants
  cases h with
  | notLoanable hl => simp [hl]
  | unknown hl hp => simp [hp]
  | noPeriod hl hp hn => simp [hp, hn]
  | rolls hl hp hn _ _ he => simp [hl, hp, hn, he]
  | limited hl hp hn _ _ hb => simp [hl, hp, hn, Schedule.exists_applies_iff.mp ⟨_, hb⟩]
  | outsideLimit hl hp hn he hb => simpa [hp, he] using fun _ _ => hb
  | fixed hl hp hb => simp [hl, hp, Schedule.exists_applies_iff.mp ⟨_, hb⟩]
  | outsideFixed hl hp hb => simpa [hp] using fun _ => hb

theorem Outcome.due_eq (h : p.Outcome x (.ok due)) :
    (p.profile = .rolling → ∃ period rolled, p.period = some period ∧
      period.addTo x = .ok rolled ∧ (p.schedule.bands = [] → due = rolled) ∧
      ∀ b, p.schedule.Applies x b → due = rolled.earlier b.due) ∧
    (p.profile = .fixed → ∀ b, p.schedule.Applies x b → due = b.due) := by
  cases h with
  | rolls hl hp hn hs ha he =>
    refine ⟨fun _ => ⟨_, _, hs, ha, fun _ => rfl, fun b hb => absurd he hb.bands_ne_nil⟩, ?_⟩
    simp [hp]
  | limited hl hp hn hs ha hb =>
    refine ⟨fun _ => ⟨_, _, hs, ha, fun he => absurd he hb.bands_ne_nil, fun c hc => ?_⟩, ?_⟩
    · rw [hb.unique hc]
    · simp [hp]
  | fixed hl hp hb =>
    refine ⟨by simp [hp], fun _ c hc => ?_⟩
    rw [hb.unique hc]

theorem Outcome.not_after_band (h : p.Outcome x (.ok due)) (hs : p.schedule.bands ≠ []) :
    ∃ b, p.schedule.Applies x b ∧ b.due.before due = false := by
  cases h with
  | rolls _ _ _ _ _ he => exact absurd he hs
  | limited _ _ _ _ _ hb => exact ⟨_, hb, Instant.not_before_earlier ..⟩
  | fixed _ _ hb => exact ⟨_, hb, Instant.not_before_self _⟩

theorem applies_or_outside (s : Schedule) (x : Instant) :
    (∃ b, s.Applies x b) ∨ ∀ b ∈ s.bands, ¬ b.Contains x := by
  rw [Schedule.exists_applies_iff]
  by_cases h : ∃ b ∈ s.bands, b.Contains x
  · exact .inl h
  · exact .inr fun b hb hc => h ⟨b, hb, hc⟩

theorem outcome_of_rolling (h : p.loanable.counts = true) (hp : p.profile = .rolling)
    (hx : ∀ period, p.period = some period → period.EndsInTime x) :
    p.Outcome x (p.initialDueDate x) := by
  by_cases hn : p.HasPeriod
  · have ⟨period, unit, hs, hu⟩ := hn
    obtain ⟨rolled, ha⟩ := Period.exists_addTo_iff.mpr (hx period hs)
    rw [initialDueDate_of_rolling h hp hs hu ha]
    by_cases he : p.schedule.bands = []
    · rw [Schedule.limit_of_empty he]
      exact .rolls h hp hn hs ha he
    · obtain ⟨b, hb⟩ | hb := applies_or_outside p.schedule x
      · rw [hb.limit_eq]
        exact .limited h hp hn hs ha hb
      · rw [Schedule.limit_of_outside hb he]
        exact .outsideLimit h hp hn he hb
  · rw [initialDueDate_of_no_period h hp hn]
    exact .noPeriod h hp hn

theorem outcome_of_fixed (h : p.loanable.counts = true) (hp : p.profile = .fixed) :
    p.Outcome x (p.initialDueDate x) := by
  obtain ⟨b, hb⟩ | hb := applies_or_outside p.schedule x
  · rw [initialDueDate_of_fixed h hp hb]
    exact .fixed h hp hb
  · rw [initialDueDate_of_fixed_outside h hp hb]
    exact .outsideFixed h hp hb

theorem outcome_initialDueDate
    (hx : ∀ period, p.period = some period → period.EndsInTime x) :
    p.Outcome x (p.initialDueDate x) := by
  cases h : p.loanable.counts with
  | false =>
    rw [initialDueDate_of_not_loanable h]
    exact .notLoanable h
  | true =>
    cases hp : p.profile with
    | rolling => exact outcome_of_rolling h hp hx
    | fixed => exact outcome_of_fixed h hp
    | unknown =>
      rw [initialDueDate_of_unknown h hp]
      exact .unknown h hp

end Outcomes

section Overlap

def newYorkMidnight (year month day : Nat) : Instant where
  wall := { date := { year, month, day }, micros := 0 }
  zone := .region "America/New_York"

/-- A loan of three weeks, limited by two bands that overlap in March. -/
def threeWeeks : LoanPolicy where
  id := .str "three-weeks"
  name := .null
  loanable := .bool true
  profile := .rolling
  period := some { quantity := 3, unit := some .weeks }
  gracePeriod := none
  scheduleId := .str "terms"
  schedule := {
    id := .str "terms"
    bands := [
      { first := newYorkMidnight 2026 1 1
        last := newYorkMidnight 2026 4 1
        due := newYorkMidnight 2026 3 20 },
      { first := newYorkMidnight 2026 3 1
        last := newYorkMidnight 2026 7 1
        due := newYorkMidnight 2026 6 30 }] }

def marchNoon : Instant where
  wall := .atHour { year := 2026, month := 3, day := 10 } 12
  zone := .utc

attribute [local instance] ZoneData.of2026

end Overlap

end LoanPolicy

end Lending
