import Lending.Opening
import Lending.Proofs.Result
import Mathlib.Algebra.GroupWithZero.Nat
import Mathlib.Data.Finset.Card
import Mathlib.Logic.Relation
import Mathlib.Order.Interval.Finset.Nat
import Mathlib.Order.Interval.Set.Disjoint

/-! # Open minutes

The open minutes of a list of days do not depend on the order of anything, nor on days and intervals
that add nothing. Intervals that do not overlap add up to the minutes of the day that they cover.
-/

namespace Lending

section Times

def TimeOfDay.Exists (t : TimeOfDay) : Prop := t.hour ≤ 23 ∧ t.minute ≤ 59

theorem TimeOfDay.Exists.lt_day {t : TimeOfDay} (h : t.Exists) :
    t.hour * 60 + t.minute < 1440 := by
  obtain ⟨hh, hm⟩ := h
  omega

theorem TimeOfDay.exists_of_ofParts? {p : Parts} {offset : Option Int} {t : TimeOfDay}
    (h : ofParts? p offset = some t) : t.Exists := by
  unfold ofParts? at h
  split at h
  next hp =>
    obtain rfl := Option.some.inj h
    exact ⟨hp.1, hp.2.1⟩
  next => cases h

theorem TimeOfDay.exists_of_ofBytes? {cs : List Char} {t : TimeOfDay}
    (h : ofBytes? cs = some t) : t.Exists := by
  unfold ofBytes? at h
  obtain ⟨p, -, h⟩ := Option.bind_eq_some_iff.mp h
  split at h
  · split at h
    · cases h
    · exact exists_of_ofParts? h
  · split at h
    · exact exists_of_ofParts? h
    · cases h
  · obtain ⟨_, -, h⟩ := Option.bind_eq_some_iff.mp h
    exact exists_of_ofParts? h
  · obtain ⟨_, -, h⟩ := Option.bind_eq_some_iff.mp h
    exact exists_of_ofParts? h
  · cases h

theorem TimeOfDay.exists_of_ofJson {v : Json} {t : TimeOfDay} (h : ofJson v = .ok (some t)) :
    t.Exists := by
  obtain ⟨_ | text, -, h⟩ := bind_eq_ok_iff.mp h
  · cases h
  · obtain ⟨t', ht, h⟩ := bind_eq_ok_iff.mp h
    obtain rfl := Option.some.inj (pure_eq_ok_iff.mp h)
    cases hc : text.chars?.bind ofText? with
    | none =>
      rw [hc] at ht
      cases ht
    | some t =>
      rw [hc] at ht
      obtain rfl := Except.ok.inj ht
      obtain ⟨cs, -, hcs⟩ := Option.bind_eq_some_iff.mp hc
      exact exists_of_ofBytes? hcs

end Times

namespace OpeningHour

variable {h h' : OpeningHour}

def Exists (h : OpeningHour) : Prop := ∀ t, h.start = some t ∨ h.finish = some t → t.Exists

theorem exists_of_ofJson {v : Json} (hv : ofJson v = .ok h) : h.Exists := by
  simp only [ofJson, bind_eq_ok_iff, pure_eq_ok_iff] at hv
  obtain ⟨_, -, start, hs, _, -, finish, hf, rfl⟩ := hv
  rintro t (rfl | rfl)
  · exact TimeOfDay.exists_of_ofJson hs
  · exact TimeOfDay.exists_of_ofJson hf

/-- The interval adds nothing: an end is missing, or the end does not come after the start. -/
def isIdle (h : OpeningHour) : Bool :=
  match h.start, h.finish with
  | some start, some finish => finish.hour * 60 + finish.minute ≤ start.hour * 60 + start.minute
  | _, _ => true

/-- The minutes of the day from the start up to, but not including, the end. -/
def covered (h : OpeningHour) : Finset Nat :=
  match h.start, h.finish with
  | some start, some finish =>
    Finset.Ico (start.hour * 60 + start.minute) (finish.hour * 60 + finish.minute)
  | _, _ => ∅

def Apart (h h' : OpeningHour) : Prop := Disjoint h.covered h'.covered

theorem disjoint_Ico_iff {a b c d : Nat} :
    Disjoint (Finset.Ico a b) (Finset.Ico c d) ↔ min b d ≤ max a c := by
  rw [← Finset.disjoint_coe, Finset.coe_Ico, Finset.coe_Ico, Set.Ico_disjoint_Ico]

instance : DecidableRel Apart
  | ⟨some _, some _⟩, ⟨some _, some _⟩ => decidable_of_iff _ disjoint_Ico_iff.symm
  | ⟨none, _⟩, _ => .isTrue (Finset.disjoint_empty_left _)
  | ⟨some _, none⟩, _ => .isTrue (Finset.disjoint_empty_left _)
  | ⟨some _, some _⟩, ⟨none, _⟩ => .isTrue (Finset.disjoint_empty_right _)
  | ⟨some _, some _⟩, ⟨some _, none⟩ => .isTrue (Finset.disjoint_empty_right _)

theorem card_covered (h : OpeningHour) : h.covered.card = h.minutes := by
  unfold covered minutes
  cases h.start with
  | none => rfl
  | some start =>
    cases h.finish with
    | none => rfl
    | some finish => exact Nat.card_Ico ..

theorem covered_of_isIdle (hi : h.isIdle = true) : h.covered = ∅ := by
  unfold isIdle at hi
  unfold covered
  split at hi
  next => exact Finset.Ico_eq_empty_of_le (of_decide_eq_true hi)
  next => rfl

theorem minutes_of_isIdle (hi : h.isIdle = true) : h.minutes = 0 := by
  rw [← card_covered, covered_of_isIdle hi, Finset.card_empty]

/-- The last minute of the day is not covered, for an interval would have to end after it. -/
theorem Exists.lt_of_mem_covered (he : h.Exists) {m : Nat} (hm : m ∈ h.covered) :
    m + 1 < 1440 := by
  unfold covered at hm
  split at hm
  next start finish hs hf =>
    have hlt := (he finish (.inr hf)).lt_day
    have := (Finset.mem_Ico.mp hm).2
    omega
  next => cases hm

end OpeningHour

namespace OpeningDay

variable {d : OpeningDay} {days days' : List OpeningDay} {hours hours' : List OpeningHour}

section Minutes

theorem minutes_of_closed (ho : d.isOpen.counts = false) : d.minutes = 0 := by
  simp [minutes, ho]

theorem minutes_of_allDay (ho : d.isOpen.counts = true) (ha : d.allDay.counts = true) :
    d.minutes = minutesPerDay := by
  simp [minutes, ho, ha]

def minutesOf (hours : List OpeningHour) : Nat := (hours.map (·.minutes)).sum

theorem minutes_eq (d : OpeningDay) : d.minutes =
    if !d.isOpen.counts then 0
    else if d.allDay.counts then minutesPerDay
    else minutesOf d.hours := rfl

theorem minutes_of_open (ho : d.isOpen.counts = true) (ha : d.allDay.counts = false) :
    d.minutes = minutesOf d.hours := by
  simp [minutes_eq, ho, ha]

theorem minutes_congr (d : OpeningDay) (hh : minutesOf hours = minutesOf hours') :
    minutes { d with hours } = minutes { d with hours := hours' } := by
  simp only [minutes_eq, hh]

theorem totalMinutes_eq_sum (days : List OpeningDay) :
    totalMinutes days = (days.map (·.minutes)).sum := rfl

end Minutes

section Edits

/-- A list of days, and the same list with the days or the intervals of a day in another order, with
one more closed day, or with one more interval that adds nothing. -/
inductive Edit : List OpeningDay → List OpeningDay → Prop where
  | days {days days' : List OpeningDay} : days.Perm days' → Edit days days'
  | hours (before after : List OpeningDay) (d : OpeningDay) {hours : List OpeningHour} :
      d.hours.Perm hours → Edit (before ++ d :: after) (before ++ { d with hours } :: after)
  | closed (before after : List OpeningDay) {d : OpeningDay} : d.isOpen.counts = false →
      Edit (before ++ after) (before ++ d :: after)
  | idle (before after : List OpeningDay) (d : OpeningDay) (earlier later : List OpeningHour)
      {h : OpeningHour} : h.isIdle = true →
      Edit (before ++ { d with hours := earlier ++ later } :: after)
        (before ++ { d with hours := earlier ++ h :: later } :: after)

theorem totalMinutes_append_cons (before after : List OpeningDay) (d : OpeningDay) :
    totalMinutes (before ++ d :: after) = totalMinutes (before ++ after) + d.minutes := by
  simp only [totalMinutes_eq_sum, List.map_append, List.map_cons, List.sum_append, List.sum_cons]
  omega

theorem Edit.totalMinutes_eq (h : Edit days days') : totalMinutes days = totalMinutes days' := by
  cases h with
  | days hp => exact (hp.map _).sum_nat
  | hours before after d hp =>
    have hm : d.minutes = minutes { d with hours := _ } := minutes_congr d (hp.map _).sum_nat
    rw [totalMinutes_append_cons, totalMinutes_append_cons, hm]
  | closed before after ho =>
    rw [totalMinutes_append_cons, minutes_of_closed ho, Nat.add_zero]
  | idle before after d earlier later hi =>
    rw [totalMinutes_append_cons, totalMinutes_append_cons]
    congr 1
    exact minutes_congr d (by simp [minutesOf, OpeningHour.minutes_of_isIdle hi])

end Edits

section Covered

/-- The minutes that some intervals cover, of this day or a longer one. -/
def coveredBy (hours : List OpeningHour) : Finset Nat := hours.foldr (fun h ms => h.covered ∪ ms) ∅

theorem mem_coveredBy {m : Nat} : m ∈ coveredBy hours ↔ ∃ h ∈ hours, m ∈ h.covered := by
  induction hours with
  | nil => simp [coveredBy]
  | cons h hours ih =>
    rw [coveredBy, List.foldr_cons, Finset.mem_union, ← coveredBy, ih]
    simp

theorem card_coveredBy (hp : hours.Pairwise OpeningHour.Apart) :
    (coveredBy hours).card = minutesOf hours := by
  induction hours with
  | nil => rfl
  | cons h hours ih =>
    obtain ⟨hh, hp⟩ := List.pairwise_cons.mp hp
    have hd : Disjoint h.covered (coveredBy hours) := by
      rw [Finset.disjoint_left]
      intro m hm hms
      obtain ⟨h', hmem, hm'⟩ := mem_coveredBy.mp hms
      exact Finset.disjoint_left.mp (hh h' hmem) hm hm'
    calc (coveredBy (h :: hours)).card
      _ = (h.covered ∪ coveredBy hours).card := rfl
      _ = h.covered.card + (coveredBy hours).card := Finset.card_union_of_disjoint hd
      _ = h.minutes + minutesOf hours := by rw [h.card_covered, ih hp]
      _ = minutesOf (h :: hours) := List.sum_cons.symm

/-- The intervals of a day that add something. -/
def busyHours (d : OpeningDay) : List OpeningHour := d.hours.filter fun h => !h.isIdle

theorem minutesOf_busyHours (d : OpeningDay) : minutesOf d.busyHours = minutesOf d.hours := by
  unfold busyHours
  induction d.hours with
  | nil => rfl
  | cons h hours ih =>
    cases hi : h.isIdle with
    | true => simpa [minutesOf, hi, OpeningHour.minutes_of_isIdle hi] using ih
    | false => simpa [minutesOf, hi] using ih

/-- The minutes of the day that some interval covers. -/
def coveredMinutes (d : OpeningDay) : Finset Nat :=
  (Finset.range 1440).filter fun m => ∃ h ∈ d.hours, m ∈ h.covered

theorem coveredMinutes_eq (he : ∀ h ∈ d.hours, h.Exists) :
    d.coveredMinutes = coveredBy d.busyHours := by
  ext m
  rw [coveredMinutes, Finset.mem_filter, Finset.mem_range, mem_coveredBy]
  constructor
  · rintro ⟨-, h, hh, hm⟩
    refine ⟨h, List.mem_filter.mpr ⟨hh, ?_⟩, hm⟩
    rw [Bool.not_eq_true', ← Bool.not_eq_true]
    intro hi
    rw [OpeningHour.covered_of_isIdle hi] at hm
    cases hm
  · rintro ⟨h, hh, hm⟩
    have hmem := (List.mem_filter.mp hh).1
    exact ⟨Nat.lt_of_succ_lt ((he h hmem).lt_of_mem_covered hm), h, hmem, hm⟩

theorem card_coveredMinutes_lt (he : ∀ h ∈ d.hours, h.Exists) :
    d.coveredMinutes.card < 1440 := by
  have hs : d.coveredMinutes ⊆ Finset.range (1440 - 1) := by
    intro m hm
    obtain ⟨-, h, hh, hm⟩ := Finset.mem_filter.mp hm
    have := (he h hh).lt_of_mem_covered hm
    exact Finset.mem_range.mpr (by omega)
  calc d.coveredMinutes.card
    _ ≤ (Finset.range (1440 - 1)).card := Finset.card_le_card hs
    _ = 1440 - 1 := Finset.card_range _
    _ < 1440 := by decide

theorem minutes_eq_card (ho : d.isOpen.counts = true) (ha : d.allDay.counts = false)
    (he : ∀ h ∈ d.hours, h.Exists) (hp : d.busyHours.Pairwise OpeningHour.Apart) :
    d.minutes = d.coveredMinutes.card := by
  rw [minutes_of_open ho ha, ← minutesOf_busyHours, coveredMinutes_eq he, card_coveredBy hp]

theorem exists_of_ofJson {v : Json} (hv : ofJson v = .ok d) : ∀ h ∈ d.hours, h.Exists := by
  simp only [ofJson, bind_eq_ok_iff, pure_eq_ok_iff] at hv
  obtain ⟨_, -, _, -, _, -, _, -, hours, hm, _, -, _, -, rfl⟩ := hv
  intro h hh
  obtain ⟨w, -, hw⟩ := exists_of_mapM_eq_ok hm hh
  exact OpeningHour.exists_of_ofJson hw

end Covered

/-- An interval counts the minutes from its start to its end, and none where the end comes first, so
that no list of days counts fewer than none. Days and intervals may be put in another order, and
closed days and intervals that add nothing may come and go, in any number. Wherever it stands in a
list, an open day whose other intervals do not overlap adds the minutes that they cover: fewer than
if it were open all day. -/
theorem open_minutes_are_covered (days : List OpeningDay) :
    (∀ (h : OpeningHour) start finish, h.start = some start → h.finish = some finish →
      (h.minutes : Int) = max
        (((finish.hour * 60 + finish.minute : Nat) : Int) - (start.hour * 60 + start.minute : Nat))
        0) ∧
    (0 : Int) ≤ totalMinutes days ∧ totalMinutes [] = 0 ∧
    (∀ days', Relation.EqvGen Edit days days' → totalMinutes days' = totalMinutes days) ∧
    ∀ before d after, days = before ++ d :: after →
      totalMinutes days = totalMinutes (before ++ after) + d.minutes ∧
      (d.isOpen.counts = false → d.minutes = 0) ∧
      (d.isOpen.counts = true →
        (d.allDay.counts = true → d.minutes = 1440) ∧
        (d.allDay.counts = false → (∀ h ∈ d.hours, h.Exists) →
          d.busyHours.Pairwise OpeningHour.Apart →
          d.minutes = d.coveredMinutes.card ∧ d.minutes < 1440)) := by
  refine ⟨fun h start finish hs hf => ?_, Int.natCast_nonneg _, rfl, fun days' hd => ?_, ?_⟩
  · simp only [OpeningHour.minutes, hs, hf, TimeOfDay.minutes]
    omega
  · induction hd with
    | rel _ _ h => exact h.totalMinutes_eq.symm
    | refl _ => rfl
    | symm _ _ _ ih => exact ih.symm
    | trans _ _ _ _ _ ih ih' => exact ih'.trans ih
  · rintro before d after rfl
    refine ⟨totalMinutes_append_cons before after d, minutes_of_closed,
      fun ho => ⟨minutes_of_allDay ho, fun ha he hp => ?_⟩⟩
    have hm := minutes_eq_card ho ha he hp
    exact ⟨hm, hm ▸ card_coveredMinutes_lt he⟩

/-- A record of a day that is open before and after noon; a third interval has no end. -/
def splitShiftRecord : Json := .obj [("date", .str "2026-03-02"), ("openingHour", .arr [
  .obj [("startTime", .str "13:00"), ("endTime", .str "19:00")],
  .obj [("startTime", .str "09:30")],
  .obj [("startTime", .str "08:00:30"), ("endTime", .str "13:00:20")]])]

def splitShift : OpeningDay where
  day := some { year := 2026, month := 3, day := 2 }
  hours := [
    { start := some ⟨13, 0, 0, 0, none⟩, finish := some ⟨19, 0, 0, 0, none⟩ },
    { start := some ⟨9, 30, 0, 0, none⟩, finish := none },
    { start := some ⟨8, 0, 30, 0, none⟩, finish := some ⟨13, 0, 20, 0, none⟩ }]
  allDay := .bool false
  isOpen := .bool true

theorem open_minutes_are_covered_of_splitShift :
    let d := splitShift
    ofJson splitShiftRecord = .ok d ∧ d.isOpen.counts = true ∧ d.allDay.counts = false ∧
      (∀ h ∈ d.hours, h.Exists) ∧ d.busyHours.Pairwise OpeningHour.Apart ∧
      d.minutes = d.coveredMinutes.card ∧ d.minutes < 1440 ∧
      Relation.EqvGen Edit [d, d] [d, { d with hours := d.hours.reverse }] ∧
      totalMinutes [d, { d with hours := d.hours.reverse }] = totalMinutes [d, d] ∧
      totalMinutes [d, d] = totalMinutes [d] + d.coveredMinutes.card := by
  intro d
  have hv : ofJson splitShiftRecord = .ok d := by decide +kernel
  have hp : d.busyHours.Pairwise OpeningHour.Apart := by decide +kernel
  have hr : Relation.EqvGen Edit [d, d] [d, { d with hours := d.hours.reverse }] :=
    .rel _ _ (.hours [d] [] d d.hours.reverse_perm.symm)
  obtain ⟨-, -, -, hedit, hday⟩ := open_minutes_are_covered [d, d]
  obtain ⟨ht, -, hopen⟩ := hday [] d [d] rfl
  obtain ⟨hm, hlt⟩ := (hopen rfl).2 rfl (exists_of_ofJson hv) hp
  exact ⟨hv, rfl, rfl, exists_of_ofJson hv, hp, hm, hlt, hr, hedit _ hr, hm ▸ ht⟩

end OpeningDay

end Lending
