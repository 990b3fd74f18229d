import Lending.Proofs.Overdue
import Lending.Proofs.Storage.Item
import Lending.Storage.Calendar

/-! # The days that a late loan asks for

Where closed time does not count, the charge for a late loan asks for the opening days from the date
of its due date to that of the present, each as the clock of its own zone shows it. Clocks ahead of
one another may show these dates in the wrong order.
-/

namespace Lending

namespace Client

variable {c : Client} {path : Text} {params : Option (List (Text × Text))} {servicePoint : Json}
  {start finish : Instant}

/-- The parameters that ask for the opening days between two dates. -/
def window (first last : Text) : List (Text × Text) :=
  [("startDate", first), ("endDate", last), ("includeClosedDays", "false")]

theorem params_of_mem_sent_get {request : SentRequest} (h : request ∈ (c.get path params).sent) :
    request.params = params.getD [] := by
  cases hr : c.requestFor path params with
  | error e =>
    rw [get_of_requestFor_error hr] at h
    cases h
  | ok made =>
    obtain ⟨address, made⟩ := made
    rw [get_of_requestFor_ok hr] at h
    obtain rfl := List.mem_singleton.mp h
    exact params_of_requestFor hr

theorem sent_fetchOpeningDays : (c.fetchOpeningDays servicePoint start finish).sent =
    (c.get "/calendar/periods" (openingDaysParameters servicePoint start finish)).sent := by
  refine congrArg (List.filterMap Event.sent?) (Reply.events_bind_of_quiet fun response => ?_)
  split
  · rfl
  · split
    · rfl
    · cases hb : bodyOf response with
      | ok body => rfl
      | error e => rfl

end Client

namespace Instant

variable {x y : Instant}

theorem date_le_of_total_le (hy : y.wall.micros < WallTime.microsPerDay)
    (h : x.wall.total ≤ y.wall.total) : x.wall.date.number ≤ y.wall.date.number := by
  unfold WallTime.total at h
  unfold WallTime.microsPerDay WallTime.microsPerMinute WallTime.microsPerSecond at *
  omega

variable [ZoneData]

/-- A clock that is not ahead shows no later date at an earlier time. -/
theorem date_le_of_before (hy : y.wall.micros < WallTime.microsPerDay) (h : x.before y = true)
    (ho : x.sameRegion y = true ∨ x.offset ≤ y.offset) :
    x.wall.date.number ≤ y.wall.date.number := by
  apply date_le_of_total_le hy
  rw [before_iff] at h
  unfold microsTo universal at h
  split at h
  · omega
  next hs =>
    rw [or_iff_right hs] at ho
    omega

/-- Offsets of less than a day each put the dates of two times two days out of order at most. -/
theorem date_le_add_two_of_before (hy : y.wall.micros < WallTime.microsPerDay)
    (h : x.before y = true) (hx : x.offset.natAbs < WallTime.microsPerDay)
    (ho : y.offset.natAbs < WallTime.microsPerDay) :
    x.wall.date.number ≤ y.wall.date.number + 2 := by
  rw [before_iff] at h
  unfold microsTo universal WallTime.total at h
  unfold WallTime.microsPerDay WallTime.microsPerMinute WallTime.microsPerSecond at *
  split at h
  · omega
  · omega

end Instant

namespace Loan

section Days

variable [ZoneData] {c : Client} {l : Loan} {due now : Instant} {p : OverdueFinePolicy}

theorem Late.sent_overdueMinutes {calendar : Calendar} (h : l.Late now due p)
    (hc : l.countsClosed p = false) :
    (l.overdueMinutes calendar now).sent = (calendar l.servicePoint due now).sent := by
  obtain ⟨hc, hs⟩ := (Bool.or_eq_false_iff ..).mp hc
  have hl : l.lateMinutes calendar due now = (do
      let days ← calendar l.servicePoint due now
      return min (OpeningDay.totalMinutes days : Int) (due.minutesTo now)) := by
    unfold lateMinutes
    rw [h.countClosed_eq]
    simp [hc, hs]
  unfold overdueMinutes
  rw [overdueSince?_eq_some_iff.mpr ⟨p, h⟩]
  refine congrArg (List.filterMap Event.sent?) ?_
  dsimp only
  rw [Reply.events_bind_of_quiet fun _ => rfl, hl, Reply.events_bind_of_quiet fun _ => rfl]

/-- A late loan for which closed time does not count asks for the opening days from the date of its
due date to that of the present, and for nothing else. The first of these is not after the second
where both are times of one region, nor where the clock of the due date is not ahead of the other.
Where it is, the first may be after the second, by two days at most. -/
theorem window_in_order_unless_ahead (c : Client) (l : Loan) (due now : Instant)
    (p : OverdueFinePolicy) (h : l.Late now due p) (hc : l.countsClosed p = false)
    (hn : now.wall.micros < WallTime.microsPerDay) :
    (∀ request ∈ (l.overdueMinutes c.fetchOpeningDays now).sent,
      request.params = Client.parameter "servicePointId" l.servicePoint ++
        Client.window due.wall.date.text now.wall.date.text) ∧
    (due.sameRegion now = true ∨ due.offset ≤ now.offset →
      due.wall.date.number ≤ now.wall.date.number) ∧
    (due.offset.natAbs < WallTime.microsPerDay → now.offset.natAbs < WallTime.microsPerDay →
      due.wall.date.number ≤ now.wall.date.number + 2) := by
  refine ⟨fun request hr => ?_, Instant.date_le_of_before hn h.passed,
    Instant.date_le_add_two_of_before hn h.passed⟩
  rw [h.sent_overdueMinutes hc, Client.sent_fetchOpeningDays] at hr
  exact Client.params_of_mem_sent_get hr

end Days

section Desk

def deskLoan (due : Instant) : Loan where
  id := .str "l"
  loanDate := none
  dueDate := some due
  recalled := false
  servicePoint := .str "desk"
  finePolicy := some { (default : OverdueFinePolicy) with countClosed := .bool false }

def februaryHour (day hour : Nat) (ahead : Int) : Instant where
  wall := .atHour { year := 2026, month := 2, day } hour
  zone := .fixed ahead

attribute [local instance] ZoneData.of2026

/-- A loan that was due at eleven in the evening by universal time, five hours before it is five in
the morning of the next day where the clock is one hour ahead. -/
theorem window_in_order_unless_ahead_of_night :
    let due := februaryHour 1 23 0
    let now := februaryHour 2 5 60
    ∃ p, (deskLoan due).Late now due p ∧ (deskLoan due).countsClosed p = false ∧
      now.wall.micros < WallTime.microsPerDay ∧ due.offset ≤ now.offset ∧
      due.wall.date.number ≤ now.wall.date.number ∧
      ((deskLoan due).overdueMinutes (Client.ofRecords []).fetchOpeningDays now).sent ≠ [] ∧
      ∀ request ∈ ((deskLoan due).overdueMinutes
          (Client.ofRecords []).fetchOpeningDays now).sent,
        request.params = Client.parameter "servicePointId" (.str "desk") ++
          Client.window "2026-02-01" "2026-02-02" := by
  intro due now
  have hl : (deskLoan due).Late now due _ := ⟨rfl, by decide +kernel, rfl, by decide⟩
  have hn : now.wall.micros < WallTime.microsPerDay := by decide +kernel
  have hfirst : due.wall.date.text = "2026-02-01" := by decide +kernel
  have hlast : now.wall.date.text = "2026-02-02" := by decide +kernel
  obtain ⟨hr, hd, -⟩ := window_in_order_unless_ahead (Client.ofRecords []) _ due now _ hl rfl hn
  rw [hfirst, hlast] at hr
  exact ⟨_, hl, rfl, hn, by decide, hd (.inr (by decide)), by decide +kernel, hr⟩

/-- A loan that was due an hour after midnight where the clock is five hours ahead is late an hour
later, when it is still the day before by universal time. It asks for the days from the second of
February to the first, and is charged nothing. -/
theorem window_out_of_order_ahead :
    let due := februaryHour 2 1 300
    let now := februaryHour 1 21 0
    ∃ p, (deskLoan due).Late now due p ∧ (deskLoan due).countsClosed p = false ∧
      now.wall.date.number < due.wall.date.number ∧
      ((deskLoan due).overdueMinutes (Client.ofRecords []).fetchOpeningDays now).sent.map
          (·.params) =
        [Client.parameter "servicePointId" (.str "desk") ++
          Client.window "2026-02-02" "2026-02-01"] ∧
      ((deskLoan due).overdueMinutes (Client.ofRecords []).fetchOpeningDays now).answer =
        .ok (some 0) := by
  intro due now
  refine ⟨_, ⟨rfl, by decide +kernel, rfl, by decide⟩, rfl, ?_, ?_, ?_⟩
  all_goals decide +kernel

end Desk

end Loan

end Lending
