import Lending.Calendar.InstantJson
import Lending.Calendar.DateText

/-! # Opening days

The hours a service point is open, day by day, and the minutes they add up to.
-/

namespace Lending

/-- One open interval of a day; either end may be missing. -/
structure OpeningHour where
  start : Option TimeOfDay
  finish : Option TimeOfDay
deriving DecidableEq, Repr, Inhabited

/-- Whether the day is open and whether it is open all day is as the record gives it. -/
structure OpeningDay where
  day : Option Date
  hours : List OpeningHour
  allDay : Json
  isOpen : Json
deriving DecidableEq, Repr, Inhabited

/-- Minutes from the start to the end; none where an end is missing or the end comes first. -/
def OpeningHour.minutes (h : OpeningHour) : Nat :=
  match h.start, h.finish with
  | some start, some finish => finish.minutes - start.minutes
  | _, _ => 0

def OpeningHour.ofJson (v : Json) : Result OpeningHour := do
  let start ← TimeOfDay.ofJson (← v.member "startTime")
  return { start, finish := ← TimeOfDay.ofJson (← v.member "endTime") }

namespace OpeningDay

def minutesPerDay : Nat := 1440

def minutes (d : OpeningDay) : Nat :=
  if !d.isOpen.counts then 0
  else if d.allDay.counts then minutesPerDay
  else (d.hours.map (·.minutes)).foldr (· + ·) 0

def ofJson (v : Json) : Result OpeningDay := do
  let day ← Date.ofJson (← v.member "date")
  let hours ← (← (← v.memberD "openingHour" (.arr [])).items).mapM OpeningHour.ofJson
  let allDay ← v.memberD "allDay" (.bool false)
  return { day, hours, allDay, isOpen := ← v.memberD "open" (.bool true) }

def totalMinutes (days : List OpeningDay) : Nat := (days.map (·.minutes)).foldr (· + ·) 0

end OpeningDay

end Lending
