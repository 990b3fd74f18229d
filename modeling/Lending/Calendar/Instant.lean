import Lending.Calendar.DateText
import Lending.Calendar.TimeOfDay
import Lending.Number.Double

/-! # Instants

A wall clock time in a zone: how instants are ordered, the minutes between them, and the instant
some minutes or months later.
-/

namespace Lending

structure Instant where
  wall : WallTime
  zone : Zone
deriving DecidableEq, Repr, Inhabited

namespace Instant

def microsPerMinute : Int := WallTime.microsPerMinute

def sameRegion (x y : Instant) : Bool :=
  match x.zone, y.zone with
  | .region name, .region name' => name == name'
  | _, _ => false

/-- The same wall clock time in another zone. -/
def inZone (x : Instant) (z : Zone) : Instant := { x with zone := z }

def addMinutes (x : Instant) (n : Nat) : Except DateFault Instant := do
  let total := x.wall.total + n * WallTime.microsPerMinute
  let date ← Date.ofNumber? (total / WallTime.microsPerDay)
  return { x with wall := { date, micros := total % WallTime.microsPerDay } }

/-- The greatest year that a date can be asked for. -/
def greatestAskedYear : Nat := 2147483647

/-- The same day some months later, or the last day of that month if it is too short. -/
def addMonths (x : Instant) (n : Nat) : Except DateFault Instant :=
  let d := x.wall.date
  let months := d.month - 1 + n
  let year := d.year + months / 12
  let month := months % 12 + 1
  if Date.greatestYear < year then
    .error (if greatestAskedYear < year then .outOfRange else .malformed)
  else
    let day := min d.day (Date.daysInMonth year month)
    .ok { x with wall := { x.wall with date := { year, month, day } } }

def wallText (w : WallTime) : String :=
  w.date.text ++ "T" ++ TimeOfDay.clockText w.hour w.minute w.second w.micro

variable [ZoneData]

def offset (x : Instant) : Int := x.zone.offset x.wall

/-- Microseconds since the midnight before year 1, in universal time. -/
def universal (x : Instant) : Int := (x.wall.total : Int) - x.offset

/-- Microseconds from the first instant to the second: by the wall clock within one region, through
universal time otherwise. -/
def microsTo (x y : Instant) : Int :=
  if x.sameRegion y then (y.wall.total : Int) - x.wall.total else y.universal - x.universal

def before (x y : Instant) : Bool := 0 < x.microsTo y

/-- The earlier of two instants; of two that are equal, the first. -/
def earlier (x y : Instant) : Instant := if y.before x then y else x

/-- Whole minutes from the first instant to the second, counted on seconds that are held as a
double. -/
def minutesTo (x y : Instant) : Int :=
  let micros := x.microsTo y
  (Double.ofRatio (micros < 0) micros.natAbs WallTime.microsPerSecond).floorDiv 60

def text (x : Instant) : String := wallText x.wall ++ TimeOfDay.offsetText x.offset

/-- The text where universal time is written `Z` and an offset as hours and minutes. -/
def shortText (x : Instant) : String :=
  let minutes := x.offset.natAbs / WallTime.microsPerMinute
  wallText x.wall ++ if x.offset = 0 then "Z" else
    TimeOfDay.signText x.offset ++ TimeOfDay.hoursText minutes

end Instant

end Lending
