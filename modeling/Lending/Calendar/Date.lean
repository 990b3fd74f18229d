/-! # Dates

The Gregorian calendar: years, months and days, and the count of days from the start of year 1.
-/

namespace Lending

inductive DateFault where
  | malformed
  | outOfRange
deriving DecidableEq, Repr

structure Date where
  year : Nat
  month : Nat
  day : Nat
deriving DecidableEq, Repr, Inhabited

namespace Date

def leastYear : Nat := 1

def greatestYear : Nat := 9999

def isLeap (year : Nat) : Bool := year % 4 == 0 && (year % 100 != 0 || year % 400 == 0)

def daysInYear (year : Nat) : Nat := if isLeap year then 366 else 365

def daysInMonth (year month : Nat) : Nat :=
  match month with
  | 2 => if isLeap year then 29 else 28
  | 4 | 6 | 9 | 11 => 30
  | _ => 31

def daysBeforeYear (year : Nat) : Nat :=
  let y := year - 1
  365 * y + y / 4 - y / 100 + y / 400

def daysBeforeMonth (year : Nat) : Nat → Nat
  | 0 | 1 => 0
  | month + 1 => daysBeforeMonth year month + daysInMonth year month

/-- The first day of year 1 has number 1. -/
def number (d : Date) : Nat := daysBeforeYear d.year + daysBeforeMonth d.year d.month + d.day

/-- The year that the day after `n` days falls in. -/
def yearAfter (n : Nat) : Nat :=
  let y := n * 400 / 146097 + 1
  if n < daysBeforeYear y then y - 1 else if daysBeforeYear (y + 1) ≤ n then y + 1 else y

/-- The month and the day of the month after `n` days of a year, looking from a month onwards. -/
def monthAfter (year month : Nat) : Nat → Nat → Nat × Nat
  | 0, n => (month, n + 1)
  | fuel + 1, n =>
    if n < daysInMonth year month then (month, n + 1)
    else monthAfter year (month + 1) fuel (n - daysInMonth year month)

def ofNumber (number : Nat) : Date :=
  let n := number - 1
  let year := yearAfter n
  let (month, day) := monthAfter year 1 11 (n - daysBeforeYear year)
  { year, month, day }

def lastNumber : Nat := daysBeforeYear (greatestYear + 1)

def make? (year month day : Nat) : Option Date :=
  if leastYear ≤ year ∧ year ≤ greatestYear ∧ 1 ≤ month ∧ month ≤ 12 ∧ 1 ≤ day ∧
      day ≤ daysInMonth year month then
    some { year, month, day }
  else none

/-- Monday is 0 and Sunday is 6. -/
def weekday (d : Date) : Nat := (d.number + 6) % 7

def ofOrdinal? (year ordinal : Nat) : Option Date :=
  if leastYear ≤ year ∧ year ≤ greatestYear ∧ 1 ≤ ordinal ∧ ordinal ≤ daysInYear year then
    some (ofNumber (daysBeforeYear year + ordinal))
  else none

/-- The number of the Monday of a year's first week, the week that holds 4 January. -/
def firstMonday (year : Nat) : Nat :=
  let fourth : Date := { year, month := 1, day := 4 }
  fourth.number - fourth.weekday

/-- The number of a day of a week, both counted from 1. -/
def weekDayNumber (year week day : Nat) : Nat := firstMonday year + 7 * (week - 1) + (day - 1)

/-- Weeks of a year that starts on a Thursday, or on a Wednesday if it is a leap year, number 53. -/
def hasLongCount (year : Nat) : Bool :=
  let first : Date := { year, month := 1, day := 1 }
  first.weekday == 3 || (first.weekday == 2 && isLeap year)

def ofNumber? (number : Nat) : Except DateFault Date :=
  if number ≤ lastNumber then .ok (ofNumber number) else .error .outOfRange

def orMalformed : Option Date → Except DateFault Date
  | some d => .ok d
  | none => .error .malformed

end Date

end Lending
