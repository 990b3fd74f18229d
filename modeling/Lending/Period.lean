import Lending.Calendar.Instant
import Lending.Json.Access

/-! # Periods

Quantities of minutes, hours, days, weeks or months. A period whose unit is not recognised lasts no
time at all.
-/

namespace Lending

inductive IntervalUnit where
  | minutes
  | hours
  | days
  | weeks
  | months
deriving DecidableEq, Repr, Inhabited

namespace IntervalUnit

def all : List IntervalUnit := [minutes, hours, days, weeks, months]

def name : IntervalUnit → String
  | minutes => "Minutes"
  | hours => "Hours"
  | days => "Days"
  | weeks => "Weeks"
  | months => "Months"

def lowerName : IntervalUnit → String
  | minutes => "minutes"
  | hours => "hours"
  | days => "days"
  | weeks => "weeks"
  | months => "months"

/-- A month counts as the longest month. -/
def inMinutes : IntervalUnit → Nat
  | minutes => 1
  | hours => 60
  | days => 1440
  | weeks => 10080
  | months => 44640

/-- Lower case as far as it matters here: besides `A` to `Z` only the Kelvin sign has an ASCII
letter for its lower case. -/
def lowerChar (c : Char) : Char := if c = '\u212a' then 'k' else c.toLower

/-- An interval's text in lower case, without blanks around it, with an `s` at its end. -/
def normalForm (cs : List Char) : List Char :=
  let word := (Text.strip cs).map lowerChar
  if word.getLast? = some 's' then word else word ++ ['s']

def ofText? (text : Text) : Option IntervalUnit := do
  let word := normalForm (← text.chars?)
  all.find? fun u => word = u.lowerName.toList

def ofJson (v : Json) : Result (Option IntervalUnit) := do return (← v.textIfAny).bind ofText?

end IntervalUnit

structure Period where
  quantity : Nat
  unit : Option IntervalUnit
deriving DecidableEq, Repr, Inhabited

namespace Period

def make (quantity : Int) (unit : Option IntervalUnit) : Result Period :=
  if quantity < 0 then Result.fail (.negativePeriod quantity)
  else .ok { quantity := quantity.toNat, unit }

/-- The whole number that a record gives as a quantity; one that does not count is zero. -/
def quantityOf (v : Json) : Result Int :=
  if !v.counts then .ok 0 else
    match v with
    | .int n => .ok n
    | .bool _ => .ok 1
    | .real .nan => Result.fail .malformed
    | .real x => Result.orFail .outOfRange x.whole?
    | .str s => Result.orFail .malformed (s.chars?.bind (Text.int? ∘ Text.stripBy Text.isMargin))
    | _ => .error .wrongType

def ofValues (quantity interval : Json) : Result Period := do
  let n ← quantityOf quantity
  make n (← IntervalUnit.ofJson interval)

def ofJson (v : Json) : Result (Option Period) :=
  if !v.counts then .ok none else do
    let duration ← v.member "duration"
    return some (← ofValues duration (← v.member "intervalId"))

def isRecognised (p : Period) : Bool := p.unit.isSome

def toMinutes (p : Period) : Nat :=
  match p.unit with
  | some u => p.quantity * u.inMinutes
  | none => 0

/-- The instant after the period: months by the calendar, every other unit by its minutes. -/
def addTo (p : Period) (x : Instant) : Except DateFault Instant :=
  match p.unit with
  | none => .ok x
  | some .months => x.addMonths p.quantity
  | some _ => x.addMinutes p.toMinutes

def greatestDays : Nat := 999999999

/-- Why a period cannot be added where there is no instant. One that is not recognised can. -/
def undatedFault? (p : Period) : Option DataFault :=
  p.unit.map fun u =>
    if u ≠ .months ∧ greatestDays < p.toMinutes / IntervalUnit.days.inMinutes then .outOfRange
    else .wrongType

def addToIfAny (p : Period) : Option Instant → Result (Option Instant)
  | some x => Result.ofDate ((p.addTo x).map some)
  | none =>
    match p.undatedFault? with
    | some fault => Result.fail fault
    | none => .ok none

def textWith (p : Period) (quantity : Text) : Text :=
  quantity ++ " " ++ ((p.unit.map (·.name)).getD "unknown interval")

def text (p : Period) : Text := p.textWith (toString p.quantity)

end Period

end Lending
