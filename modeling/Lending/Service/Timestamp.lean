import Lending.Calendar.Instant
import Lending.Text.Blank

/-! # Timestamps

The instants of a request: a date alone, for its midnight, or a date and a time of day, with an
offset unless they are in universal time. A number counts the seconds, or if it is great the
milliseconds, since the beginning of 1970.
-/

namespace Lending.Timestamp

open Text (fixedDigits? dropChar?)

def date? (cs : List Char) : Option (Date × List Char) := do
  let (year, cs) ← fixedDigits? 4 cs
  let (month, cs) ← fixedDigits? 2 (← dropChar? '-' cs)
  let (day, cs) ← fixedDigits? 2 (← dropChar? '-' cs)
  return (← Date.make? year month day, cs)

/-- Digits after a point or a comma, cut to microseconds. -/
def fraction? : List Char → Option (Nat × List Char)
  | [] => some (0, [])
  | c :: cs =>
    let ds := cs.takeWhile Char.isDigit
    if c ≠ '.' ∧ c ≠ ',' then some (0, c :: cs)
    else if ds.isEmpty then none
    else some (Text.millionths (ds.filterMap Text.asciiDigit?), cs.dropWhile Char.isDigit)

def seconds? : List Char → Option (Nat × Nat × List Char)
  | ':' :: cs => do
    let (second, cs) ← fixedDigits? 2 cs
    let (micro, cs) ← fraction? cs
    return (second, micro, cs)
  | cs => some (0, 0, cs)

def clock? (cs : List Char) : Option (Nat × List Char) := do
  let (hour, cs) ← fixedDigits? 2 cs
  let (minute, cs) ← fixedDigits? 2 (← dropChar? ':' cs)
  let (second, micro, cs) ← seconds? cs
  if hour ≤ 23 ∧ minute ≤ 59 ∧ second ≤ 59 then some (WallTime.clock hour minute second micro, cs)
  else none

def offsetMinutes? (cs : List Char) : Option Nat := do
  let (hours, cs) ← fixedDigits? 2 cs
  let cs := match cs with
    | ':' :: cs => cs
    | cs => cs
  let (minutes, cs) ← fixedDigits? 2 cs
  if cs.isEmpty ∧ hours ≤ 23 ∧ minutes ≤ 59 then some (hours * 60 + minutes) else none

def zoneOf (minutes : Int) : Zone := if minutes = 0 then .utc else .fixed minutes

def zone? : List Char → Option Zone
  | [] | ['Z'] | ['z'] => some .utc
  | '+' :: cs => (offsetMinutes? cs).map fun m => zoneOf m
  | '-' :: cs | '\u2212' :: cs => (offsetMinutes? cs).map fun m => zoneOf (-m)
  | _ => none

def isSeparator (c : Char) : Bool := c == 'T' || c == 't' || c == ' ' || c == '_'

def written? (cs : List Char) : Option Instant := do
  let (date, cs) ← date? cs
  match cs with
  | [] => return { wall := { date, micros := 0 }, zone := .utc }
  | c :: cs =>
    if isSeparator c then
      let (micros, cs) ← clock? cs
      return { wall := { date, micros }, zone := ← zone? cs }
    else none

/-! ## Numbers -/

def greatestSeconds : Nat := 20000000000

def microsPerMilli : Nat := 1000

/-- The microseconds that the calendar counts up to the beginning of 1970. -/
def epoch : Int := ({ date := ⟨1970, 1, 1⟩, micros := 0 } : WallTime).total

/-- The instant some microseconds after the beginning of 1970. The first day of the calendar has the
number one. -/
def afterEpoch? (micros : Int) : Option Instant := do
  let total := epoch + micros
  if total < WallTime.microsPerDay then none else
    let date ← (Date.ofNumber? (total.toNat / WallTime.microsPerDay)).toOption
    return { wall := { date, micros := total.toNat % WallTime.microsPerDay }, zone := .utc }

def unitOf (n : Int) (d : Nat) : Nat :=
  if greatestSeconds * d < n.natAbs then microsPerMilli else WallTime.microsPerSecond

def ofInt? (n : Int) : Option Instant := afterEpoch? (n * unitOf n 1)

/-- A double counts up from the whole number below it. What is left over is held as a double, and so
is what it makes in microseconds. -/
def ofDouble? (x : Double) : Option Instant := do
  let (n, d) ← x.ratio?
  let unit := unitOf n d
  let (p, q) ← (Double.ofRatio false (n % d).toNat d).ratio?
  let (p, q) ← (Double.ofRatio false (p.toNat * unit) q).ratio?
  afterEpoch? (n / d * unit + roundHalfUp p.toNat q)

def power? : List Char → Option Int
  | [] => some 0
  | e :: cs =>
    if e ≠ 'e' ∧ e ≠ 'E' then none else do
      let (negative, ds) := Text.cutSign cs
      let n ← Text.nat? ds
      return if negative then -(n : Int) else n

/-- Digits with a sign where there is one. With a point, before or after which there are digits,
they write a double. -/
def ofNumeral? (cs : List Char) : Option Instant := do
  let (negative, cs) := Text.cutSign cs
  match Text.cutAt (· == '.') cs with
  | (whole, none) => do
    let n ← Text.nat? whole
    ofInt? (if negative then -(n : Int) else n)
  | (whole, some rest) => do
    let places := rest.takeWhile Char.isDigit
    let n ← Text.nat? (whole ++ places)
    let power ← power? (rest.dropWhile Char.isDigit)
    ofDouble? (.ofDecimal negative n (power - places.length))

def ofChars? (cs : List Char) : Option Instant := written? cs <|> ofNumeral? cs

end Lending.Timestamp
