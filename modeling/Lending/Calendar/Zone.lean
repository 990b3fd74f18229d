import Lending.Calendar.Date
import Lending.Text.Digit

/-! # Zones

A zone gives each wall clock time its distance from universal time. What the distance is in a named
region comes from the time zone database, which is not fixed here.
-/

namespace Lending

/-- A date with the microseconds since its midnight. -/
structure WallTime where
  date : Date
  micros : Nat
deriving DecidableEq, Repr, Inhabited

namespace WallTime

def microsPerSecond : Nat := 1000000

def microsPerMinute : Nat := 60 * microsPerSecond

def microsPerDay : Nat := 1440 * microsPerMinute

def clock (hour minute second micro : Nat) : Nat :=
  ((hour * 60 + minute) * 60 + second) * microsPerSecond + micro

/-- Microseconds since the midnight before year 1. -/
def total (w : WallTime) : Nat := w.date.number * microsPerDay + w.micros

def hour (w : WallTime) : Nat := w.micros / (60 * microsPerMinute)

def minute (w : WallTime) : Nat := w.micros / microsPerMinute % 60

def second (w : WallTime) : Nat := w.micros / microsPerSecond % 60

def micro (w : WallTime) : Nat := w.micros % microsPerSecond

end WallTime

/-- What the time zone database knows: the names of regions, and the microseconds that each of them
is ahead of universal time at a wall clock time. -/
class ZoneData where
  knows : String → Bool
  offset : String → WallTime → Int

inductive Zone where
  | utc
  | fixed (minutes : Int)
  | region (name : String)
deriving DecidableEq, Repr, Inhabited

namespace Zone

def offset [ZoneData] (z : Zone) (w : WallTime) : Int :=
  match z with
  | utc => 0
  | fixed minutes => minutes * WallTime.microsPerMinute
  | region name => ZoneData.offset name w

def ofName? [ZoneData] (name : String) : Option Zone :=
  if ZoneData.knows name then some (region name) else none

/-- A zone less than a day ahead of universal time, or behind it, by its hours and minutes. -/
def ofOffset? : List Char → Option Zone
  | [sign, a, b, ':', c, d] => do
    let hours := Text.ofDigits [← Text.asciiDigit? a, ← Text.asciiDigit? b]
    let minutes := hours * 60 + Text.ofDigits [← Text.asciiDigit? c, ← Text.asciiDigit? d]
    if 1440 ≤ minutes then none
    else if sign = '+' then some (fixed minutes)
    else if sign = '-' then some (fixed (-minutes))
    else none
  | _ => none

def isOffset (cs : List Char) : Bool := cs.head? == some '+' || cs.head? == some '-'

end Zone

end Lending
