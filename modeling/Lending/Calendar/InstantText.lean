import Lending.Calendar.Instant
import Lending.Json.Basic

/-! # Instant texts

Reading instants: dates of every form with a time of day and an offset. A text without an offset is
in universal time.
-/

namespace Lending.Instant

open Text (fixedDigits?)

/-- A time of day as it is written, with the offset in minutes if one follows. -/
structure WrittenTime where
  hour : Nat := 0
  minute : Nat := 0
  second : Nat := 0
  micro : Nat := 0
  offset : Option Int := none
deriving DecidableEq, Repr

def startsOffset (c : Char) : Bool := c == '+' || c == '-' || c == 'Z' || c == 'z'

/-- Hours and minutes of an offset: `HH`, `HHMM` or `HH:MM`. -/
def offsetDigits? (cs : List Char) : Option Nat := do
  let (hours, cs) ← fixedDigits? 2 cs
  let minutes ← match cs with
    | [] => some 0
    | ':' :: cs => match fixedDigits? 2 cs with
      | some (m, []) => some m
      | _ => none
    | cs => match fixedDigits? 2 cs with
      | some (m, []) => some m
      | _ => none
  if hours ≤ 23 ∧ minutes ≤ 59 then some (hours * 60 + minutes) else none

def offset? : List Char → Option (Option Int)
  | [] => some none
  | ['Z'] | ['z'] => some (some 0)
  | '+' :: cs => (offsetDigits? cs).map fun m => some (m : Int)
  | '-' :: cs => (offsetDigits? cs).map fun m => some (-(m : Int))
  | _ => none

def fractionMicros (ds : List Char) : Nat := Text.millionths (ds.filterMap Text.asciiDigit?)

def fraction (cs : List Char) : Nat × List Char :=
  match cs with
  | c :: rest =>
    let ds := rest.takeWhile Char.isDigit
    if (c = '.' ∨ c = ',') ∧ !ds.isEmpty then (fractionMicros ds, rest.dropWhile Char.isDigit)
    else (0, cs)
  | [] => (0, [])

def clockEnds : List Char → Bool
  | [] => true
  | c :: _ => startsOffset c

def afterHour? (t : WrittenTime) (cs : List Char) : Option (WrittenTime × List Char) := do
  let (colons, cs) := match cs with
    | ':' :: cs => (true, cs)
    | cs => (false, cs)
  let (minute, cs) ← fixedDigits? 2 cs
  if clockEnds cs then return ({ t with minute }, cs) else
    let cs ← if colons then Text.dropChar? ':' cs else some cs
    let (second, cs) ← fixedDigits? 2 cs
    let (micro, cs) := fraction cs
    return ({ t with minute, second, micro }, cs)

def clock? (cs : List Char) : Option (WrittenTime × List Char) :=
  if clockEnds cs then some ({}, cs) else do
    let (hour, cs) ← fixedDigits? 2 cs
    if clockEnds cs then return ({ hour }, cs) else afterHour? { hour } cs

def time? (cs : List Char) : Option WrittenTime :=
  if cs.length < 2 then none else do
    let (t, rest) ← clock? cs
    let offset ← offset? rest
    return { t with offset }

/-- Midnight at the end of a day may be written as hour 24. -/
def WrittenTime.isMidnightAfter (t : WrittenTime) : Bool :=
  t.hour == 24 && t.minute == 0 && t.second == 0 && t.micro == 0

def WrittenTime.zone (t : WrittenTime) : Zone :=
  match t.offset with
  | none => .utc
  | some m => if m = 0 then .utc else .fixed m

def ofWritten (date : Date) (t : WrittenTime) : Except DateFault Instant :=
  if t.isMidnightAfter then
    (Date.ofNumber? (date.number + 1)).map fun next =>
      { wall := { date := next, micros := 0 }, zone := t.zone }
  else if t.hour ≤ 23 ∧ t.minute ≤ 59 ∧ t.second ≤ 59 then
    let micros := WallTime.clock t.hour t.minute t.second t.micro
    .ok { wall := { date, micros }, zone := t.zone }
  else .error .malformed

/-- A date, and after any one character a time of day. -/
def ofChars (cs : List Char) : Except DateFault Instant :=
  if cs.all fun c => c.toNat < 128 then
    match Date.written? cs with
    | none => .error .malformed
    | some (written, rest) =>
      match rest with
      | [] => do ofWritten (← written.date) {}
      | _ :: rest => do
        match written, time? rest with
        | .week .., none =>
          let _ ← written.date
          .error .malformed
        | _, none => .error .malformed
        | _, some t => ofWritten (← written.date) t
  else .error .malformed

end Lending.Instant
