import Lending.Calendar.Zone
import Lending.Text.Utf8

/-! # Times of day

The hours a service point keeps, read from their texts and written back.
-/

namespace Lending

/-- A clock reading; the offset, if there is one, counts microseconds. -/
structure TimeOfDay where
  hour : Nat
  minute : Nat
  second : Nat
  micro : Nat
  offset : Option Int
deriving DecidableEq, Repr, Inhabited

namespace TimeOfDay

open Text (fixedDigits?)

/-- Hours, minutes, seconds and microseconds as written, and whether anything was left over. -/
structure Parts where
  values : List Nat
  micros : Nat := 0
  leftOver : Bool := false
deriving DecidableEq, Repr

/-- A text ends at its end or at a zero byte. -/
def endsHere : List Char → Bool
  | [] => true
  | c :: _ => c == '\x00'

/-- At most the first six digits count, and more may follow them. -/
def fraction? (values : List Nat) (cs : List Char) : Option Parts := do
  let ds ← (cs.take 6).mapM Text.asciiDigit?
  let rest := (cs.drop 6).dropWhile Char.isDigit
  return { values, micros := Text.millionths ds, leftOver := !endsHere rest }

/-- Two digits each for at most `left` parts, all or none of them set apart by colons, then a
fraction. A single character may be left over. -/
def parts? (colons : Option Bool) (values : List Nat) : Nat → List Char → Option Parts
  | 0, cs => fraction? values cs
  | left + 1, cs => do
    let (v, cs) ← fixedDigits? 2 cs
    let values := values ++ [v]
    match cs with
    | [] => return { values }
    | [c] => return { values, leftOver := !endsHere [c] }
    | c :: rest =>
      let apart := colons.getD (c == ':')
      if apart && c == ':' then parts? (some apart) values left rest
      else if c = '.' ∨ c = ',' then fraction? values rest
      else if apart then none
      else parts? (some apart) values left cs

def Parts.value (p : Parts) (i : Nat) : Nat := p.values.getD i 0

/-- An offset as written after its sign, in microseconds, below one day. -/
def offset? (negative : Bool) (cs : List Char) : Option Int := do
  let p ← parts? none [] 3 cs
  if p.leftOver then none else
    let seconds := (p.value 0 * 60 + p.value 1) * 60 + p.value 2
    let micros := if seconds = 0 then 0 else seconds * WallTime.microsPerSecond + p.micros
    if micros < WallTime.microsPerDay then some (if negative then -(micros : Int) else micros)
    else none

def startsOffset (c : Char) : Bool := c == '+' || c == '-' || c == 'Z'

def ofParts? (p : Parts) (offset : Option Int) : Option TimeOfDay :=
  if p.value 0 ≤ 23 ∧ p.value 1 ≤ 59 ∧ p.value 2 ≤ 59 then
    some { hour := p.value 0, minute := p.value 1, second := p.value 2, micro := p.micros, offset }
  else none

/-- A time of day, with or without a `T` in front; nothing may be left over where no offset follows.
-/
def ofBytes? (cs : List Char) : Option TimeOfDay := do
  let cs := match cs with
    | 'T' :: cs => cs
    | cs => cs
  let p ← parts? none [] 3 (cs.takeWhile (!startsOffset ·))
  match cs.dropWhile (!startsOffset ·) with
  | [] => if p.leftOver then none else ofParts? p none
  | 'Z' :: rest => if endsHere rest then ofParts? p (some 0) else none
  | '+' :: cs => do ofParts? p (some (← offset? false cs))
  | '-' :: cs => do ofParts? p (some (← offset? true cs))
  | _ => none

def ofText? (cs : List Char) : Option TimeOfDay :=
  ofBytes? ((Text.Utf8.encode cs).map Char.ofNat)

def clockText (hour minute second micro : Nat) : String :=
  Text.padded 2 hour ++ ":" ++ Text.padded 2 minute ++ ":" ++ Text.padded 2 second ++
    (if micro = 0 then "" else "." ++ Text.padded 6 micro)

def signText (micros : Int) : String := if micros < 0 then "-" else "+"

def hoursText (minutes : Nat) : String :=
  Text.padded 2 (minutes / 60) ++ ":" ++ Text.padded 2 (minutes % 60)

/-- An offset as hours and minutes, with seconds and microseconds where there are any. -/
def offsetText (micros : Int) : String :=
  let n := micros.natAbs
  let minutes := n / WallTime.microsPerMinute
  signText micros ++ if n % WallTime.microsPerMinute = 0 then hoursText minutes else
    clockText (minutes / 60) (minutes % 60) (n / WallTime.microsPerSecond % 60)
      (n % WallTime.microsPerSecond)

def text (t : TimeOfDay) : String :=
  clockText t.hour t.minute t.second t.micro ++
    match t.offset with
    | none => ""
    | some m => offsetText m

def minutes (t : TimeOfDay) : Nat := t.hour * 60 + t.minute

end TimeOfDay

end Lending
