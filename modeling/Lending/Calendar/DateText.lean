import Lending.Calendar.Date
import Lending.Text.Digit
import Lending.Text.Utf8

/-! # Date texts

Calendar, week and ordinal dates with four-digit years.
-/

namespace Lending.Date

open Text (fixedDigits?)

def text (d : Date) : String :=
  Text.padded 4 d.year ++ "-" ++ Text.padded 2 d.month ++ "-" ++ Text.padded 2 d.day

/-- A date as it is written, before anyone asks whether it exists. -/
inductive Written where
  | calendar (year month day : Nat)
  | week (year week day : Nat)
  | ordinal (year day : Nat)
deriving DecidableEq, Repr

/-- `YYYY` or `YYYY-MM` where the text ends there, otherwise `YYYY-MM-DD` or `YYYYMMDD`. -/
def calendarDate? (cs : List Char) : Option (Written × List Char) := do
  let (year, cs) ← fixedDigits? 4 cs
  match cs with
  | [] => return (.calendar year 1 1, [])
  | '-' :: cs =>
    let (month, cs) ← fixedDigits? 2 cs
    match cs with
    | [] => return (.calendar year month 1, [])
    | '-' :: cs =>
      let (day, cs) ← fixedDigits? 2 cs
      return (.calendar year month day, cs)
    | _ => none
  | cs =>
    let (month, cs) ← fixedDigits? 2 cs
    let (day, cs) ← fixedDigits? 2 cs
    return (.calendar year month day, cs)

/-- The day of a week date; Monday where the text has ended. -/
def weekDay? (dashed : Bool) (year week : Nat) : List Char → Option (Written × List Char)
  | [] => some (.week year week 1, [])
  | cs => do
    let cs ← if dashed then Text.dropChar? '-' cs else some cs
    let (day, cs) ← fixedDigits? 1 cs
    return (.week year week day, cs)

/-- `YYYY-Www-D` or `YYYY-DDD`, in both cases with all dashes or with none. -/
def otherDate? (cs : List Char) : Option (Written × List Char) := do
  let (year, cs) ← fixedDigits? 4 cs
  let (dashed, cs) := match cs with
    | '-' :: cs => (true, cs)
    | cs => (false, cs)
  match cs with
  | 'W' :: cs =>
    let (week, cs) ← fixedDigits? 2 cs
    weekDay? dashed year week cs
  | cs =>
    let (day, cs) ← fixedDigits? 3 cs
    return (.ordinal year day, cs)

/-- The date at the start of a text; a text that can be read as a calendar date is one. -/
def written? (cs : List Char) : Option (Written × List Char) :=
  calendarDate? cs <|> otherDate? cs

/-- The date that is written. The days of a 53rd week that a year does not have belong to the next.
-/
def Written.date : Written → Except DateFault Date
  | .calendar year month day => orMalformed (make? year month day)
  | .ordinal year day => orMalformed (ofOrdinal? year day)
  | .week year number day =>
    if leastYear ≤ year ∧ 1 ≤ number ∧ number ≤ 53 ∧ 1 ≤ day ∧ day ≤ 7 then
      ofNumber? (weekDayNumber year number day)
    else .error .malformed

/-- How many bytes a date text has in UTF-8; of ten, those after the date do not count. -/
def isLength (n : Nat) : Bool := n == 7 || n == 8 || n == 10

/-- `YYYY-MM-DD`, `YYYYMMDD`, `YYYY-Www-D` or `YYYYWwwD` at the start of a text, the day of a week
being optional where the text ends. -/
def dayAtStart? (cs : List Char) : Option Written := do
  let (year, cs) ← fixedDigits? 4 cs
  let (dashed, cs) := match cs with
    | '-' :: cs => (true, cs)
    | cs => (false, cs)
  match cs with
  | 'W' :: cs =>
    let (week, cs) ← fixedDigits? 2 cs
    return (← weekDay? dashed year week cs).1
  | cs =>
    let (month, cs) ← fixedDigits? 2 cs
    let (day, _) ← fixedDigits? 2 (← if dashed then Text.dropChar? '-' cs else some cs)
    return .calendar year month day

/-- The date of a text. A 53rd week has to be one that its year has. -/
def ofText? (cs : List Char) : Option Date := do
  let written ← if isLength (Text.Utf8.encode cs).length then dayAtStart? cs else none
  match written with
  | .week year 53 _ => if hasLongCount year then written.date.toOption else none
  | _ => written.date.toOption

end Lending.Date
