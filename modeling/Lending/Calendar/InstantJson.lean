import Lending.Calendar.InstantText
import Lending.Calendar.TimeOfDay
import Lending.Json.Access

/-! # Instants and times in records

A value that does not count stands for no instant and no time.
-/

namespace Lending

def Json.size? : Json → Option Nat
  | .arr items => some items.length
  | .obj members => some members.length
  | _ => none

/-- A list or an object that is shorter than every instant text is malformed like a text. -/
def Instant.ofJson (v : Json) : Result (Option Instant) :=
  if v.size?.any fun n => 0 < n && n < 4 then Result.fail .malformed else do
    match ← v.textIfAny with
    | none => return none
    | some s =>
      let cs ← Result.orFail .malformed s.chars?
      return some (← Result.ofDate (Instant.ofChars cs))

def TimeOfDay.ofJson (v : Json) : Result (Option TimeOfDay) := do
  match ← v.textIfAny with
  | none => return none
  | some s => return some (← Result.orFail .malformed (s.chars?.bind TimeOfDay.ofText?))

/-- The day of a record; what follows its first ten characters does not count. -/
def Date.ofJson (v : Json) : Result (Option Date) := do
  match ← v.textIfAny with
  | none => return none
  | some s =>
    let date := (Text.charsOf? (s.toList.take 10)).bind Date.ofText?
    return some (← Result.orFail .malformed date)

end Lending
