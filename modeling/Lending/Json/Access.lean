import Lending.Failure

/-! # Reading records

Members and items of a value that is expected to be an object or a list.
-/

namespace Lending.Json

def find (name : Text) (members : List (Text × Json)) : Option Json :=
  (members.find? fun m => m.1 = name).map (·.2)

def members : Json → Result (List (Text × Json))
  | obj members => .ok members
  | _ => .error .wrongType

def memberD (v : Json) (name : Text) (absent : Json) : Result Json := do
  return (find name (← v.members)).getD absent

/-- A member of an object; null where it has none of that name. -/
def member (v : Json) (name : Text) : Result Json := v.memberD name null

def required (v : Json) (name : Text) : Result Json := do
  Result.orFail .memberMissing (find name (← v.members))

/-- A value that counts, else an empty object. -/
def orEmpty (v : Json) : Json := if v.counts then v else obj []

/-- The items of a list; a string has its characters as items and an object its names. -/
def items : Json → Result (List Json)
  | arr items => .ok items
  | str s => .ok (s.toList.map fun c => str (.ofList [c]))
  | obj members => .ok (members.map fun m => str m.1)
  | _ => .error .wrongType

/-- A value that counts as text; `none` for one that does not count. -/
def textIfAny (v : Json) : Result (Option Text) :=
  if v.counts then
    match v with
    | str s => .ok (some s)
    | _ => .error .wrongType
  else .ok none

end Lending.Json
