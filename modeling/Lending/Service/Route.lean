import Lending.Text.Blank

/-! # Routes

The paths that the service knows, and the methods that each of them answers to.
-/

namespace Lending

/-- What a path asks for. Pages are about the service itself. -/
inductive Route where
  | health
  | appliedRule (kind : String)
  | rulesCheck
  | policy (kind : String)
  | dueDate
  | overdue
  | metrics
  | page
deriving DecidableEq, Repr

namespace Route

/-- The methods of a route; only pages can be asked for their head alone. -/
def methods : Route → List String
  | health | appliedRule _ | policy _ | metrics => ["GET"]
  | rulesCheck | dueDate | overdue => ["POST"]
  | page => ["GET", "HEAD"]

/-- What stands before `-policy` in a name that ends so. -/
def kindOf? (name : List Char) : Option String :=
  let ending := "-policy".toList
  if ending.isSuffixOf name ∧ ending.length < name.length then
    some (String.ofList (name.take (name.length - ending.length)))
  else none

def withoutLineFeed (cs : List Char) : List Char :=
  if cs.getLast? = some '\n' then cs.dropLast else cs

def ofNames? : List String → Option Route
  | ["", "health"] => some health
  | ["", "metrics"] => some metrics
  | ["", "docs"] | ["", "docs", "oauth2-redirect"] | ["", "redoc"] | ["", "openapi.json"] =>
    some page
  | ["", "v1", "circulation", "rules", "validate"] => some rulesCheck
  | ["", "v1", "circulation", "rules", name] => (kindOf? name.toList).map appliedRule
  | ["", "v1", "policies", kind] => if kind = "" then none else some (policy kind)
  | ["", "v1", "loans", "due-date"] => some dueDate
  | ["", "v1", "loans", "overdue"] => some overdue
  | _ => none

/-- The route of a path. A line feed at its end does not count, unless it ends the kind of a policy.
-/
def ofPath? (path : List Char) : Option Route :=
  let names := fun cs => (Text.pieces (· == '/') cs).map String.ofList
  match ofNames? (names path) with
  | some (policy kind) => some (policy kind)
  | _ => match ofNames? (names (withoutLineFeed path)) with
    | some (policy _) => none
    | route => route

def isMoved (path : List Char) : Bool :=
  path.getLast? == some '/' && (ofPath? (path.reverse.dropWhile (· == '/')).reverse).isSome

end Route

end Lending
