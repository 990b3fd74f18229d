import Lending.Json.Access
import Lending.Json.Agreement
import Lending.Service.Checked
import Lending.Service.Timestamp

/-! # Requests

What the service is asked, and the values that are read from the query and the body.
-/

namespace Lending

structure Request where
  method : String
  path : String
  query : List (Text × Text) := []
  headers : List (String × String) := []
  body : Option Json := none
deriving DecidableEq, Repr, Inhabited

namespace Request

/-- A letter of a method in capitals: the long s and its ligatures with t are letters too. -/
def capital (c : Char) : List Char :=
  if c = '\u017f' then ['S']
  else if c = '\ufb05' ∨ c = '\ufb06' then ['S', 'T']
  else [c.toUpper]

/-- A method in capitals; a text that is not whole names none. -/
def capitals (method : Text) : String :=
  String.ofList ((method.chars?.getD []).flatMap capital)

/-- The value of a header; the case of its name does not matter. -/
def header? (r : Request) (name : String) : Option String :=
  (r.headers.find? fun h => h.1.toLower = name.toLower).map (·.2)

def idHeader : String := "X-Okapi-Request-Id"

/-- The id that the asker gave the request; an empty one is none. -/
def givenId? (r : Request) : Option String := (r.header? idHeader).filter (· ≠ "")

/-- A parameter of the query; the last one of its name counts. -/
def param (r : Request) (name : String) : Checked Text :=
  Checked.ofOption (.query name) ((r.query.reverse.find? fun p => p.1 = .ofString name).map (·.2))

def typeHeader : String := "Content-Type"

/-- Does a content type name JSON? What follows a semicolon is not part of the type, and a type has
two names with a slash between them. -/
def isJsonType (contentType : String) : Bool :=
  let type := Text.strip (Text.cutAt (· == ';') contentType.toList).1
  match Text.pieces (· == '/') (type.map Char.toLower) with
  | [family, name] =>
    family == "application".toList && (name == "json".toList || "+json".toList.isSuffixOf name)
  | _ => false

/-- Is the body given as JSON? It is where the request does not say. -/
def bodyIsJson (r : Request) : Bool := (r.header? typeHeader).all isJsonType

def members (r : Request) : Checked (List (Text × Json)) :=
  match r.body with
  | some (.obj members) => if r.bodyIsJson then .fit members else .misfit [.body]
  | _ => .misfit [.body]

def read (r : Request) (f : List (Text × Json) → Checked α) : Checked α :=
  match r.members with
  | .fit members => f members
  | .misfit places => .misfit places

end Request

/-! ## Members of a body -/

namespace Member

def check (members : List (Text × Json)) (name : String) (f : Option Json → Option α) :
    Checked α :=
  Checked.ofOption (.member name) (f (Json.find name members))

def text? : Option Json → Option Text
  | some (.str s) => some s
  | _ => none

def instant? : Option Json → Option Instant
  | some (.str s) => s.chars?.bind Timestamp.ofChars?
  | some (.int n) => Timestamp.ofInt? n
  | some (.real x) => Timestamp.ofDouble? x
  | _ => none

def ifAny? (f : Option Json → Option α) : Option Json → Option (Option α)
  | none | some .null => some none
  | v => (f v).map some

def flagWords : List (String × Bool) :=
  [("1", true), ("t", true), ("y", true), ("on", true), ("yes", true), ("true", true),
   ("0", false), ("f", false), ("n", false), ("no", false), ("off", false), ("false", false)]

/-- A truth value, a word for one, or a number that is one or zero; false where it is left out. -/
def flag? : Option Json → Option Bool
  | none => some false
  | some (.bool b) => some b
  | some (.str s) => s.string?.bind fun s => flagWords.lookup s.toLower
  | some v =>
    if v.agrees (.int 1) then some true
    else if v.agrees (.int 0) then some false
    else none

def text (members : List (Text × Json)) (name : String) : Checked Text :=
  check members name text?

def id (members : List (Text × Json)) (name : String) : Checked Text :=
  check members name fun v => (text? v).filter (· ≠ "")

def instant (members : List (Text × Json)) (name : String) : Checked Instant :=
  check members name instant?

def instantIfAny (members : List (Text × Json)) (name : String) : Checked (Option Instant) :=
  check members name (ifAny? instant?)

def textIfAny (members : List (Text × Json)) (name : String) : Checked (Option Text) :=
  check members name (ifAny? text?)

def flag (members : List (Text × Json)) (name : String) : Checked Bool := check members name flag?

end Member

end Lending
