import Lending.Json.Agreement

/-! # Criteria

What a circulation rule looks at, and the attributes of a request that it is held against.
-/

namespace Lending

inductive Attribute where
  | loanType
  | location
  | campus
  | library
  | institution
  | materialType
  | patronGroup
deriving DecidableEq, Repr, Inhabited

namespace Attribute

/-- All attributes, in the order of priority where a table names none. -/
def all : List Attribute :=
  [loanType, location, campus, library, institution, materialType, patronGroup]

def letter : Attribute → Char
  | loanType => 't'
  | location => 's'
  | campus => 'c'
  | library => 'b'
  | institution => 'a'
  | materialType => 'm'
  | patronGroup => 'g'

def label : Attribute → String
  | loanType => "loan-type"
  | location => "shelving-location"
  | campus => "campus"
  | library => "library"
  | institution => "institution"
  | materialType => "material-type"
  | patronGroup => "patron-group"

def ofLetter? (token : Text) : Option Attribute := all.find? fun a => token = .ofChars [a.letter]

end Attribute

/-- The attributes of an item and a patron, as their records give them; null where there is none. -/
structure MatchCriteria where
  loanType : Json := .null
  location : Json := .null
  materialType : Json := .null
  patronGroup : Json := .null
  campus : Json := .null
  library : Json := .null
  institution : Json := .null
deriving DecidableEq, Repr, Inhabited

def MatchCriteria.value (c : MatchCriteria) : Attribute → Json
  | .loanType => c.loanType
  | .location => c.location
  | .campus => c.campus
  | .library => c.library
  | .institution => c.institution
  | .materialType => c.materialType
  | .patronGroup => c.patronGroup

/-- One letter of a rule with the values it accepts. -/
structure Criterion where
  subject : Attribute
  values : List Json
deriving DecidableEq, Repr, Inhabited

namespace Criterion

def wildcards : List Json := [.str "all", .str "*"]

def isWildcard (c : Criterion) : Bool := c.values.any (wildcards.contains ·)

def lists (c : Criterion) (v : Json) : Bool := c.values.any (·.agrees v)

def accepts (c : Criterion) (request : MatchCriteria) : Bool :=
  c.isWildcard || c.lists (request.value c.subject)

end Criterion

end Lending
