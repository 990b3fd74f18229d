import Lending.Failure
import Lending.Rules.Criterion

/-! # Items and patrons

The records that circulation rules are applied to. Ids and attributes are as their records give
them.
-/

namespace Lending

structure Location where
  id : Json
  name : Json := .null
  campus : Json := .null
  library : Json := .null
  institution : Json := .null
  primaryServicePoint : Json := .null
deriving DecidableEq, Repr, Inhabited

structure Item where
  id : Json
  materialType : Json := .null
  permanentLoanType : Json := .null
  temporaryLoanType : Json := .null
  holdingsRecord : Json := .null
  location : Option Location := none
  found : Bool := true
deriving DecidableEq, Repr, Inhabited

structure Patron where
  id : Json
  patronGroup : Json
deriving DecidableEq, Repr, Inhabited

namespace Item

def notFound (id : Json) : Item := { id, found := false }

/-- A temporary loan type takes the place of the permanent one. -/
def loanType (i : Item) : Json :=
  if i.temporaryLoanType.counts then i.temporaryLoanType else i.permanentLoanType

/-- What rules look at; refused for an item that is not found or has no holding or no location. -/
def criteria (i : Item) (patron : Patron) : Result MatchCriteria :=
  if !i.found then .error (.unapplied .unknownItem)
  else if !i.holdingsRecord.counts then .error (.unapplied .unknownHolding)
  else match i.location with
    | none => .error (.unapplied .unknownLocation)
    | some l => .ok {
        loanType := i.loanType
        location := l.id
        materialType := i.materialType
        patronGroup := patron.patronGroup
        campus := l.campus
        library := l.library
        institution := l.institution }

end Item

end Lending
