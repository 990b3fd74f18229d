import Lending.Failure

/-! # Writing values for others

What is wrong with a value that is to be sent: JSON has no text for a double that is not finite, and
no bytes can be written for a lone half of a surrogate pair.
-/

namespace Lending.Json

mutual

/-- Does a value or one within it satisfy `p`? The name of a member counts as a string. -/
def has (p : Json → Bool) : Json → Bool
  | arr items => p (arr items) || hasItem p items
  | obj members => p (obj members) || hasMember p members
  | v => p v

def hasItem (p : Json → Bool) : List Json → Bool
  | [] => false
  | v :: vs => has p v || hasItem p vs

def hasMember (p : Json → Bool) : List (Text × Json) → Bool
  | [] => false
  | (name, v) :: ms => p (str name) || has p v || hasMember p ms

end

def isUnbounded : Json → Bool
  | real x => x.ratio?.isNone
  | _ => false

def isBroken : Json → Bool
  | str s => !s.isWhole
  | _ => false

def writingFault? (v : Json) : Option DataFault :=
  if v.has isUnbounded then some .malformed
  else if v.has isBroken then some .unencodable
  else none

end Lending.Json
