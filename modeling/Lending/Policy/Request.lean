import Lending.Json.Access
import Lending.Json.Agreement

/-! # Request policies

The types of request that a borrower may make.
-/

namespace Lending

structure RequestPolicy where
  id : Json
  name : Json
  requestTypes : List Json
deriving DecidableEq, Repr, Inhabited

namespace RequestPolicy

def ofJson (v : Json) : Result RequestPolicy := do
  let id ← v.required "id"
  let name ← v.memberD "name" (.str "")
  let requestTypes ← (← v.memberD "requestTypes" (.arr [])).items
  return { id, name, requestTypes }

def allows (p : RequestPolicy) (requestType : Json) : Bool :=
  p.requestTypes.any fun t => t.agrees requestType

end RequestPolicy

end Lending
