import Lending.Policy.Resolver
import Lending.Rules.Application

/-! # Catalogues

Policies and schedules held in memory, as a source to resolve policies from.
-/

namespace Lending

/-- Bodies of policies, or the failures that reading them ends in, and bodies of schedules. -/
structure Catalogue where
  policies : List ((PolicyKind × Json) × Result Json) := []
  schedules : List (Json × Json) := []

namespace Catalogue

def putPolicy (c : Catalogue) (kind : PolicyKind) (id : Json) (body : Result Json) : Catalogue :=
  { c with policies := ((kind, id), body) :: c.policies }

def putSchedule (c : Catalogue) (id body : Json) : Catalogue :=
  { c with schedules := (id, body) :: c.schedules }

/-- The body that was put last under an id that agrees; null where there is none. -/
def policy (c : Catalogue) (kind : PolicyKind) (id : Json) : Result Json :=
  ((c.policies.find? fun e => e.1.1 = kind && e.1.2.agrees id).map (·.2)).getD (.ok .null)

/-- The body of a schedule in the same way. A list or an object is no id. -/
def schedule (c : Catalogue) (id : Json) : Result Json :=
  if !id.isPlain then .error .wrongType
  else .ok (((c.schedules.find? fun e => e.1.agrees id).map (·.2)).getD .null)

def sources (c : Catalogue) (table : RuleTable) (zone : Zone) : Sources where
  applyRules kind request := .ofResult (table.applyTo kind request)
  fetchPolicy kind id := { events := [.policyRead kind id], answer := c.policy kind id }
  fetchSchedule id := { events := [.scheduleRead id], answer := c.schedule id }
  zone := zone

end Catalogue

end Lending
