import Lending.Failure
import Lending.Rules.Table

/-! # Applying a rule table

A table is applied to attributes as their records give them. A list or an object cannot be held
against the values of a criterion: coming to one before the policy is found is a fault.
-/

namespace Lending

def Criterion.stops (c : Criterion) (request : MatchCriteria) : Bool :=
  !c.isWildcard && !(request.value c.subject).isPlain

namespace Rule

/-- Do criteria, tried in order up to the first that does not accept, come to one that stops? -/
def criteriaStop (request : MatchCriteria) : List Criterion → Bool
  | [] => false
  | c :: cs => c.stops request || (c.accepts request && criteriaStop request cs)

/-- Only a rule that names a policy of the kind is tried. -/
def stops (r : Rule) (kind : PolicyKind) (request : MatchCriteria) : Bool :=
  (r.policies.countingIdFor kind).isSome && criteriaStop request r.criteria

end Rule

namespace RuleTable

def rulesStop (kind : PolicyKind) (request : MatchCriteria) : List Rule → Bool
  | [] => false
  | r :: rs => r.stops kind request || ((r.idFor kind request).isNone && rulesStop kind request rs)

def applyTo (t : RuleTable) (kind : PolicyKind) (request : MatchCriteria) : Result AppliedRule :=
  if rulesStop kind request t.rules then .error .wrongType else .ok (t.apply kind request)

def applyAllTo (t : RuleTable) (request : MatchCriteria) : Result (List AppliedRule) :=
  if PolicyKind.all.any (rulesStop · request t.rules) then .error .wrongType
  else .ok (t.applyAll request)

end RuleTable

end Lending
