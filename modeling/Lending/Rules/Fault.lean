import Lending.Policy.Kind

/-! # Faults of a rules text

What can be wrong with a table of circulation rules, and where.
-/

namespace Lending

inductive RulesFault where
  | tab (column : Nat)
  | unknownCriterion (letter : Text)
  | emptyCriterion
  | criterionWithoutValues (letter : Text)
  | colonMissing
  | unknownPolicyLetter (letter : Text)
  | repeatedPolicyLetter (letter : Text)
  | policyIdMissing (letter : Text)
  | noPolicies
  | repeatedFallback
  | fallbackWithout (kind : PolicyKind)
  | fallbackMissing
deriving DecidableEq, Repr

def RulesFault.message : RulesFault → Text
  | .tab _ => "Tab character found, use spaces for indentation"
  | .unknownCriterion letter => "Unknown criterium type " ++ letter
  | .emptyCriterion => "Empty criterium before '+' or ':'"
  | .criterionWithoutValues letter => "Criterium " ++ letter ++ " has no values"
  | .colonMissing => "Expected ':' after the rule criteria"
  | .unknownPolicyLetter letter => "Unknown policy type " ++ letter
  | .repeatedPolicyLetter letter => "Policy type " ++ letter ++ " is given more than once"
  | .policyIdMissing letter => "Policy id for type " ++ letter ++ " is missing"
  | .noPolicies => "A rule must name at least one policy"
  | .repeatedFallback => "Only one fallback-policy line is allowed"
  | .fallbackWithout kind => s!"fallback-policy must name a {kind.lowerLabel} policy"
  | .fallbackMissing => "Must contain one fallback-policy line"

def RulesFault.column : RulesFault → Option Nat
  | .tab column => some column
  | _ => none

/-- A fault with the line it is on; a fault of the whole text has none. -/
structure RulesError where
  fault : RulesFault
  line : Option Int
deriving DecidableEq, Repr

end Lending
