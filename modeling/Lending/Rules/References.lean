import Lending.Reply
import Lending.Rules.Table

/-! # References of a rule table

A check, before a table is put to use, that every policy it names exists.
-/

namespace Lending.RuleTable

/-- Each kind and id that the table names, once, in the order of the first line that names it. -/
def namedPolicies (t : RuleTable) : List (PolicyKind × Json) :=
  (t.references.map fun r => (r.kind, r.id)).foldl
    (fun seen p => if seen.contains p then seen else seen ++ [p]) []

/-- Ask for every policy that the table names; the first that does not exist is the failure. -/
def checkReferences (t : RuleTable) (policyExists : PolicyKind → Json → Reply Bool) :
    Reply Unit := do
  let named := t.namedPolicies
  let found ← Reply.all (named.map fun p => policyExists p.1 p.2)
  match (named.zip found).find? (!·.2) with
  | some ((kind, id), _) => Reply.fail (.refused (.policyNotFound kind id))
  | none => return ()

end Lending.RuleTable
