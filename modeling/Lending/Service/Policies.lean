import Lending.Service.Basic

/-! # Policies in the service

The policy of one kind that applies to an item and a user.
-/

namespace Lending

structure PolicyQuestion where
  kind : PolicyKind
  item : Text
  user : Text
deriving DecidableEq, Repr

def PolicyQuestion.ofRequest (kind : String) (r : Request) : Checked PolicyQuestion :=
  PolicyQuestion.mk <$> Service.kindAsked kind <*> r.param "item_id" <*> r.param "user_id"

namespace Service

def policyFor (s : Service) (sources : Sources) (q : PolicyQuestion) :
    Reply (AppliedRule × Policy) := do
  let (item, patron) ← s.client.fetchItemAndPatron (.str q.item) (.str q.user)
  let applied ← sources.appliedRule q.kind item patron
  return (applied, ← (sources.lookupById q.kind applied.policyId).startingWith {})

def policyBody (kind : PolicyKind) (applied : AppliedRule) (policy : Policy) : Result Json := do
  let id ← textOf policy.id
  let name ← textOf policy.name
  let conditions ← applied.conditions.mapM textOf
  return .obj [("policy_type", .str kind.name), ("policy_id", id), ("name", name),
    ("conditions", .arr conditions)]

def policy (s : Service) (requestId : String) (asked : Checked PolicyQuestion) : Reply Outcome :=
  s.withSources asked fun sources q => do
    let (applied, policy) ← s.policyFor sources q
    logApplied requestId applied
    return .ok (← policyBody q.kind applied policy)

end Service

end Lending
