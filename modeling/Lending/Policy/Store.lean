import Lending.Item
import Lending.Json.Agreement
import Lending.Reply
import Lending.Rules.Table

/-! # Policy stores

A store looks up the policies of one kind: it applies the rules, fetches the policy that they name,
reads it and completes it. What it has found once it keeps.
-/

namespace Lending

/-- Where a store's policies come from. A body that is null stands for no such policy. -/
structure PolicySource (P : Type) where
  kind : PolicyKind
  applyRules : PolicyKind → MatchCriteria → Reply AppliedRule
  fetch : PolicyKind → Json → Reply Json
  read : Json → Result P
  complete : P → Reply P

/-- The policies found so far, by the id that was asked for. -/
abbrev Found (P : Type) := List (Json × P)

namespace Found

def get? (f : Found P) (id : Json) : Option P := (f.find? fun e => e.1.agrees id).map (·.2)

end Found

namespace PolicySource

def appliedRule (s : PolicySource P) (item : Item) (patron : Patron) : Reply AppliedRule := do
  s.applyRules s.kind (← item.criteria patron)

def body (s : PolicySource P) (id : Json) : Reply Json := do
  match ← s.fetch s.kind id with
  | .null => Reply.fail (.refused (.policyNotFound s.kind id))
  | body => return body

def retrieve (s : PolicySource P) (id : Json) : Reply P := do
  s.complete (← s.read (← s.body id))

/-- A policy by its id, from those found before or from the source. A list or an object is no id. -/
def lookupById (s : PolicySource P) (id : Json) : Session (Found P) P := do
  if !id.isPlain then Reply.fail .wrongType else
    match (← Session.get).get? id with
    | some policy => return policy
    | none =>
      let policy ← s.retrieve id
      Session.update fun found => (id, policy) :: found
      return policy

def lookup (s : PolicySource P) (item : Item) (patron : Patron) : Session (Found P) P := do
  s.lookupById (← s.appliedRule item patron).policyId

end PolicySource

end Lending
