import Lending.Rules.References
import Lending.Service.Basic

/-! # Rules in the service

Applying the rules to attributes, and checking a rules text before it is stored.
-/

namespace Lending

structure RuleQuestion where
  kind : PolicyKind
  loanType : Text
  location : Text
  itemType : Text
  patronType : Text
deriving DecidableEq, Repr

namespace RuleQuestion

def ofRequest (kind : String) (r : Request) : Checked RuleQuestion :=
  RuleQuestion.mk <$> Service.kindAsked kind <*> r.param "loan_type_id" <*>
    r.param "location_id" <*> r.param "item_type_id" <*> r.param "patron_type_id"

/-- The criteria of a question; what a location adds is null where there is none. -/
def criteria (q : RuleQuestion) (location : Option Location) : MatchCriteria where
  loanType := .str q.loanType
  location := .str q.location
  materialType := .str q.itemType
  patronGroup := .str q.patronType
  campus := (location.map (·.campus)).getD .null
  library := (location.map (·.library)).getD .null
  institution := (location.map (·.institution)).getD .null

end RuleQuestion

namespace Service

def appliedTo (s : Service) (apply : Applier) (q : RuleQuestion) : Reply AppliedRule := do
  apply q.kind (q.criteria (← s.client.fetchLocation (.str q.location)))

def appliedRule (s : Service) (requestId : String) (asked : Checked RuleQuestion) : Reply Outcome :=
  s.withApplier asked fun apply q => do
    let applied ← s.appliedTo apply q
    logApplied requestId applied
    return .ok (.obj [(q.kind.idMember, applied.policyId), ("conditions", .arr applied.conditions)])

def policyExists (s : Service) (kind : PolicyKind) (id : Json) : Reply Bool := do
  return (← s.client.fetchPolicy kind id) != .null

/-- A rules text has to be readable, and every policy that it names has to exist. -/
def checkText (s : Service) (text : Text) : Reply Unit :=
  match RulesText.read text with
  | .ok table => table.checkReferences s.policyExists
  | .error e => Reply.fail (.refused (.rules e))

def rulesCheck (s : Service) (asked : Checked Text) : Reply Outcome :=
  ifFit asked fun text => do
    s.checkText text
    return .noContent

end Service

end Lending
