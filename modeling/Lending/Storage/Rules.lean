import Lending.Json.Access
import Lending.Rules.Text
import Lending.Storage.Client

/-! # Circulation rules in storage

The stored rules text, and the endpoint that applies rules elsewhere.
-/

namespace Lending.Client

def rulesLogger : String := "circulation_gateway.infrastructure.clients.circulation_rules"

def fetchRulesText (c : Client) : Reply Json := do
  let record ← c.fetchRecord "/circulation-rules-storage" "circulation rules"
    (.error (.broken .noRules))
  record.memberD "rulesAsText" (.str "")

/-- The table that the stored text describes; a text that cannot be read is logged. -/
def fetchTable (c : Client) : Reply RuleTable := do
  match ← c.fetchRulesText with
  | .str text =>
    match RulesText.read text with
    | .ok table => return table
    | .error e =>
      Reply.log .error rulesLogger "Stored circulation rules are invalid" []
      Reply.fail (.refused (.rules e))
  | _ => Reply.fail .wrongType

def ruleParameters (request : MatchCriteria) : List (Text × Text) :=
  parameter "loan_type_id" request.loanType ++ parameter "location_id" request.location ++
    parameter "item_type_id" request.materialType ++ parameter "patron_type_id" request.patronGroup

def applyRules (c : Client) (kind : PolicyKind) (request : MatchCriteria) : Reply AppliedRule := do
  let response ← c.get s!"/circulation/rules/{kind.name}-policy" (ruleParameters request)
  if response.status = 404 then
    Reply.count (.rulesFailed kind) 1
    Reply.fail (.unapplied .noEndpoint)
  else if response.status ≠ 200 then
    Reply.count (.rulesFailed kind) 1
    Reply.fail (.forwarded response.status response.text)
  else
    let body ← bodyOf response
    Reply.count (.rulesApplied kind) 1
    let policyId ← body.required kind.idMember
    let conditions ← (← body.memberD "conditions" (.arr [])).items
    return { kind, policyId, conditions }

end Lending.Client
