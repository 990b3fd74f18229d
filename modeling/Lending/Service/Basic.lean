import Lending.Policy.Resolver
import Lending.Rules.Application
import Lending.Service.Answer
import Lending.Service.Request
import Lending.Storage.Calendar
import Lending.Storage.Inventory
import Lending.Storage.Policies
import Lending.Storage.Rules

/-! # The service

What the service is set up with, and where it gets rules and policies from.
-/

namespace Lending

/-- Rules are applied here, to the table in storage, or by the endpoint that storage has for it. -/
inductive RulesPlace where
  | here
  | endpoint
deriving DecidableEq, Repr

/-- Schedules are written in `zone`, which is nothing where its name is not known; `now` and
`newRequestId` stand in for what a request leaves out. -/
structure Service where
  client : Client
  zone : Option Zone
  rulesPlace : RulesPlace
  now : Instant
  newRequestId : String

abbrev Applier := PolicyKind → MatchCriteria → Reply AppliedRule

namespace Service

def name : String := "circulation-gateway"

def requestId (s : Service) (r : Request) : String := r.givenId?.getD s.newRequestId

/-- The table is read anew for every request. -/
def applier (s : Service) : Reply Applier :=
  match s.rulesPlace with
  | .endpoint => return s.client.applyRules
  | .here => do
    let table ← s.client.fetchTable
    return fun kind request => .ofResult (table.applyTo kind request)

def sources (s : Service) (apply : Applier) (zone : Zone) : Sources where
  applyRules := apply
  fetchPolicy := s.client.fetchPolicy
  fetchSchedule := s.client.fetchSchedule
  zone

def calendar (s : Service) : Calendar := s.client.fetchOpeningDays

def ifFit (asked : Checked α) (work : α → Reply Outcome) : Reply Outcome :=
  match asked with
  | .fit a => work a
  | .misfit places => return .misfit places

/-- Work that needs an applier; it is there before the request is found not to fit. -/
def withApplier (s : Service) (asked : Checked α) (work : Applier → α → Reply Outcome) :
    Reply Outcome := do
  let apply ← s.applier
  ifFit asked (work apply)

/-- Work that needs policies too, and with them the zone of their schedules. -/
def withSources (s : Service) (asked : Checked α) (work : Sources → α → Reply Outcome) :
    Reply Outcome := do
  let apply ← s.applier
  let zone ← Result.orFail .unknownZone s.zone
  ifFit asked (work (s.sources apply zone))

def logApplied (requestId : String) (applied : AppliedRule) : Reply Unit :=
  Reply.log .info Answer.rootLogger "Circulation rules applied"
    [("request_id", .str requestId), ("step", .str "rules_applied"),
     ("policy_type", .str applied.kind.name), ("policy_id", applied.policyId),
     ("conditions", .arr applied.conditions)]

/-- A value that an answer can only give as text. -/
def textOf : Json → Result Json
  | .str s => .ok (.str s)
  | _ => .error .wrongType

def kindAsked (name : String) : Checked PolicyKind :=
  Checked.ofOption (.path "kind") (PolicyKind.ofName? name)

end Service

end Lending
