import Lending.Service.Loans
import Lending.Service.Policies
import Lending.Service.Route
import Lending.Service.Rules

/-! # Exchanges

The answer to every request, by its route.
-/

namespace Lending.Service

def health : Json := .obj [("status", .str "ok"), ("service", .str name)]

/-- The work on a request that has come to its route. What a page shows is made elsewhere. -/
def work [ZoneData] (s : Service) (r : Request) : Route → Reply Outcome
  | .health => return .ok health
  | .appliedRule kind => s.appliedRule (s.requestId r) (RuleQuestion.ofRequest kind r)
  | .rulesCheck => s.rulesCheck (r.read fun members => Member.text members "rulesAsText")
  | .policy kind => s.policy (s.requestId r) (PolicyQuestion.ofRequest kind r)
  | .dueDate => s.dueDate (r.read NewLoan.ofMembers)
  | .overdue => s.overdue (s.requestId r) (r.read LateLoan.ofMembers)
  | .metrics | .page => return .page

def undone (requestId : String) (status : Int) (body : Body) : Exchange :=
  { events := [], answer := { status, body, requestId } }

def exchangeAt [ZoneData] (s : Service) (r : Request) (path : List Char) : Exchange :=
  let undone := undone (s.requestId r)
  match Route.ofPath? path with
  | some route =>
    if route.methods.contains r.method then (s.work r route).exchange (s.requestId r)
    else undone 405 (Answer.detailed "Method Not Allowed")
  | none =>
    if Route.isMoved path then undone 307 (.text "") else undone 404 (Answer.detailed "Not Found")

def exchange [ZoneData] (s : Service) (r : Request) : Exchange :=
  let x := s.exchangeAt r (Text.percentDecode r.path.toList)
  if r.method = "HEAD" then x.headOnly else x

end Lending.Service
