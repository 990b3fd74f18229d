import Lending.Service.Basic

/-! # Loans in the service

The due date of a new loan, and the charge for a late one.
-/

namespace Lending

structure NewLoan where
  item : Text
  user : Text
  loanDate : Instant
deriving DecidableEq, Repr

def NewLoan.ofMembers (members : List (Text × Json)) : Checked NewLoan :=
  NewLoan.mk <$> Member.id members "item_id" <*> Member.id members "user_id" <*>
    Member.instant members "loan_date"

/-- A loan that may be late at `systemTime`, or now where the request names no time. -/
structure LateLoan where
  loan : Text
  item : Text
  user : Text
  loanDate : Instant
  dueDate : Option Instant
  recalled : Bool
  servicePoint : Option Text
  systemTime : Option Instant
deriving DecidableEq, Repr

namespace LateLoan

def ofMembers (members : List (Text × Json)) : Checked LateLoan :=
  LateLoan.mk <$> Member.id members "loan_id" <*> Member.id members "item_id" <*>
    Member.id members "user_id" <*> Member.instant members "loan_date" <*>
    Member.instantIfAny members "due_date" <*> Member.flag members "due_date_changed_by_recall" <*>
    Member.textIfAny members "checkout_service_point_id" <*>
    Member.instantIfAny members "system_time"

def toLoan (l : LateLoan) : Loan where
  id := .str l.loan
  loanDate := some l.loanDate
  dueDate := l.dueDate
  recalled := l.recalled
  servicePoint := Json.ofOption .str l.servicePoint

end LateLoan

namespace Service

def dueDateOf [ZoneData] (s : Service) (sources : Sources) (l : NewLoan) :
    Reply (LoanPolicy × Instant) := do
  let (item, patron) ← s.client.fetchItemAndPatron (.str l.item) (.str l.user)
  let policy ← (sources.lookupLoan item patron).startingWith {}
  return (policy, ← policy.initialDueDate l.loanDate)

def dueDate [ZoneData] (s : Service) (asked : Checked NewLoan) : Reply Outcome :=
  s.withSources asked fun sources l => do
    let (policy, due) ← s.dueDateOf sources l
    return .ok (.obj [("due_date", .str due.shortText), ("loan_policy_id", ← textOf policy.id)])

/-- What a late loan is charged: the overdue minutes and the fine for them, or nothing. -/
structure Charge where
  minutes : Int
  fine : Decimal
deriving DecidableEq, Repr

def chargeFor [ZoneData] (s : Service) (loan : Loan) (time : Instant) : Reply (Option Charge) := do
  match ← loan.overdueMinutes s.calendar time with
  | none => return none
  | some minutes => return some { minutes, fine := ← loan.fine minutes }

def countCharge : Option Charge → Reply Unit
  | none => Reply.count .overdueNotApplicable 1
  | some charge => do
    Reply.count .overdueCalculated 1
    Reply.count .overdueMinutes charge.minutes

def minutesOf (charge : Option Charge) : Json := Json.ofOption (fun c => .int c.minutes) charge

def fineOf (charge : Option Charge) : Json := Json.ofOption (fun c => .str c.fine.text) charge

def logCharge (requestId : String) (loan : Loan) (charge : Option Charge) : Reply Unit :=
  Reply.log .info Answer.rootLogger "Overdue calculation completed"
    [("request_id", .str requestId), ("loan_id", loan.id), ("step", .str "overdue_calculated"),
     ("outcome", .str (if charge.isSome then "calculated" else "not_applicable")),
     ("overdue_minutes", minutesOf charge), ("fine_amount", fineOf charge)]

def finePolicyId (loan : Loan) : Json := (loan.finePolicy.map (·.id)).getD .null

/-- A fine that is no finite amount cannot be given. -/
def chargeBody (loan : Loan) (charge : Option Charge) : Result Json := do
  if charge.any (!·.fine.isFinite) then .error .wrongType else
    return .obj [("loan_id", loan.id), ("applicable", .bool charge.isSome),
      ("overdue_minutes", minutesOf charge), ("fine_amount", fineOf charge),
      ("overdue_fine_policy_id", ← textOf (finePolicyId loan))]

def attached (s : Service) (sources : Sources) (l : LateLoan) : Reply Loan := do
  let (item, patron) ← s.client.fetchItemAndPatron (.str l.item) (.str l.user)
  (sources.attach l.toLoan item patron).startingWith {}

def overdue [ZoneData] (s : Service) (requestId : String) (asked : Checked LateLoan) :
    Reply Outcome :=
  s.withSources asked fun sources l => do
    let loan ← s.attached sources l
    let charge ← s.chargeFor loan (l.systemTime.getD s.now)
    countCharge charge
    logCharge requestId loan charge
    return .ok (← chargeBody loan charge)

end Service

end Lending
