import Lending.Opening
import Lending.Policy.Loan
import Lending.Policy.OverdueFine
import Lending.Reply

/-! # Overdue loans

The minutes that a late loan is charged for, and the fine for them.
-/

namespace Lending

structure Loan where
  id : Json
  loanDate : Option Instant
  dueDate : Option Instant
  recalled : Bool
  servicePoint : Json
  loanPolicy : Option LoanPolicy := none
  finePolicy : Option OverdueFinePolicy := none
deriving DecidableEq, Repr, Inhabited

/-- The opening days of a service point between two instants. -/
abbrev Calendar := Json → Instant → Instant → Reply (List OpeningDay)

namespace Loan

/-- The word of the fine policy on whether closed time counts; null where there is none. -/
def countClosed (l : Loan) : Json :=
  match l.finePolicy with
  | some p => p.countClosed
  | none => .null

/-- The due date, if it has passed and the fine policy says whether closed time counts. -/
def overdueSince? [ZoneData] (l : Loan) (now : Instant) : Option Instant :=
  l.dueDate.filter fun due => due.before now && l.countClosed != .null

def overdueLogger : String := "circulation_gateway.domain.overdue"

def lateMinutes [ZoneData] (calendar : Calendar) (l : Loan) (due now : Instant) : Reply Int := do
  let elapsed := due.minutesTo now
  if l.countClosed.counts then return elapsed
  else if !l.servicePoint.counts then do
    Reply.log .warning overdueLogger
      "Loan has no checkout service point, counting closed time as overdue" [("loan_id", l.id)]
    return elapsed
  else return min (OpeningDay.totalMinutes (← calendar l.servicePoint due now) : Int) elapsed

/-- The minutes of grace that the loan has: none after a recall if the fine policy takes them away.
-/
def graceMinutes (l : Loan) : Nat :=
  let ignored := match l.finePolicy with
    | some p => p.ignoreGraceForRecalls == .bool true
    | none => false
  if l.recalled && ignored then 0 else
    match l.loanPolicy with
    | some p => p.graceMinutes
    | none => 0

/-- Minutes within the grace period are waived; more than that are charged in full. -/
def afterGrace (l : Loan) (minutes : Int) : Int :=
  if 0 < l.graceMinutes ∧ minutes ≤ l.graceMinutes then 0 else minutes

/-- The same for minutes that are not whole. -/
def waives (l : Loan) (minutes : Double) : Bool :=
  0 < l.graceMinutes && minutes.atMost l.graceMinutes

/-- The overdue minutes to charge for, or none where the loan is not overdue or the policy does not
tell. -/
def overdueMinutes [ZoneData] (calendar : Calendar) (l : Loan) (now : Instant) :
    Reply (Option Int) :=
  match l.overdueSince? now with
  | none => return none
  | some due => do return some (l.afterGrace (← lateMinutes calendar l due now))

def startedIntervals (minutes interval : Nat) : Nat := (minutes + interval - 1) / interval

/-- An amount no higher than a maximum, where the maximum is above zero. -/
def capped (amount maximum : Decimal) : Except Decimal.Fault Decimal := do
  if ← Decimal.less .zero maximum then amount.lower? maximum else return amount

def fineAtRate (rate : FineRate) (maximum : Decimal) (minutes : Nat) :
    Except Decimal.Fault Decimal :=
  let interval := rate.interval.toMinutes
  if interval = 0 then .ok .zeroCents else do
    let amount ← rate.amount.times (startedIntervals minutes interval)
    (← capped amount maximum).toCents

def fine (l : Loan) (minutes : Int) : Result Decimal :=
  match l.finePolicy with
  | none => .ok .zeroCents
  | some policy =>
    if minutes ≤ 0 then .ok .zeroCents else
      match policy.terms l.recalled with
      | (none, _) => .ok .zeroCents
      | (some rate, maximum) => Result.ofAmount (fineAtRate rate maximum minutes.toNat)

/-- The fine for minutes that are not whole, for which no rate can be charged. -/
def fineForParts (l : Loan) (minutes : Double) : Result Decimal :=
  if minutes.atMost 0 then .ok .zeroCents else
    match l.finePolicy.bind fun p => (p.terms l.recalled).1 with
    | none => .ok .zeroCents
    | some rate => if rate.interval.toMinutes = 0 then .ok .zeroCents else .error .wrongType

end Loan

end Lending
