import Lending.Period
import Lending.Schedule

/-! # Loan policies

How long an item may be borrowed. For rolling loans the schedule limits the due date, for fixed
loans it gives the due date itself.
-/

namespace Lending

inductive LoanProfile where
  | rolling
  | fixed
  | unknown
deriving DecidableEq, Repr, Inhabited

namespace LoanProfile

def name : LoanProfile → String
  | rolling => "Rolling"
  | fixed => "Fixed"
  | unknown => "Unknown"

def ofJson (v : Json) : LoanProfile :=
  if v = .str rolling.name then rolling else if v = .str fixed.name then fixed else unknown

end LoanProfile

/-- Ids, names and the word on lending are as the record gives them. -/
structure LoanPolicy where
  id : Json
  name : Json
  loanable : Json
  profile : LoanProfile
  period : Option Period
  gracePeriod : Option Period
  scheduleId : Json
  schedule : Schedule
deriving DecidableEq, Repr, Inhabited

namespace LoanPolicy

def ofJson (v : Json) : Result LoanPolicy := do
  let terms := (← v.member "loansPolicy").orEmpty
  let id ← v.required "id"
  let name ← v.memberD "name" (.str "")
  let loanable ← v.memberD "loanable" (.bool true)
  let profile := LoanProfile.ofJson (← terms.member "profileId")
  let period ← Period.ofJson (← terms.member "period")
  let gracePeriod ← Period.ofJson (← terms.member "gracePeriod")
  let scheduleId ← terms.member "fixedDueDateScheduleId"
  return { id, name, loanable, profile, period, gracePeriod, scheduleId, schedule := .empty }

def withSchedule (p : LoanPolicy) (schedule : Schedule) : LoanPolicy := { p with schedule }

def graceMinutes (p : LoanPolicy) : Nat :=
  match p.gracePeriod with
  | some period => period.toMinutes
  | none => 0

def hasGracePeriod (p : LoanPolicy) : Bool := 0 < p.graceMinutes

def rollingPeriod? (p : LoanPolicy) : Option Period := p.period.filter (·.isRecognised)

section

variable [ZoneData]

def rollingDueDate (p : LoanPolicy) (loanDate : Instant) : Result Instant :=
  match p.rollingPeriod? with
  | none => .error (.refused (.periodNotRecognised p.id))
  | some period => do
    let due ← Result.ofDate (period.addTo loanDate)
    p.schedule.limit due loanDate (.refused (.outsideLimitingSchedule p.id))

def fixedDueDate (p : LoanPolicy) (loanDate : Instant) : Result Instant :=
  match p.schedule.dueFor loanDate with
  | none => .error (.refused (.outsideFixedSchedule p.id))
  | some due => .ok due

def initialDueDate (p : LoanPolicy) (loanDate : Instant) : Result Instant :=
  if !p.loanable.counts then .error (.refused (.notLoanable p.id)) else
    match p.profile with
    | .rolling => p.rollingDueDate loanDate
    | .fixed => p.fixedDueDate loanDate
    | .unknown => .error (.refused (.profileNotRecognised p.id))

end

/-- A new loan without a date has no due date. What a policy refuses whatever the date, it refuses
then too. -/
def undatedFailure (p : LoanPolicy) : Failure :=
  if !p.loanable.counts then .refused (.notLoanable p.id) else
    match p.profile with
    | .rolling =>
      match p.rollingPeriod?.bind (·.undatedFault?) with
      | none => .refused (.periodNotRecognised p.id)
      | some fault => .data fault
    | .fixed => if p.schedule.isEmpty then .refused (.outsideFixedSchedule p.id) else .wrongType
    | .unknown => .refused (.profileNotRecognised p.id)

def initialDueDateIfAny [ZoneData] (p : LoanPolicy) : Option Instant → Result Instant
  | some loanDate => p.initialDueDate loanDate
  | none => .error p.undatedFailure

end LoanPolicy

end Lending
