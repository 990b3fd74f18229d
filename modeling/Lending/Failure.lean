import Lending.Calendar.Date
import Lending.Json.Printer
import Lending.Number.Decimal
import Lending.Rules.Fault
import Lending.Storage.HostName

/-! # Failures

Why a piece of work has no answer: data that cannot be used, a refusal that the asker can act on, a
breakdown behind the desk, or an answer passed on from elsewhere.
-/

namespace Lending

inductive DataFault where
  | memberMissing
  | wrongType
  | malformed
  | outOfRange
  | invalidAmount
  | amountTooLarge
  | notJson
  | tooDeep
  | undecodable
  | unencodable
  | invalidAddress
  | invalidName (fault : NameFault)
  | unknownZone
  | negativePeriod (quantity : Int)
  | unknownPolicyLetter (letter : Text)
deriving DecidableEq, Repr

def DataFault.message? : DataFault → Option Text
  | .negativePeriod quantity => some s!"Period quantity cannot be negative: {quantity}"
  | .unknownPolicyLetter letter => some ("Unknown policy type letter: " ++ letter)
  | _ => none

/-- Reasons that the asker is told, with what they are about. Ids are as their record gives them. -/
inductive Refusal where
  | rules (error : RulesError)
  | policyNotFound (kind : PolicyKind) (id : Json)
  | userNotFound (id : Json)
  | notLoanable (policy : Json)
  | profileNotRecognised (policy : Json)
  | periodNotRecognised (policy : Json)
  | outsideLimitingSchedule (policy : Json)
  | outsideFixedSchedule (policy : Json)
deriving DecidableEq, Repr

namespace Refusal

def message : Refusal → Text
  | rules error => error.fault.message
  | policyNotFound kind id => s!"{kind.label} policy " ++ id.inline ++ " does not exist"
  | userNotFound _ => "Could not find user"
  | notLoanable _ => "Item is not loanable"
  | profileNotRecognised _ => "Loan profile in the loan policy is not recognised"
  | periodNotRecognised _ => "Loan period in the loan policy is not recognised"
  | outsideLimitingSchedule _ => "loan date falls outside of the date ranges in the loan policy"
  | outsideFixedSchedule _ =>
    "Item can't be checked out as the loan date falls outside of the date ranges in the loan policy"

def parameters : Refusal → List (Text × Json)
  | rules error =>
    (error.line.map fun n => (("line" : Text), Json.int n)).toList ++
      (error.fault.column.map fun n => (("column" : Text), Json.int n)).toList
  | policyNotFound kind id => [("policyType", .str kind.letter.toString), ("policyId", id)]
  | userNotFound id => [("userId", id)]
  | notLoanable id | profileNotRecognised id | periodNotRecognised id | outsideLimitingSchedule id
  | outsideFixedSchedule id => [("loanPolicyId", id)]

end Refusal

/-- The record that rules cannot be applied without, or the endpoint that applies them. -/
inductive Unapplied where
  | unknownItem
  | unknownHolding
  | unknownLocation
  | noEndpoint
deriving DecidableEq, Repr

def Unapplied.message : Unapplied → String
  | .unknownItem => "Unable to apply circulation rules for unknown item"
  | .unknownHolding => "Unable to apply circulation rules for unknown holding"
  | .unknownLocation => "Unable to apply circulation rules for unknown location"
  | .noEndpoint => "Unable to apply circulation rules"

/-- Storage gave no answer at all. -/
inductive Outage where
  | timedOut (seconds path : Text)
  | unreachable (reason : Text)
deriving DecidableEq, Repr

def Outage.message : Outage → Text
  | .timedOut seconds path => "Timed out after " ++ seconds ++ "s fetching " ++ path
  | .unreachable reason => "Failed to contact storage module: " ++ reason

/-- Storage gave an answer that cannot be used. -/
inductive Breakdown where
  | invalidRecord (recordType reason : String)
  | fetchFailed (recordType : String) (status : Int) (body : String)
  | noRules
  | reported (message : Text)
deriving DecidableEq, Repr

def Breakdown.message : Breakdown → Text
  | .invalidRecord recordType reason => s!"Invalid {recordType} representation: {reason}"
  | .fetchFailed recordType status body => s!"Failed to fetch {recordType} ({status}): {body}"
  | .noRules => "Circulation rules storage has no rules"
  | .reported message => message

inductive Failure where
  | data (fault : DataFault)
  | refused (reason : Refusal)
  | unapplied (reason : Unapplied)
  | outage (cause : Outage)
  | broken (cause : Breakdown)
  | forwarded (status : Int) (body : String)
deriving DecidableEq, Repr

namespace Failure

def ofDate : DateFault → Failure
  | .malformed => .data .malformed
  | .outOfRange => .data .outOfRange

def ofAmount : Decimal.Fault → Failure
  | .invalid => .data .invalidAmount
  | .overflow => .data .amountTooLarge

def wrongType : Failure := .data .wrongType

def message? : Failure → Option Text
  | data fault => fault.message?
  | refused reason => some reason.message
  | unapplied reason => some reason.message
  | outage cause => some cause.message
  | broken cause => some cause.message
  | forwarded status body => some s!"Forwarded failure: {status} {body}"

end Failure

abbrev Result (α : Type) := Except Failure α

namespace Result

def ofDate (x : Except DateFault α) : Result α := x.mapError Failure.ofDate

def ofAmount (x : Except Decimal.Fault α) : Result α := x.mapError Failure.ofAmount

def fail (fault : DataFault) : Result α := .error (.data fault)

def orFail (fault : DataFault) : Option α → Result α
  | some a => .ok a
  | none => fail fault

end Result

end Lending
