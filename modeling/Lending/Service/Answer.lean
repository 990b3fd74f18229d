import Lending.Json.Writing
import Lending.Reply
import Lending.Service.Checked

/-! # Answers

How replies are answered: the status and the body for each outcome, and what is logged about
failures.
-/

namespace Lending

inductive Body where
  | json (v : Json)
  | text (s : String)
deriving DecidableEq, Repr

/-- An answer to a request; one that nobody has foreseen carries no request id. -/
structure Answer where
  status : Int
  body : Body
  requestId : Option String
deriving DecidableEq, Repr

structure Exchange where
  events : List Event
  answer : Answer
deriving DecidableEq, Repr

def Exchange.headOnly (x : Exchange) : Exchange :=
  { x with answer := { x.answer with body := .text "" } }

/-- What a request ends in when nothing fails. -/
inductive Outcome where
  | ok (v : Json)
  | noContent
  | page
  | misfit (places : List Place)
deriving DecidableEq, Repr

namespace Answer

def rootLogger : String := "root"

def explained (message : Text) (parameters : Json) : Body :=
  .json (.obj [("message", .str message), ("parameters", parameters)])

def detailed (detail : String) : Body := .json (.obj [("detail", .str detail)])

def ofOutcome (requestId : String) : Outcome → Answer
  | .ok v => { status := 200, body := .json v, requestId }
  | .noContent => { status := 204, body := .text "", requestId }
  | .page => { status := 200, body := .text "", requestId }
  | .misfit places =>
    let texts := (places.map Place.text).mergeSort fun a b => a ≤ b
    let invalid := texts.map fun t => Json.str (.ofString t)
    { status := 422, body := .json (.obj [("invalid", .arr invalid)]), requestId }

def ofRefusal (requestId : String) (reason : Refusal) : Answer :=
  { status := 422, body := explained reason.message (.obj reason.parameters), requestId }

def serverError (requestId : String) (message : Text) : Answer :=
  { status := 500, body := explained message (.obj []), requestId }

def unforeseen : Answer :=
  { status := 500, body := .text "Internal Server Error", requestId := none }

def ofFailure (requestId : String) : Failure → Answer
  | .refused reason => ofRefusal requestId reason
  | .forwarded status body => { status, body := .text body, requestId }
  | .unapplied reason => serverError requestId reason.message
  | .outage cause => serverError requestId cause.message
  | .broken cause => serverError requestId cause.message
  | .data _ => unforeseen

def serverErrorRecord (requestId : String) (message : Text) : LogRecord :=
  { level := .error, logger := rootLogger, message := "Server error: " ++ message,
    fields := [("request_id", .str requestId)] }

/-- What is logged about a failure; nothing about data that could not be used. -/
def failureRecord? (requestId : String) : Failure → Option LogRecord
  | .refused reason => some {
      level := .warning
      logger := rootLogger
      message := "Validation failed: " ++ reason.message
      fields := [("request_id", .str requestId), ("parameters", .obj reason.parameters)] }
  | .forwarded status _ => some {
      level := .error
      logger := rootLogger
      message := s!"Forwarding failure from storage: {status}"
      fields := [("request_id", .str requestId)] }
  | .unapplied reason => some (serverErrorRecord requestId reason.message)
  | .outage cause => some (serverErrorRecord requestId cause.message)
  | .broken cause => some (serverErrorRecord requestId cause.message)
  | .data _ => none

end Answer

def Body.isWritable : Body → Bool
  | .json v => v.writingFault?.isNone
  | .text _ => true

/-- The answer itself if it can be sent. Nobody has foreseen one that cannot. -/
def Answer.orUnforeseen (a : Answer) : Answer := if a.body.isWritable then a else unforeseen

def Reply.exchange (requestId : String) (r : Reply Outcome) : Exchange :=
  match r.answer with
  | .ok outcome =>
    { events := r.events
      answer := (Answer.ofOutcome requestId outcome).orUnforeseen }
  | .error e =>
    { events := r.events ++ (Answer.failureRecord? requestId e).toList.map .logged
      answer := (Answer.ofFailure requestId e).orUnforeseen }

end Lending
