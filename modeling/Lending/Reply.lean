import Lending.Calendar.Instant
import Lending.Failure

/-! # Replies and sessions

A reply is an answer together with the events on the way to it; the events stay when the answer is a
failure. A session is work that also keeps something from one step to the next.

Work that goes on side by side is run here one piece after the other, so that its events come in one
of the orders that are possible. Steps of lookups that come in between each other are looked at on
their own, with what a store keeps.
-/

namespace Lending

inductive Level where
  | info
  | warning
  | error
deriving DecidableEq, Repr

structure LogRecord where
  level : Level
  logger : String
  message : Text
  fields : List (Text × Json)
deriving DecidableEq, Repr

structure SentRequest where
  url : Text
  path : Text
  params : List (Text × Text)
  tenant : String
  token : Option String
deriving DecidableEq, Repr

inductive Counter where
  | rulesApplied (kind : PolicyKind)
  | rulesFailed (kind : PolicyKind)
  | policyFetchFailed (kind : PolicyKind)
  | overdueNotApplicable
  | overdueCalculated
  | overdueMinutes
  | storageRequest (area : Text)
deriving DecidableEq, Repr

def Counter.key : Counter → Text
  | .rulesApplied kind =>
    s!"circulation_rules_applied_total outcome=applied policy_type={kind.name}"
  | .rulesFailed kind =>
    s!"circulation_rules_applied_total outcome=error policy_type={kind.name}"
  | .policyFetchFailed kind => s!"policy_fetch_failures_total policy_type={kind.name}"
  | .overdueNotApplicable => "overdue_not_applicable_total"
  | .overdueCalculated => "overdue_minutes_count"
  | .overdueMinutes => "overdue_minutes_sum"
  | .storageRequest area => "storage_request_duration_seconds_count path=" ++ area

inductive Event where
  | sent (request : SentRequest)
  | logged (record : LogRecord)
  | counted (counter : Counter) (amount : Int)
  | policyRead (kind : PolicyKind) (id : Json)
  | scheduleRead (id : Json)
  | calendarRead (servicePoint : Json) (start finish : Instant)
deriving DecidableEq, Repr

def Counter.growthBy (c : Counter) : Event → Int
  | .counted c' n => if c' = c then n else 0
  | _ => 0

def Counter.growth (c : Counter) (events : List Event) : Int :=
  (events.map c.growthBy).foldr (· + ·) 0

structure Reply (α : Type) where
  events : List Event
  answer : Result α

namespace Reply

def ofResult (r : Result α) : Reply α := { events := [], answer := r }

def bind (x : Reply α) (f : α → Reply β) : Reply β :=
  match x.answer with
  | .ok a =>
    let y := f a
    { y with events := x.events ++ y.events }
  | .error e => { events := x.events, answer := .error e }

instance : Monad Reply where
  pure a := ofResult (.ok a)
  bind := bind

instance : MonadLift (Except Failure) Reply := ⟨ofResult⟩

def fail (e : Failure) : Reply α := ofResult (.error e)

def note (e : Event) : Reply Unit := { events := [e], answer := .ok () }

def log (level : Level) (logger : String) (message : Text) (fields : List (Text × Json)) :
    Reply Unit :=
  note (.logged { level, logger, message, fields })

def count (c : Counter) (amount : Int) : Reply Unit := note (.counted c amount)

def onFailure (x : Reply α) (e : Event) : Reply α :=
  match x.answer with
  | .ok _ => x
  | .error _ => { x with events := x.events ++ [e] }

/-- Two replies side by side: both run, and the first failure is the answer. -/
def both (x : Reply α) (y : Reply β) : Reply (α × β) :=
  { events := x.events ++ y.events, answer := do return (← x.answer, ← y.answer) }

/-- Replies side by side: all run, and the first failure is the answer. -/
def all : List (Reply α) → Reply (List α)
  | [] => pure []
  | x :: xs =>
    let rest := all xs
    { events := x.events ++ rest.events, answer := do return (← x.answer) :: (← rest.answer) }

end Reply

/-- Work that keeps a `σ` between its steps; what was kept stays kept when a step fails. -/
def Session (σ α : Type) := σ → Reply α × σ

namespace Session

def ofReply (r : Reply α) : Session σ α := fun s => (r, s)

def bind (x : Session σ α) (f : α → Session σ β) : Session σ β := fun s =>
  let (r, s) := x s
  match r.answer with
  | .ok a =>
    let (r', s) := f a s
    ({ r' with events := r.events ++ r'.events }, s)
  | .error e => ({ events := r.events, answer := .error e }, s)

instance : Monad (Session σ) where
  pure a := ofReply (pure a)
  bind := bind

instance : MonadLift Reply (Session σ) := ⟨ofReply⟩

def get : Session σ σ := fun s => (pure s, s)

def update (f : σ → σ) : Session σ Unit := fun s => (pure (), f s)

def onPart (part : σ → τ) (put : τ → σ → σ) (x : Session τ α) : Session σ α := fun s =>
  let (r, t) := x (part s)
  (r, put t s)

def startingWith (kept : σ) (x : Session σ α) : Reply α := (x kept).1

/-- Two pieces of work side by side: both run, and the first failure is the answer. -/
def both (x : Session σ α) (y : Session σ β) : Session σ (α × β) := fun s =>
  let (r, s) := x s
  let (r', s) := y s
  (r.both r', s)

/-- Pieces of work side by side: all run, and the first failure is the answer. -/
def all : List (Session σ α) → Session σ (List α)
  | [] => pure []
  | x :: xs => fun s =>
    let (r, s) := x s
    let (r', s) := all xs s
    ({ events := r.events ++ r'.events, answer := do return (← r.answer) :: (← r'.answer) }, s)

end Session

end Lending
