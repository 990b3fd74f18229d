import Lending.Calendar.InstantJson

/-! # Fixed due date schedules

Bands of time, each with the latest due date for loans made inside it. The first band in table order
that holds an instant is the one that applies.
-/

namespace Lending

/-- Loans made strictly between the two ends are due no later than `due`. -/
structure Band where
  first : Instant
  last : Instant
  due : Instant
deriving DecidableEq, Repr, Inhabited

def Band.holds [ZoneData] (b : Band) (x : Instant) : Bool := b.first.before x && x.before b.last

structure Schedule where
  bands : List Band
  id : Json
deriving DecidableEq, Repr

namespace Schedule

def empty : Schedule := { bands := [], id := .null }

instance : Inhabited Schedule := ⟨empty⟩

def isEmpty (s : Schedule) : Bool := s.bands.isEmpty

section

variable [ZoneData]

def bandFor (s : Schedule) (x : Instant) : Option Band := s.bands.find? (·.holds x)

def bandIndexFor (s : Schedule) (x : Instant) : Option Nat := s.bands.findIdx? (·.holds x)

def dueFor (s : Schedule) (x : Instant) : Option Instant := (s.bandFor x).map (·.due)

/-- A due date no later than that of the band for the loan date. An empty schedule changes nothing;
where no band holds the loan date, the given error is the answer. -/
def limit (s : Schedule) (due loanDate : Instant) (noBand : ε) : Except ε Instant :=
  if s.isEmpty then .ok due else
    match s.dueFor loanDate with
    | none => .error noBand
    | some latest => .ok (due.earlier latest)

end

/-- A band's end as it is written, moved into a zone with its wall clock time kept. -/
def endInZone (zone : Zone) (v : Json) : Result Instant := do
  match ← Instant.ofJson v with
  | none => .error .wrongType
  | some x => return x.inZone zone

def bandOfJson (zone : Zone) (v : Json) : Result Band := do
  let first ← endInZone zone (← v.required "from")
  let last ← endInZone zone (← v.required "to")
  let due ← endInZone zone (← v.required "due")
  return { first, last, due }

/-- The schedule of a record in the given zone; a missing record is an empty schedule. -/
def ofJson (zone : Zone) : Json → Result Schedule
  | .null => .ok empty
  | v => do
    let bands ← (← (← v.memberD "schedules" (.arr [])).items).mapM (bandOfJson zone)
    return { bands, id := ← v.member "id" }

end Schedule

end Lending
