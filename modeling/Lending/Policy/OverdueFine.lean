import Lending.Period

/-! # Overdue fine policies

What a late return costs: an amount for every started interval, up to a maximum, with a pair of its
own for loans whose due date was changed by a recall.
-/

namespace Lending

def Decimal.ofJson : Json → Result Decimal
  | .null => .ok .zero
  | .int n => .ok (.finite (n < 0) n.natAbs 0)
  | .real x => Result.orFail .invalidAmount (ofText? x.text.toList)
  | .str s => Result.orFail .invalidAmount (s.chars?.bind ofText?)
  | _ => Result.fail .invalidAmount

structure FineRate where
  amount : Decimal
  interval : Period
deriving DecidableEq, Repr, Inhabited

/-- Whether closed time counts and whether recalls lose their grace is as the record gives it, null
where it does not say. -/
structure OverdueFinePolicy where
  id : Json
  name : Json
  rate : Option FineRate
  maximum : Decimal
  recallRate : Option FineRate
  recallMaximum : Decimal
  countClosed : Json
  ignoreGraceForRecalls : Json
  forgiveOnRenewal : Json
deriving DecidableEq, Repr, Inhabited

def FineRate.ofJson (v : Json) : Result (Option FineRate) :=
  if !v.counts then .ok none else do
    let amount ← Decimal.ofJson (← v.member "quantity")
    return some { amount, interval := ← Period.ofValues (.int 1) (← v.member "intervalId") }

namespace OverdueFinePolicy

def ofJson (v : Json) : Result OverdueFinePolicy := do
  let id ← v.required "id"
  let name ← v.memberD "name" (.str "")
  let rate ← FineRate.ofJson (← v.member "overdueFine")
  let maximum ← Decimal.ofJson (← v.member "maxOverdueFine")
  let recallRate ← FineRate.ofJson (← v.member "overdueRecallFine")
  let recallMaximum ← Decimal.ofJson (← v.member "maxOverdueRecallFine")
  let countClosed ← v.member "countClosed"
  let ignoreGraceForRecalls ← v.member "gracePeriodRecall"
  let forgiveOnRenewal ← v.memberD "forgiveOverdueFine" (.bool false)
  return { id, name, rate, maximum, recallRate, recallMaximum, countClosed, ignoreGraceForRecalls,
           forgiveOnRenewal }

def terms (p : OverdueFinePolicy) (recalled : Bool) : Option FineRate × Decimal :=
  if recalled then (p.recallRate, p.recallMaximum) else (p.rate, p.maximum)

end OverdueFinePolicy

end Lending
