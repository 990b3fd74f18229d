import Lending.Policy.OverdueFine

/-! # Lost item fee policies

When an overdue item counts as lost, and what that costs.
-/

namespace Lending

structure LostItemFeePolicy where
  id : Json
  name : Json
  agedToLostAfter : Option Period
  chargeType : Json
  itemCharge : Decimal
  processingFee : Decimal
  chargesProcessingFee : Json
deriving DecidableEq, Repr, Inhabited

namespace LostItemFeePolicy

def ofJson (v : Json) : Result LostItemFeePolicy := do
  let charge := (← v.member "chargeAmountItem").orEmpty
  let id ← v.required "id"
  let name ← v.memberD "name" (.str "")
  let agedToLostAfter ← Period.ofJson (← v.member "itemAgedLostOverdue")
  let chargeType ← charge.member "chargeType"
  let itemCharge ← Decimal.ofJson (← charge.member "amount")
  let processingFee ← Decimal.ofJson (← v.member "lostItemProcessingFee")
  let chargesProcessingFee ← v.memberD "chargeAmountItemPatron" (.bool false)
  return { id, name, agedToLostAfter, chargeType, itemCharge, processingFee, chargesProcessingFee }

def agedToLostDate (p : LostItemFeePolicy) (due : Option Instant) : Result (Option Instant) :=
  match p.agedToLostAfter.filter (·.isRecognised) with
  | none => .ok none
  | some period => period.addToIfAny due

end LostItemFeePolicy

end Lending
