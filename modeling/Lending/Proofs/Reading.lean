import Lending.Policy.Resolver
import Lending.Proofs.Result

/-! # Reading never refuses

A refusal is a decision about a request. A record that cannot be read ends in a fault of its data
instead, whatever it holds.
-/

namespace Lending

variable {α : Type} {reason : Refusal} {v : Json}

namespace Result

@[simp] theorem fail_ne_refused {fault : DataFault} :
    (fail fault : Result α) ≠ .error (.refused reason) := by simp [fail]

@[simp] theorem orFail_ne_refused {fault : DataFault} {x : Option α} :
    orFail fault x ≠ .error (.refused reason) := by cases x <;> simp [orFail]

@[simp] theorem ofDate_ne_refused {x : Except DateFault α} :
    ofDate x ≠ .error (.refused reason) := by
  rcases x with (_ | _) | a <;> simp [ofDate, Except.mapError, Failure.ofDate]

variable {β : Type} {f : α → Result β}

@[simp] theorem mapM_ne_refused {xs : List α} (h : ∀ x, f x ≠ .error (.refused reason)) :
    xs.mapM f ≠ .error (.refused reason) := by
  intro he
  obtain ⟨x, -, hx⟩ := exists_of_mapM_eq_error he
  exact h x hx

theorem mapM_option_ne_refused {x : Option α} (h : ∀ a, f a ≠ .error (.refused reason)) :
    x.mapM f ≠ .error (.refused reason) := by
  cases x with
  | none => exact pure_ne_error
  | some a => simpa using h a

end Result

namespace Json

@[simp] theorem members_ne_refused : v.members ≠ .error (.refused reason) := by
  cases v <;> simp [members, Failure.wrongType]

@[simp] theorem memberD_ne_refused {name : Text} {absent : Json} :
    v.memberD name absent ≠ .error (.refused reason) := by
  simp [memberD]

@[simp] theorem member_ne_refused {name : Text} : v.member name ≠ .error (.refused reason) := by
  simp [member]

@[simp] theorem required_ne_refused {name : Text} :
    v.required name ≠ .error (.refused reason) := by
  simp [required, bind_eq_error_iff]

@[simp] theorem items_ne_refused : v.items ≠ .error (.refused reason) := by
  cases v <;> simp [items, Failure.wrongType]

@[simp] theorem textIfAny_ne_refused : v.textIfAny ≠ .error (.refused reason) := by
  unfold textIfAny
  split
  · split <;> simp [Failure.wrongType]
  · simp

end Json

section Terms

@[simp] theorem IntervalUnit.ofJson_ne_refused : ofJson v ≠ .error (.refused reason) := by
  simp [ofJson]

@[simp] theorem Period.quantityOf_ne_refused : quantityOf v ≠ .error (.refused reason) := by
  unfold quantityOf
  split
  · simp
  · split <;> simp [Failure.wrongType]

@[simp] theorem Period.make_ne_refused {quantity : Int} {unit : Option IntervalUnit} :
    make quantity unit ≠ .error (.refused reason) := by
  rw [make]
  split <;> simp

@[simp] theorem Period.ofValues_ne_refused {interval : Json} :
    ofValues v interval ≠ .error (.refused reason) := by
  simp [ofValues, bind_eq_error_iff]

@[simp] theorem Period.ofJson_ne_refused : ofJson v ≠ .error (.refused reason) := by
  rw [ofJson]
  split <;> simp [bind_eq_error_iff]

@[simp] theorem Decimal.ofJson_ne_refused : ofJson v ≠ .error (.refused reason) := by
  rw [ofJson.eq_def]
  split <;> simp

@[simp] theorem FineRate.ofJson_ne_refused : ofJson v ≠ .error (.refused reason) := by
  rw [ofJson]
  split <;> simp [bind_eq_error_iff]

@[simp] theorem Instant.ofJson_ne_refused : ofJson v ≠ .error (.refused reason) := by
  unfold ofJson
  split
  · simp
  · rw [ne_eq, bind_eq_error_iff]
    rintro (h | ⟨_ | s, -, h⟩)
    · exact Json.textIfAny_ne_refused h
    · exact pure_ne_error h
    · simp [bind_eq_error_iff] at h

@[simp] theorem Schedule.endInZone_ne_refused {zone : Zone} :
    endInZone zone v ≠ .error (.refused reason) := by
  rw [endInZone, ne_eq, bind_eq_error_iff]
  rintro (h | ⟨_ | x, -, h⟩)
  · exact Instant.ofJson_ne_refused h
  · cases h
  · exact pure_ne_error h

@[simp] theorem Schedule.bandOfJson_ne_refused {zone : Zone} :
    bandOfJson zone v ≠ .error (.refused reason) := by
  simp [bandOfJson, bind_eq_error_iff]

@[simp] theorem Schedule.ofJson_ne_refused {zone : Zone} :
    ofJson zone v ≠ .error (.refused reason) := by
  unfold ofJson
  split
  · simp
  · simp [bind_eq_error_iff]

end Terms

section Policies

theorem LoanPolicy.ofJson_ne_refused : ofJson v ≠ .error (.refused reason) := by
  simp [ofJson, bind_eq_error_iff]

theorem RequestPolicy.ofJson_ne_refused : ofJson v ≠ .error (.refused reason) := by
  simp [ofJson, bind_eq_error_iff]

@[simp] theorem Notice.ofJson_ne_refused : ofJson v ≠ .error (.refused reason) := by
  simp [ofJson, bind_eq_error_iff]

@[simp] theorem NoticePolicy.noticesOfJson_ne_refused {name : Text} :
    noticesOfJson v name ≠ .error (.refused reason) := by
  simp [noticesOfJson, bind_eq_error_iff]

theorem NoticePolicy.ofJson_ne_refused : ofJson v ≠ .error (.refused reason) := by
  simp [ofJson, bind_eq_error_iff]

theorem OverdueFinePolicy.ofJson_ne_refused : ofJson v ≠ .error (.refused reason) := by
  simp [ofJson, bind_eq_error_iff]

theorem LostItemFeePolicy.ofJson_ne_refused : ofJson v ≠ .error (.refused reason) := by
  simp [ofJson, bind_eq_error_iff]

end Policies

end Lending
