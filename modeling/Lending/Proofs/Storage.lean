import Lending.Proofs.Reading
import Lending.Proofs.Reply
import Lending.Storage.Policies

/-! # Storage never refuses

A request to storage that has no usable answer ends in a fault of its data, in an outage or in a
breakdown, and a record that storage does not have is null.
-/

namespace Lending

variable {reason : Refusal} {a : Address} {c : Client} {params : Option (List (Text × Text))}

namespace Address

@[simp] theorem encoded_ne_refused {safe : Char → Bool} {xs : List CodePoint} :
    encoded safe xs ≠ .error (.refused reason) := by
  simp [encoded]

theorem mapM_encoded_ne_refused {safe : Char → Bool} {x : Option (List CodePoint)} :
    x.mapM (encoded safe) ≠ .error (.refused reason) :=
  Result.mapM_option_ne_refused fun _ => encoded_ne_refused

theorem ofText_ne_refused {t : Text} : ofText t ≠ .error (.refused reason) := by
  simp only [ofText]
  split
  · exact Result.fail_ne_refused
  · refine bind_ne_error encoded_ne_refused fun userInfo => ?_
    refine bind_ne_error Result.orFail_ne_refused fun host => ?_
    refine bind_ne_error Result.orFail_ne_refused fun portNumber => ?_
    split
    · exact Result.fail_ne_refused
    · refine bind_ne_error encoded_ne_refused fun path => ?_
      refine bind_ne_error mapM_encoded_ne_refused fun query => ?_
      refine bind_ne_error mapM_encoded_ne_refused fun fragment => ?_
      exact pure_ne_error

theorem queryOf_ne_refused {params : List (Text × Text)} :
    queryOf params ≠ .error (.refused reason) := by
  simp [queryOf, bind_eq_error_iff]

theorem withParams_ne_refused {params : List (Text × Text)} :
    a.withParams params ≠ .error (.refused reason) := by
  refine bind_ne_error queryOf_ne_refused fun query => ?_
  dsimp only
  split
  · exact pure_ne_error
  · exact Result.fail_ne_refused

theorem forRequest_ne_refused : a.forRequest params ≠ .error (.refused reason) := by
  unfold forRequest
  dsimp only
  split
  · rw [ok_bind]
    split
    · exact pure_ne_error
    · exact withParams_ne_refused
  · refine bind_ne_error Result.fail_ne_refused fun a => ?_
    split
    · exact pure_ne_error
    · exact withParams_ne_refused

theorem checkHost_ne_refused : a.checkHost ≠ .error (.refused reason) := by
  refine bind_ne_error Result.orFail_ne_refused fun host => ?_
  split
  · cases HostName.check host <;> simp [Except.mapError]
  · exact pure_ne_error

end Address

namespace Client

theorem headerText_ne_refused {v : Json} : headerText v ≠ .error (.refused reason) := by
  unfold headerText
  split
  · exact Result.orFail_ne_refused
  · simp [Failure.wrongType]

theorem requestTo_ne_refused : c.requestTo a params ≠ .error (.refused reason) := by
  refine bind_ne_error headerText_ne_refused fun tenant => ?_
  refine bind_ne_error ?_ fun token => ?_
  · exact Result.mapM_option_ne_refused fun _ => headerText_ne_refused
  refine bind_ne_error Address.forRequest_ne_refused fun address => ?_
  exact bind_ne_error Address.checkHost_ne_refused fun _ => pure_ne_error

theorem outcome_ne_refused {path : Text} {isAbsolute : Bool} {answer : StorageAnswer} :
    c.outcome path isAbsolute answer ≠ .error (.refused reason) := by
  unfold outcome
  split
  · split
    · simp
    · exact Result.fail_ne_refused
  · exact Result.fail_ne_refused
  · simp
  · simp

theorem get_ne_refused {path : Text} : (c.get path params).answer ≠ .error (.refused reason) := by
  simp only [get]
  split
  next e he =>
    rintro h
    obtain rfl : e = .refused reason := by simpa using h
    refine bind_ne_error Address.ofText_ne_refused (fun address => ?_) he
    exact bind_ne_error requestTo_ne_refused fun _ => pure_ne_error
  next address request he =>
    simpa using outcome_ne_refused

theorem fetchRecord_ne_refused {path : Text} {recordType : String} {missing : Result Json}
    (hm : missing ≠ .error (.refused reason)) :
    (c.fetchRecord path recordType missing).answer ≠ .error (.refused reason) := by
  rw [fetchRecord, Reply.answer_bind]
  refine bind_ne_error get_ne_refused fun response => ?_
  split
  · split <;> simp
  · split
    · simpa using hm
    · simp

theorem fetchPolicy_ne_refused {kind : PolicyKind} {id : Json} :
    (c.fetchPolicy kind id).answer ≠ .error (.refused reason) := by
  rw [fetchPolicy, Reply.answer_onFailure]
  exact fetchRecord_ne_refused (by simp)

theorem fetchSchedule_ne_refused {id : Json} :
    (c.fetchSchedule id).answer ≠ .error (.refused reason) :=
  fetchRecord_ne_refused (by simp)

end Client

end Lending
