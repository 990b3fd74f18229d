import Lending.Proofs.Reading
import Lending.Proofs.Reply

/-! # Lookups of policies

A lookup is refused only because there is no policy with the id that the rules give, or because
something it relies on is refused: the rules, or the schedule of a loan policy. What was found
before makes no difference.
-/

namespace Lending

variable {reason : Refusal} {item : Item} {patron : Patron}

theorem Item.criteria_ne_refused : item.criteria patron ≠ .error (.refused reason) := by
  unfold criteria
  split
  · simp
  · split
    · simp
    · split <;> simp

namespace PolicySource

variable {P : Type} {s : PolicySource P} {found : Found P} {id body : Json}

theorem answer_body_of_exists (h : (s.fetch s.kind id).answer = .ok body) (hb : body ≠ .null) :
    (s.body id).answer = .ok body := by
  rw [PolicySource.body, Reply.answer_bind, h, ok_bind]
  split
  · exact absurd rfl hb
  · rfl

theorem retrieve_ne_refused (h : (s.fetch s.kind id).answer = .ok body) (hb : body ≠ .null)
    (hr : ∀ v, s.read v ≠ .error (.refused reason))
    (hc : ∀ p, (s.complete p).answer ≠ .error (.refused reason)) :
    (s.retrieve id).answer ≠ .error (.refused reason) := by
  rw [retrieve, Reply.answer_bind, answer_body_of_exists h hb, ok_bind, Reply.answer_bind]
  exact bind_ne_error (hr body) hc

theorem lookupById_ne_refused (h : (s.retrieve id).answer ≠ .error (.refused reason)) :
    (s.lookupById id found).1.answer ≠ .error (.refused reason) := by
  unfold lookupById
  split
  · simp [Failure.wrongType]
  · rw [Session.answer_bind, Session.answer_get, ok_bind, Session.get_snd]
    cases found.get? id with
    | some policy => simp
    | none =>
      rw [Session.answer_bind, Session.answer_lift]
      exact bind_ne_error h fun policy => by simp

theorem lookup_ne_refused
    (ha : ∀ request, (s.applyRules s.kind request).answer ≠ .error (.refused reason))
    (hx : ∀ request a, (s.applyRules s.kind request).answer = .ok a →
      ∃ body, (s.fetch s.kind a.policyId).answer = .ok body ∧ body ≠ .null)
    (hr : ∀ v, s.read v ≠ .error (.refused reason))
    (hc : ∀ p, (s.complete p).answer ≠ .error (.refused reason)) :
    (s.lookup item patron found).1.answer ≠ .error (.refused reason) := by
  rw [lookup, Session.answer_bind, Session.answer_lift, appliedRule, Reply.answer_bind,
    Reply.answer_lift, ne_eq, bind_eq_error_iff, bind_eq_error_iff]
  rintro ((h | ⟨request, -, h⟩) | ⟨a, h, hl⟩)
  · exact Item.criteria_ne_refused h
  · exact ha request h
  · obtain ⟨request, -, hap⟩ := bind_eq_ok_iff.mp h
    obtain ⟨body, hf, hb⟩ := hx request a hap
    exact lookupById_ne_refused (retrieve_ne_refused hf hb hr hc) hl

end PolicySource

namespace Sources

variable {s : Sources} {kind : PolicyKind} {shelf : Shelf}

theorem withSchedule_ne_refused {p : LoanPolicy}
    (hs : ∀ id, (s.fetchSchedule id).answer ≠ .error (.refused reason)) :
    (s.withSchedule p).answer ≠ .error (.refused reason) := by
  unfold withSchedule
  split
  · simp
  · rw [Reply.answer_bind]
    refine bind_ne_error (hs p.scheduleId) fun v => ?_
    rw [Reply.answer_bind, Reply.answer_lift]
    exact bind_ne_error Schedule.ofJson_ne_refused fun schedule => by simp

theorem lookup_ne_refused
    (ha : ∀ kind request, (s.applyRules kind request).answer ≠ .error (.refused reason))
    (hx : ∀ kind request a, (s.applyRules kind request).answer = .ok a →
      ∃ body, (s.fetchPolicy kind a.policyId).answer = .ok body ∧ body ≠ .null)
    (hs : ∀ id, (s.fetchSchedule id).answer ≠ .error (.refused reason)) :
    (s.lookup kind item patron shelf).1.answer ≠ .error (.refused reason) := by
  have hl {P : Type} (source : PolicySource P) (found : Found P)
      (he : source.applyRules = s.applyRules ∧ source.fetch = s.fetchPolicy)
      (hr : ∀ v, source.read v ≠ .error (.refused reason))
      (hc : ∀ p, (source.complete p).answer ≠ .error (.refused reason)) :
      (source.lookup item patron found).1.answer ≠ .error (.refused reason) := by
    refine PolicySource.lookup_ne_refused ?_ ?_ hr hc
    · rw [he.1]
      exact ha source.kind
    · rw [he.1, he.2]
      exact hx source.kind
  cases kind with
  | loan =>
    simpa [lookup, lookupLoan, Shelf.onLoan] using hl s.loan shelf.loan ⟨rfl, rfl⟩
      (fun _ => LoanPolicy.ofJson_ne_refused) fun _ => withSchedule_ne_refused hs
  | request =>
    simpa [lookup, Shelf.onRequest] using hl s.request shelf.request ⟨rfl, rfl⟩
      (fun _ => RequestPolicy.ofJson_ne_refused) fun _ => by simp [request, source]
  | notice =>
    simpa [lookup, Shelf.onNotice] using hl s.notice shelf.notice ⟨rfl, rfl⟩
      (fun _ => NoticePolicy.ofJson_ne_refused) fun _ => by simp [notice, source]
  | overdueFine =>
    simpa [lookup, lookupOverdueFine, Shelf.onOverdueFine] using
      hl s.overdueFine shelf.overdueFine ⟨rfl, rfl⟩
        (fun _ => OverdueFinePolicy.ofJson_ne_refused) fun _ => by simp [overdueFine, source]
  | lostItemFee =>
    simpa [lookup, Shelf.onLostItemFee] using hl s.lostItemFee shelf.lostItemFee ⟨rfl, rfl⟩
      (fun _ => LostItemFeePolicy.ofJson_ne_refused) fun _ => by simp [lostItemFee, source]

end Sources

end Lending
