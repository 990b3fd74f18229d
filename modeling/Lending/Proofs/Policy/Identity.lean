import Lending.Proofs.Policy.Page

/-! # The ids of policies

A policy is read with the id that its body has. So it has the id that it was looked up by, as long
as the body carries that id.
-/

namespace Lending

section Ids

variable {v : Json}

theorem LoanPolicy.required_of_ofJson {p : LoanPolicy} (h : ofJson v = .ok p) :
    v.required "id" = .ok p.id := by
  simp only [ofJson, bind_eq_ok_iff, pure_eq_ok_iff] at h
  grind

theorem RequestPolicy.required_of_ofJson {p : RequestPolicy} (h : ofJson v = .ok p) :
    v.required "id" = .ok p.id := by
  simp only [ofJson, bind_eq_ok_iff, pure_eq_ok_iff] at h
  grind

theorem NoticePolicy.required_of_ofJson {p : NoticePolicy} (h : ofJson v = .ok p) :
    v.required "id" = .ok p.id := by
  simp only [ofJson, bind_eq_ok_iff, pure_eq_ok_iff] at h
  grind

theorem OverdueFinePolicy.required_of_ofJson {p : OverdueFinePolicy} (h : ofJson v = .ok p) :
    v.required "id" = .ok p.id := by
  simp only [ofJson, bind_eq_ok_iff, pure_eq_ok_iff] at h
  grind

theorem LostItemFeePolicy.required_of_ofJson {p : LostItemFeePolicy} (h : ofJson v = .ok p) :
    v.required "id" = .ok p.id := by
  simp only [ofJson, bind_eq_ok_iff, pure_eq_ok_iff] at h
  grind

theorem Sources.id_withSchedule {s : Sources} {p q : LoanPolicy}
    (h : (s.withSchedule q).answer = .ok p) : p.id = q.id := by
  unfold withSchedule at h
  split at h
  · obtain rfl := Except.ok.inj h
    rfl
  · simp only [Reply.answer_bind, Reply.answer_lift, bind_eq_ok_iff] at h
    obtain ⟨_, -, _, -, h⟩ := h
    obtain rfl := Except.ok.inj h
    rfl

end Ids

section Lookups

variable {P : Type} {src : PolicySource P} {s : Sources} {kind : PolicyKind} {id : Json}
  {item : Item} {patron : Patron}

namespace PolicySource

theorem gives_of_lookupById {p : P} (h : (src.lookupById id []).1.answer = .ok p) :
    src.Gives id p := by
  cases hp : id.isPlain with
  | false =>
    rw [lookupById_of_not_isPlain hp] at h
    cases h
  | true =>
    rw [lookupById_of_get?_eq_none hp rfl] at h
    exact retrieve_eq_ok_iff.mp h

theorem exists_of_lookup {p : P} (h : (src.lookup item patron []).1.answer = .ok p) :
    ∃ applied, (src.appliedRule item patron).answer = .ok applied ∧
      src.Gives applied.policyId p := by
  rw [lookup, Session.answer_bind, Session.answer_lift, bind_eq_ok_iff] at h
  obtain ⟨applied, ha, h⟩ := h
  exact ⟨applied, ha, gives_of_lookupById h⟩

theorem Gives.key_eq {key : P → Json} {p : P} (h : src.Gives id p)
    (hr : ∀ v q, src.read v = .ok q → v.required "id" = .ok (key q))
    (hc : ∀ q p, (src.complete q).answer = .ok p → key p = key q)
    (ho : ∀ body, (src.fetch src.kind id).answer = .ok body → body ≠ .null →
      body.required "id" = .ok id) : key p = id := by
  obtain ⟨body, q, hf, hb, hq, hp⟩ := h
  have hk := hr body q hq
  rw [ho body hf hb] at hk
  rw [hc q p hp]
  exact (Except.ok.inj hk).symm

end PolicySource

namespace Sources

/-- A body that is found by an id carries that id. -/
def CarriesId (s : Sources) (kind : PolicyKind) (id : Json) : Prop :=
  ∀ body, (s.fetchPolicy kind id).answer = .ok body → body ≠ .null → body.required "id" = .ok id

theorem id_of_gives_loan {p : LoanPolicy} (h : s.loan.Gives id p) (ho : s.CarriesId .loan id) :
    p.id = id :=
  h.key_eq (fun _ _ => LoanPolicy.required_of_ofJson) (fun _ _ => id_withSchedule) ho

theorem key_of_gives {P : Type} {read : Json → Result P} {key : P → Json} {p : P}
    (h : (s.source kind read pure).Gives id p) (ho : s.CarriesId kind id)
    (hr : ∀ v q, read v = .ok q → v.required "id" = .ok (key q)) : key p = id := by
  refine h.key_eq hr (fun q p hc => ?_) ho
  obtain rfl := Except.ok.inj hc
  rfl

theorem id_of_gives_overdueFine {p : OverdueFinePolicy} (h : s.overdueFine.Gives id p)
    (ho : s.CarriesId .overdueFine id) : p.id = id :=
  key_of_gives h ho fun _ _ => OverdueFinePolicy.required_of_ofJson

theorem id_of_lookupById {policy : Policy}
    (h : (s.lookupById kind id {}).1.answer = .ok policy) (ho : s.CarriesId kind id) :
    policy.id = id := by
  cases kind <;> rw [lookupById, Session.answer_map, map_eq_ok_iff] at h <;>
    obtain ⟨p, hp, rfl⟩ := h <;> have hg := PolicySource.gives_of_lookupById hp <;>
    change p.id = id
  case loan => exact id_of_gives_loan hg ho
  case request => exact key_of_gives hg ho fun _ _ => RequestPolicy.required_of_ofJson
  case notice => exact key_of_gives hg ho fun _ _ => NoticePolicy.required_of_ofJson
  case overdueFine => exact id_of_gives_overdueFine hg ho
  case lostItemFee => exact key_of_gives hg ho fun _ _ => LostItemFeePolicy.required_of_ofJson

theorem exists_of_attach {loan loan' : Loan}
    (h : ((s.attach loan item patron).startingWith {}).answer = .ok loan') :
    ∃ p, (s.overdueFine.lookup item patron []).1.answer = .ok p ∧ loan'.finePolicy = some p := by
  rw [Session.startingWith, answer_attach] at h
  simp only [bind_eq_ok_iff, pure_eq_ok_iff] at h
  obtain ⟨_, -, p, hp, rfl⟩ := h
  exact ⟨p, hp, rfl⟩

end Sources

end Lookups

end Lending
