import Lending.Proofs.Storage.Item

/-! # Criteria by the records in storage

What rules look at for an item and a user can be read off four records: those of the item, of its
holding, of its location and of the user.
-/

namespace Lending.Client

variable {c : Client} {path : Text} {itemId userId item holding location patron : Json}

/-- The loan type that an item's record names: the temporary one, else the permanent one. -/
def namedLoanType (item : Json) : Json :=
  let temporary := item.get "temporaryLoanTypeId"
  if temporary.counts then temporary else item.get "permanentLoanTypeId"

def criteriaOf (item holding location patron : Json) : MatchCriteria where
  loanType := namedLoanType item
  location := namedLocation item holding
  materialType := item.get "materialTypeId"
  patronGroup := patron.get "patronGroup"
  campus := location.get "campusId"
  library := location.get "libraryId"
  institution := location.get "institutionId"

/-- Storage has an item with its holding and its location, and a user. The location carries the id
that it is named by. -/
structure Knows (c : Client) (itemId userId item holding location patron : Json) : Prop extends
    c.Supplies itemId item holding location where
  noneMissing : firstMissing item holding location = none
  ownLocation : location.required "id" = .ok (namedLocation item holding)
  ofUser : c.Stores ("/users/" ++ userId.inline) patron
  userKnown : patron ≠ .null

theorem Stores.fetchRecord_of_ne_null (h : c.Stores path patron) (hp : patron ≠ .null)
    (recordType : String) (missing : Result Json) :
    (c.fetchRecord path recordType missing).answer = .ok patron := by
  obtain ⟨response, hr, ⟨-, hn⟩ | ⟨hs, hb, -⟩⟩ := h
  · exact absurd hn hp
  · rw [fetchRecord, Reply.answer_bind, hr, ok_bind, if_pos hs, hb]
    rfl

theorem Stores.answer_fetchPatron (h : c.Stores ("/users/" ++ userId.inline) patron)
    {id : Json} (hr : patron.required "id" = .ok id) :
    (c.fetchPatron userId).answer = .ok { id, patronGroup := patron.get "patronGroup" } := by
  have hp : patron ≠ .null := by
    rintro rfl
    cases hr
  rw [fetchPatron, Reply.answer_bind, h.fetchRecord_of_ne_null hp, ok_bind, hr,
    Reply.lift_ok_bind, Json.member_of_required hr]
  rfl

theorem criteria_itemOf {recordId : Json} {p : Patron}
    (hc : (itemOf recordId item holding
      (some (locationOf (namedLocation item holding) location))).holdingsRecord.counts)
    (hp : p.patronGroup = patron.get "patronGroup") :
    (itemOf recordId item holding
      (some (locationOf (namedLocation item holding) location))).criteria p =
        .ok (criteriaOf item holding location patron) := by
  unfold Item.criteria criteriaOf
  rw [hc, ← hp]
  rfl

namespace Knows

variable (h : c.Knows itemId userId item holding location patron)
include h

theorem answer_fetchItemAndPatron {recordId patronId : Json}
    (hr : item.required "id" = .ok recordId) (hp : patron.required "id" = .ok patronId) :
    (c.fetchItemAndPatron itemId userId).answer = .ok
      (itemOf recordId item holding (some (locationOf (namedLocation item holding) location)),
        { id := patronId, patronGroup := patron.get "patronGroup" }) := by
  obtain ⟨found, hb, ha, -⟩ := h.fetchItem_of_found hr
  obtain ⟨hn, -⟩ | ⟨id, hid, rfl⟩ := hb
  · exact absurd hn (firstMissing_eq_none_iff.mp h.noneMissing).2.2
  · rw [← Except.ok.inj (hid.symm.trans h.ownLocation)]
    change (do return (← (c.fetchItem itemId).answer,
      ← (c.fetchPatron userId).answer) : Result (Item × Patron)) = _
    rw [ha, h.ofUser.answer_fetchPatron hp]
    rfl

theorem exists_fetched : ∃ i p, (c.fetchItemAndPatron itemId userId).answer = .ok (i, p) ∧
    i.criteria p = .ok (criteriaOf item holding location patron) := by
  obtain ⟨hi, hh, -⟩ := firstMissing_eq_none_iff.mp h.noneMissing
  obtain ⟨recordId, hr⟩ := h.ofItem.eq_null_or.resolve_left hi
  obtain ⟨patronId, hp⟩ := h.ofUser.eq_null_or.resolve_left h.userKnown
  exact ⟨_, _, h.answer_fetchItemAndPatron hr hp,
    criteria_itemOf (h.counts_holdingsRecord hh recordId _) rfl⟩

theorem stores_location :
    c.Stores ("/locations/" ++ (namedLocation item holding).inline) location := by
  have hs := h.ofLocation
  unfold StoresNamed at hs
  split at hs
  · exact hs
  · exact absurd hs (firstMissing_eq_none_iff.mp h.noneMissing).2.2

theorem answer_fetchLocation : (c.fetchLocation (namedLocation item holding)).answer =
    .ok (some (locationOf (namedLocation item holding) location)) := by
  obtain ⟨found, hb, hf⟩ := fetchLocation_eq h.stores_location
  rw [hf]
  obtain ⟨hn, -⟩ | ⟨id, hid, rfl⟩ := hb
  · exact absurd hn (firstMissing_eq_none_iff.mp h.noneMissing).2.2
  · rw [Except.ok.inj (h.ownLocation.symm.trans hid)]

end Knows

end Lending.Client
