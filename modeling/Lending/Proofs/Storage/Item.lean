import Lending.Policy.Store
import Lending.Proofs.Storage.Sending
import Lending.Storage.Inventory

/-! # Items as storage gives them

An item takes up to three requests: for its record, for the holding that the record names, and for
the one location that record and holding name. Rules are applied to an item of which all three were
found; of any other item they are refused, before anything else happens.
-/

namespace Lending

section Members

variable {v id : Json} {name : Text}

def Json.get (v : Json) (name : Text) : Json :=
  match v with
  | .obj members => (find name members).getD .null
  | _ => .null

theorem Json.exists_obj_of_required (h : v.required name = .ok id) :
    ∃ members, v = .obj members ∧ find name members = some id := by
  cases v with
  | obj members =>
    refine ⟨members, rfl, ?_⟩
    cases hf : find name members with
    | some x =>
      rw [required, Json.members, ok_bind, hf] at h
      exact congrArg some (Except.ok.inj h)
    | none =>
      rw [required, Json.members, ok_bind, hf] at h
      cases h
  | _ => cases h

theorem Json.member_of_required (h : v.required "id" = .ok id) (name : Text) :
    v.member name = .ok (v.get name) := by
  obtain ⟨members, rfl, -⟩ := exists_obj_of_required h
  rfl

theorem Json.counts_of_required (h : v.required "id" = .ok id) : v.counts = true := by
  obtain ⟨members, rfl, hf⟩ := exists_obj_of_required h
  cases members with
  | nil => cases hf
  | cons m ms => rfl

end Members

namespace PolicySource

variable {P : Type} {s : PolicySource P} {item : Item} {patron : Patron} {found : Found P}

theorem lookup_of_criteria_error {e : Failure} (h : item.criteria patron = .error e) :
    s.lookup item patron found = (Reply.fail e, found) := by
  have ha : s.appliedRule item patron = Reply.fail e := by
    rw [appliedRule, h]
    rfl
  rw [lookup, ha]
  rfl

/-- Whatever becomes of a lookup, it begins with the rules, if they can be applied. -/
theorem applyRules_prefix_lookup {request : MatchCriteria}
    (h : item.criteria patron = .ok request) :
    (s.applyRules s.kind request).events <+: (s.lookup item patron found).1.events := by
  have ha : s.appliedRule item patron = s.applyRules s.kind request := by
    rw [appliedRule, h]
    rfl
  rw [lookup, ha]
  exact Session.events_prefix_bind (liftM (s.applyRules s.kind request)) _

end PolicySource

namespace Client

variable {c : Client} {path place : Text} {id item holding location record : Json}
  {patron : Patron}

/-- Storage has a record with an id at a path, or it has none, which is null. -/
def Stores (c : Client) (path : Text) (record : Json) : Prop :=
  ∃ response, (c.get path none).answer = .ok response ∧
    (response.status = 404 ∧ record = .null ∨
      response.status = 200 ∧ Json.ofBody response.body = .ok record ∧
        ∃ id, record.required "id" = .ok id)

/-- Storage has the record that an id names, where it names one. -/
def StoresNamed (c : Client) (place : Text) (id record : Json) : Prop :=
  if id.counts then c.Stores (place ++ id.inline) record else record = .null

/-- The path of the record that an id names, if it names one. -/
def pathsTo (place : Text) (id : Json) : List Text :=
  if id.counts then [place ++ id.inline] else []

def Asks (c : Client) (path : Text) (request : SentRequest) : Prop :=
  ∃ address, c.requestFor path none = .ok (address, request)

section Records

theorem Stores.eq_null_or (h : c.Stores path record) :
    record = .null ∨ ∃ id, record.required "id" = .ok id := by
  obtain ⟨-, -, ⟨-, hn⟩ | ⟨-, -, hr⟩⟩ := h
  · exact .inl hn
  · exact .inr hr

theorem StoresNamed.eq_null_or (h : c.StoresNamed place id record) :
    record = .null ∨ ∃ id, record.required "id" = .ok id := by
  unfold StoresNamed at h
  split at h
  · exact h.eq_null_or
  · exact .inl h

theorem Stores.answer_fetchRecord (h : c.Stores path record) (recordType : String) :
    (c.fetchRecord path recordType (.ok .null)).answer = .ok record := by
  obtain ⟨response, hr, h⟩ := h
  rw [fetchRecord, Reply.answer_bind, hr, ok_bind]
  obtain ⟨hs, rfl⟩ | ⟨hs, hb, -⟩ := h
  · rw [if_neg (by simp [hs]), if_pos hs, Reply.answer_lift]
  · rw [if_pos hs, hb]
    rfl

theorem Stores.sent_fetchRecord (h : c.Stores path record) (recordType : String) :
    List.Forall₂ c.Asks [path] (c.fetchRecord path recordType (.ok .null)).sent := by
  obtain ⟨response, hr, -⟩ := h
  obtain ⟨address, request, hq, hs⟩ := exists_requestFor_of_get_eq_ok hr
  have hg : (c.fetchRecord path recordType (.ok .null)).sent = [request] := by
    rw [fetchRecord, Reply.sent_bind_of_ok hr, hs]
    -- Nothing goes out while the answer is read.
    split
    · split <;> rfl
    · split <;> rfl
  rw [hg]
  exact .cons ⟨address, hq⟩ .nil

end Records

section Item

/-- The location that an item's record and its holding name: the item's temporary one, else the
holding's permanent one, else the item's permanent one. -/
def namedLocation (item holding : Json) : Json :=
  let temporary := item.get "temporaryLocationId"
  let ofHolding := holding.get "permanentLocationId"
  if temporary.counts then temporary
  else if ofHolding.counts then ofHolding
  else item.get "permanentLocationId"

/-- The records from which an item is put together; those that storage does not have and those that
are not named are null. -/
structure Supplies (c : Client) (id item holding location : Json) : Prop where
  ofItem : c.Stores ("/item-storage/items/" ++ id.inline) item
  ofHolding : c.StoresNamed "/holdings-storage/holdings/" (item.get "holdingsRecordId") holding
  ofLocation : c.StoresNamed "/locations/" (namedLocation item holding) location

def firstMissing (item holding location : Json) : Option Unapplied :=
  if item = .null then some .unknownItem
  else if holding = .null then some .unknownHolding
  else if location = .null then some .unknownLocation
  else none

theorem effectiveLocationId_eq (hi : item.required "id" = .ok id)
    (hh : holding = .null ∨ ∃ id, holding.required "id" = .ok id) :
    effectiveLocationId item holding = .ok (namedLocation item holding) := by
  rw [effectiveLocationId, Json.member_of_required hi, ok_bind, namedLocation]
  dsimp only
  split
  · rfl
  · obtain rfl | ⟨holdingId, hr⟩ := hh
    · exact Json.member_of_required hi _
    · rw [if_pos (Json.counts_of_required hr), Json.member_of_required hr,
        Json.member_of_required hi]
      rw [ok_bind]
      split <;> rfl

theorem StoresNamed.answer_fetchHolding
    (h : c.StoresNamed "/holdings-storage/holdings/" id holding) :
    (c.fetchHolding id).answer = .ok holding := by
  unfold StoresNamed at h
  unfold fetchHolding
  by_cases hc : id.counts = true
  · rw [if_pos hc] at h ⊢
    exact h.answer_fetchRecord _
  · rw [if_neg hc] at h ⊢
    rw [h]
    rfl

theorem StoresNamed.sent_fetchHolding (h : c.StoresNamed "/holdings-storage/holdings/" id holding) :
    List.Forall₂ c.Asks (pathsTo "/holdings-storage/holdings/" id) (c.fetchHolding id).sent := by
  unfold StoresNamed at h
  unfold fetchHolding pathsTo
  by_cases hc : id.counts = true
  · rw [if_pos hc] at h ⊢
    rw [if_pos hc]
    exact h.sent_fetchRecord _
  · rw [if_neg hc, if_neg hc]
    exact .nil

def locationOf (id location : Json) : Location where
  id
  name := location.get "name"
  campus := location.get "campusId"
  library := location.get "libraryId"
  institution := location.get "institutionId"
  primaryServicePoint := location.get "primaryServicePoint"

def Becomes (location : Json) (found : Option Location) : Prop :=
  location = .null ∧ found = none ∨
    ∃ id, location.required "id" = .ok id ∧ found = some (locationOf id location)

theorem fetchLocation_eq (h : c.Stores ("/locations/" ++ id.inline) location) :
    ∃ found, Becomes location found ∧ c.fetchLocation id =
      { c.fetchRecord ("/locations/" ++ id.inline) "location" (.ok .null) with
        answer := .ok found } := by
  have ha := h.answer_fetchRecord "location"
  rw [fetchLocation, Reply.bind_of_ok ha]
  obtain rfl | ⟨locationId, hr⟩ := h.eq_null_or
  · refine ⟨none, .inl ⟨rfl, rfl⟩, ?_⟩
    exact congrArg (Reply.mk · _) (List.append_nil _)
  · obtain ⟨members, rfl, -⟩ := Json.exists_obj_of_required hr
    refine ⟨_, .inr ⟨locationId, hr, rfl⟩, ?_⟩
    simp only [hr, Json.member_of_required hr]
    exact congrArg (Reply.mk · _) (List.append_nil _)

theorem StoresNamed.fetchItemLocation (h : c.StoresNamed "/locations/" id location)
    (itemId : Json) :
    ∃ found, (c.fetchItemLocation itemId id).answer = .ok found ∧ Becomes location found ∧
      List.Forall₂ c.Asks (pathsTo "/locations/" id) (c.fetchItemLocation itemId id).sent := by
  unfold StoresNamed at h
  unfold Client.fetchItemLocation pathsTo
  by_cases hc : id.counts = true
  · rw [if_pos hc] at h
    rw [if_pos hc, if_neg (by simp [hc])]
    obtain ⟨found, hb, hl⟩ := fetchLocation_eq h
    have ha : (c.fetchLocation id).answer = .ok found := by rw [hl]
    refine ⟨found, ?_, hb, ?_⟩
    · rw [Reply.answer_bind, ha, ok_bind]
      cases found <;> rfl
    · have hs := h.sent_fetchRecord "location"
      have hn : (c.fetchLocation id).sent =
          (c.fetchRecord ("/locations/" ++ id.inline) "location" (.ok .null)).sent := by
        rw [hl]
        rfl
      rw [← hn] at hs
      cases found with
      | none => rwa [Reply.sent_bind_of_quiet ha rfl]
      | some l => rwa [Reply.sent_bind_of_quiet ha rfl]
  · rw [if_neg hc] at h
    rw [if_neg hc, if_pos (by simp [hc])]
    exact ⟨none, rfl, .inl ⟨h, rfl⟩, .nil⟩

def itemOf (id item holding : Json) (location : Option Location) : Item where
  id
  materialType := item.get "materialTypeId"
  permanentLoanType := item.get "permanentLoanTypeId"
  temporaryLoanType := item.get "temporaryLoanTypeId"
  holdingsRecord := if holding.counts then item.get "holdingsRecordId" else .null
  location

section Criteria

variable {found : Option Location}

theorem firstMissing_eq_none_iff : firstMissing item holding location = none ↔
    item ≠ .null ∧ holding ≠ .null ∧ location ≠ .null := by
  unfold firstMissing
  split_ifs <;> simp [*]

theorem criteria_of_holding_missing :
    (itemOf id item .null found).criteria patron = .error (.unapplied .unknownHolding) := rfl

variable (hc : (itemOf id item holding found).holdingsRecord.counts = true)
include hc

theorem criteria_of_location_missing (hb : Becomes .null found) :
    (itemOf id item holding found).criteria patron = .error (.unapplied .unknownLocation) := by
  obtain ⟨-, rfl⟩ | ⟨_, hr, -⟩ := hb
  · unfold Item.criteria
    rw [hc]
    rfl
  · cases hr

theorem exists_criteria_of_found (hb : Becomes location found) (hl : location ≠ .null) :
    ∃ request, (itemOf id item holding found).criteria patron = .ok request ∧
      location.required "id" = .ok request.location := by
  obtain ⟨rfl, -⟩ | ⟨locationId, hr, rfl⟩ := hb
  · exact absurd rfl hl
  · unfold Item.criteria
    rw [hc]
    exact ⟨_, rfl, hr⟩

end Criteria

variable (h : c.Supplies id item holding location)
include h

theorem Supplies.holding_eq_null_of_item (hi : item = .null) : holding = .null := by
  have hh := h.ofHolding
  rw [hi] at hh
  exact hh

theorem Supplies.fetchItem_of_missing (hi : item = .null) :
    (c.fetchItem id).answer = .ok (.notFound id) ∧
      List.Forall₂ c.Asks ["/item-storage/items/" ++ id.inline] (c.fetchItem id).sent := by
  have ha := h.ofItem.answer_fetchRecord "item"
  have hs := h.ofItem.sent_fetchRecord "item"
  subst hi
  unfold Client.fetchItem
  constructor
  · rw [Reply.answer_bind, ha]
    rfl
  · rwa [Reply.sent_bind_of_quiet ha rfl]

theorem Supplies.fetchItem_of_found {recordId : Json} (hr : item.required "id" = .ok recordId) :
    ∃ found, Becomes location found ∧
      (c.fetchItem id).answer = .ok (itemOf recordId item holding found) ∧
      List.Forall₂ c.Asks (("/item-storage/items/" ++ id.inline) ::
        (pathsTo "/holdings-storage/holdings/" (item.get "holdingsRecordId") ++
          pathsTo "/locations/" (namedLocation item holding))) (c.fetchItem id).sent := by
  have ha := h.ofItem.answer_fetchRecord "item"
  have hs := h.ofItem.sent_fetchRecord "item"
  have hh := h.ofHolding.answer_fetchHolding
  have hhs := h.ofHolding.sent_fetchHolding
  have he := effectiveLocationId_eq hr h.ofHolding.eq_null_or
  obtain ⟨found, hf, hb, hfs⟩ := h.ofLocation.fetchItemLocation id
  obtain ⟨members, rfl, -⟩ := Json.exists_obj_of_required hr
  unfold Client.fetchItem
  refine ⟨found, hb, ?_, ?_⟩
  · rw [Reply.answer_bind, ha, ok_bind]
    simp only [Json.member_of_required hr, hr, Reply.lift_ok_bind]
    rw [Reply.answer_bind, hh, ok_bind, he, Reply.lift_ok_bind, Reply.answer_bind, hf]
    rfl
  · rw [Reply.sent_bind_of_ok ha]
    simp only [Json.member_of_required hr, hr, Reply.lift_ok_bind]
    rw [Reply.sent_bind_of_ok hh, he, Reply.lift_ok_bind, Reply.sent_bind_of_quiet hf rfl]
    exact List.rel_append hs (List.rel_append hhs hfs)

theorem Supplies.counts_holdingsRecord (hh : holding ≠ .null) (recordId : Json)
    (found : Option Location) :
    (itemOf recordId item holding found).holdingsRecord.counts = true := by
  have hs := h.ofHolding
  unfold StoresNamed at hs
  obtain rfl | ⟨holdingId, hr⟩ := h.ofHolding.eq_null_or
  · exact absurd rfl hh
  · unfold itemOf
    rw [if_pos (Json.counts_of_required hr)]
    by_contra hn
    rw [if_neg hn] at hs
    exact hh hs

end Item

/-- An item costs one request, and one more for each of holding and location that is named; a
location that storage does not have is not looked for elsewhere. If one of the three is missing,
then rules are refused for the first that is, and nothing happens and nothing is kept. -/
theorem item_resolved_or_refused (c : Client) (id item holding location : Json)
    (h : c.Supplies id item holding location) :
    List.Forall₂ c.Asks
      (("/item-storage/items/" ++ id.inline) ::
        (pathsTo "/holdings-storage/holdings/" (item.get "holdingsRecordId") ++
          pathsTo "/locations/" (namedLocation item holding)))
      (c.fetchItem id).sent ∧
    ∃ i, (c.fetchItem id).answer = .ok i ∧
      ∀ {P : Type} (s : PolicySource P) (patron : Patron) (found : Found P),
        (∀ reason, firstMissing item holding location = some reason →
          s.lookup i patron found = (Reply.fail (.unapplied reason), found)) ∧
        (firstMissing item holding location = none →
          ∃ request, i.criteria patron = .ok request ∧
            location.required "id" = .ok request.location ∧
            (s.applyRules s.kind request).events <+: (s.lookup i patron found).1.events) := by
  obtain hi | ⟨recordId, hr⟩ := h.ofItem.eq_null_or
  · obtain ⟨ha, hs⟩ := h.fetchItem_of_missing hi
    have hh := h.holding_eq_null_of_item hi
    subst hi hh
    refine ⟨hs, _, ha, fun s patron found => ⟨?_, ?_⟩⟩
    · rintro _ ⟨⟩
      exact PolicySource.lookup_of_criteria_error rfl
    · rintro ⟨⟩
  · obtain ⟨l, hb, ha, hs⟩ := h.fetchItem_of_found hr
    refine ⟨hs, _, ha, fun s patron found => ⟨?_, ?_⟩⟩
    · intro reason hm
      apply PolicySource.lookup_of_criteria_error
      obtain ⟨members, rfl, -⟩ := Json.exists_obj_of_required hr
      unfold firstMissing at hm
      rw [if_neg (by simp)] at hm
      split_ifs at hm with hh hl
      · obtain rfl := Option.some.inj hm
        subst hh
        exact criteria_of_holding_missing
      · obtain rfl := Option.some.inj hm
        subst hl
        exact criteria_of_location_missing (h.counts_holdingsRecord hh recordId l) hb
    · intro hm
      obtain ⟨-, hh, hl⟩ := firstMissing_eq_none_iff.mp hm
      have hn := h.counts_holdingsRecord hh recordId l
      obtain ⟨request, hc, hr⟩ := exists_criteria_of_found hn hb hl
      exact ⟨request, hc, hr, PolicySource.applyRules_prefix_lookup hc⟩

end Client

def Storage.ofRecords (records : List (Text × Json)) : Storage := fun request =>
  match records.lookup request.path with
  | some record => .response 200 record.bytes
  | none => .response 404 []

def Client.ofRecords (records : List (Text × Json)) : Client where
  storage := .ofRecords records
  baseUrl := "http://s"
  tenant := .str defaultTenant
  token := none
  timeout := defaultTimeout

def Json.displayedBook : Json := .obj [
  ("id", .str "book"), ("holdingsRecordId", .str "shelf"), ("temporaryLocationId", .str "display")]

def Json.bookShelf : Json := .obj [("id", .str "shelf"), ("permanentLocationId", .str "stacks")]

/-- A book on a display that is gone, though the place of its holding is still there. -/
def Client.closedDisplay : Client := .ofRecords [
  ("/item-storage/items/book", .displayedBook),
  ("/holdings-storage/holdings/shelf", .bookShelf),
  ("/locations/stacks", .obj [("id", .str "stacks")])]

theorem Client.supplies_closedDisplay :
    closedDisplay.Supplies (.str "book") .displayedBook .bookShelf .null where
  ofItem := ⟨⟨200, Json.displayedBook.bytes⟩, by decide +kernel,
    .inr ⟨rfl, by decide +kernel, .str "book", rfl⟩⟩
  ofHolding := ⟨⟨200, Json.bookShelf.bytes⟩, by decide +kernel,
    .inr ⟨rfl, by decide +kernel, .str "shelf", rfl⟩⟩
  ofLocation := ⟨⟨404, []⟩, by decide +kernel, .inl ⟨rfl, rfl⟩⟩

theorem Client.item_resolved_or_refused_of_closedDisplay :
    let c := Client.closedDisplay
    c.Supplies (.str "book") .displayedBook .bookShelf .null ∧
      List.Forall₂ c.Asks ["/item-storage/items/book", "/holdings-storage/holdings/shelf",
        "/locations/display"] (c.fetchItem (.str "book")).sent ∧
      ∃ i, (c.fetchItem (.str "book")).answer = .ok i ∧
        ∀ {P : Type} (s : PolicySource P) (patron : Patron) (found : Found P),
          s.lookup i patron found = (Reply.fail (.unapplied .unknownLocation), found) := by
  intro c
  obtain ⟨hq, i, ha, hl⟩ := item_resolved_or_refused c _ _ _ _ supplies_closedDisplay
  exact ⟨supplies_closedDisplay, hq, i, ha, fun s patron found => (hl s patron found).1 _ rfl⟩

end Lending
