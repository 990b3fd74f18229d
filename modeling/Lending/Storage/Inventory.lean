import Lending.Item
import Lending.Json.Access
import Lending.Storage.Client

/-! # Items, locations and patrons in storage

An item is put together from its own record, its holding and its effective location.
-/

namespace Lending.Client

def inventoryLogger : String := "circulation_gateway.infrastructure.clients.inventory"

def fetchLocation (c : Client) (id : Json) : Reply (Option Location) := do
  match ← c.fetchRecord ("/locations/" ++ id.inline) "location" (.ok .null) with
  | .null => return none
  | record =>
    let id ← record.required "id"
    let name ← record.member "name"
    let campus ← record.member "campusId"
    let library ← record.member "libraryId"
    let institution ← record.member "institutionId"
    let primaryServicePoint ← record.member "primaryServicePoint"
    return some { id, name, campus, library, institution, primaryServicePoint }

/-- The item's temporary location, else the holding's permanent one, else the item's permanent one.
-/
def effectiveLocationId (item holding : Json) : Result Json := do
  let temporary ← item.member "temporaryLocationId"
  if temporary.counts then return temporary
  if holding.counts then
    let ofHolding ← holding.member "permanentLocationId"
    if ofHolding.counts then return ofHolding
  item.member "permanentLocationId"

def fetchHolding (c : Client) (id : Json) : Reply Json :=
  if id.counts then c.fetchRecord ("/holdings-storage/holdings/" ++ id.inline) "holding" (.ok .null)
  else return .null

/-- The location with an id; a missing one is logged. -/
def fetchItemLocation (c : Client) (itemId locationId : Json) : Reply (Option Location) :=
  if !locationId.counts then return none else do
    match ← c.fetchLocation locationId with
    | some location => return some location
    | none =>
      Reply.log .warning inventoryLogger "Could not get location for item"
        [("location_id", locationId), ("item_id", itemId)]
      return none

/-- An item with its holding and its effective location; one without a record is not found. -/
def fetchItem (c : Client) (id : Json) : Reply Item := do
  match ← c.fetchRecord ("/item-storage/items/" ++ id.inline) "item" (.ok .null) with
  | .null => return Item.notFound id
  | record =>
    let holdingsRecord ← record.member "holdingsRecordId"
    let holding ← c.fetchHolding holdingsRecord
    let location ← c.fetchItemLocation id (← effectiveLocationId record holding)
    let itemId ← record.required "id"
    let materialType ← record.member "materialTypeId"
    let permanentLoanType ← record.member "permanentLoanTypeId"
    let temporaryLoanType ← record.member "temporaryLoanTypeId"
    let holdingsRecord := if holding.counts then holdingsRecord else .null
    return { id := itemId, materialType, permanentLoanType, temporaryLoanType, holdingsRecord,
             location }

def fetchItems (c : Client) (ids : List Json) : Reply (List Item) := Reply.all (ids.map c.fetchItem)

def fetchPatron (c : Client) (id : Json) : Reply Patron := do
  let record ← c.fetchRecord ("/users/" ++ id.inline) "user" (.error (.refused (.userNotFound id)))
  let patronId ← record.required "id"
  return { id := patronId, patronGroup := ← record.member "patronGroup" }

def fetchItemAndPatron (c : Client) (itemId userId : Json) : Reply (Item × Patron) :=
  Reply.both (c.fetchItem itemId) (c.fetchPatron userId)

end Lending.Client
