import Lending.Proofs.Reply
import Lending.Storage.Client

/-! # Requests that go out

What goes out on the way to an answer is read off its events. A question to storage that has an
answer went out once, with the parameters that it was asked with.
-/

namespace Lending

variable {α β : Type}

def Event.sent? : Event → Option SentRequest
  | .sent request => some request
  | _ => none

namespace Reply

/-- The requests that went out on the way to an answer, in order. -/
def sent (x : Reply α) : List SentRequest := x.events.filterMap Event.sent?

theorem sent_bind_of_ok {x : Reply α} {f : α → Reply β} {a : α} (h : x.answer = .ok a) :
    (x >>= f).sent = x.sent ++ (f a).sent := by
  rw [bind_of_ok h, sent, List.filterMap_append]
  rfl

theorem sent_bind_of_quiet {x : Reply α} {f : α → Reply β} {a : α} (h : x.answer = .ok a)
    (hf : (f a).sent = []) : (x >>= f).sent = x.sent := by
  rw [sent_bind_of_ok h, hf, List.append_nil]

@[simp] theorem sent_pure (a : α) : (pure a : Reply α).sent = [] := rfl

@[simp] theorem sent_lift (r : Result α) : (liftM r : Reply α).sent = [] := rfl

@[simp] theorem sent_fail (e : Failure) : (fail e : Reply α).sent = [] := rfl

end Reply

namespace Client

variable {c : Client} {path : Text} {params : Option (List (Text × Text))} {address : Address}
  {request : SentRequest} {response : Response}

/-- The address of a path, and the request that goes to it. -/
def requestFor (c : Client) (path : Text) (params : Option (List (Text × Text))) :
    Result (Address × SentRequest) := do
  let address ← Address.ofText (c.baseUrl ++ path)
  return (address, ← c.requestTo address params)

theorem get_of_requestFor_ok (h : c.requestFor path params = .ok (address, request)) :
    c.get path params = {
      events := [.sent request, .counted (.storageRequest (areaOf path)) 1]
      answer := c.outcome path address.isAbsolute (c.storage request) } := by
  rw [requestFor] at h
  simp only [get, h]
  rfl

theorem get_of_requestFor_error {e : Failure} (h : c.requestFor path params = .error e) :
    c.get path params = {
      events := [.counted (.storageRequest (areaOf path)) 1], answer := .error e } := by
  rw [requestFor] at h
  simp only [get, h]
  rfl

theorem exists_requestFor_of_get_eq_ok (h : (c.get path params).answer = .ok response) :
    ∃ address request, c.requestFor path params = .ok (address, request) ∧
      (c.get path params).sent = [request] := by
  cases hr : c.requestFor path params with
  | error e =>
    rw [get_of_requestFor_error hr] at h
    cases h
  | ok made =>
    obtain ⟨address, request⟩ := made
    rw [get_of_requestFor_ok hr]
    exact ⟨address, request, rfl, rfl⟩

theorem params_of_requestFor (h : c.requestFor path params = .ok (address, request)) :
    request.params = params.getD [] := by
  simp only [requestFor, requestTo, bind_eq_ok_iff, pure_eq_ok_iff] at h
  obtain ⟨_, -, _, ⟨tenant, -, token, -, target, -, -, -, rfl⟩, h⟩ := h
  obtain ⟨-, rfl⟩ := Prod.mk.inj h
  rfl

end Client

end Lending
