import Lending.Proofs.Storage.Records
import Lending.Storage.Policies

/-! # Questions to storage

Storage may have the record that it is asked for, or answer with another status or with something
that cannot be read, or not answer at all. All of this is foreseen, with three exceptions: a
question that cannot be put, an answer that is nested too deep, and an answer that cannot be read
where it is read as it comes.
-/

namespace Lending

/-- A failure that has an answer of its own. That data cannot be used is unforeseen. -/
def Failure.isForeseen : Failure → Bool
  | data _ => false
  | _ => true

namespace Result

variable {α β : Type} {x : Result α} {f : α → Result β} {a : α} {e : Failure} {P : α → Prop}
  {Q : β → Prop} {faults : DataFault → Prop}

/-- If there is a value then it has a property, and an unforeseen failure is one of some faults. -/
structure Settles (x : Result α) (P : α → Prop) (faults : DataFault → Prop) : Prop where
  value : ∀ a, x = .ok a → P a
  fault : ∀ fault, x = .error (.data fault) → faults fault

theorem settles_ok (h : P a) : Settles (.ok a) P faults where
  value := by
    rintro _ ⟨⟩
    exact h
  fault := nofun

theorem settles_error (h : e.isForeseen = true) : Settles (.error e : Result α) P faults where
  value := nofun
  fault := by
    rintro fault ⟨⟩
    cases h

theorem settles_fault {fault : DataFault} (h : faults fault) :
    Settles (.error (.data fault) : Result α) P faults where
  value := nofun
  fault := by
    rintro _ ⟨⟩
    exact h

theorem Settles.bind (hx : x.Settles P faults)
    (hf : ∀ a, x = .ok a → P a → (f a).Settles Q faults) : (x >>= f).Settles Q faults where
  value := by
    intro b hb
    obtain ⟨a, ha, hb⟩ := bind_eq_ok_iff.mp hb
    exact (hf a ha (hx.value a ha)).value b hb
  fault := by
    intro fault h
    obtain h | ⟨a, ha, h⟩ := bind_eq_error_iff.mp h
    · exact hx.fault fault h
    · exact (hf a ha (hx.value a ha)).fault fault h

theorem Settles.imp {P' : α → Prop} {faults' : DataFault → Prop} (hx : x.Settles P faults)
    (hv : ∀ a, P a → P' a) (hf : ∀ fault, faults fault → faults' fault) :
    x.Settles P' faults' where
  value a ha := hv a (hx.value a ha)
  fault fault h := hf fault (hx.fault fault h)

end Result

inductive Question where
  | policy (kind : PolicyKind) (id : Json)
  | schedule (id : Json)
  | item (id : Json)
  | holding (id : Json)
  | location (id : Json)
  | patron (id : Json)
  | rulesText
  | rule (kind : PolicyKind) (request : MatchCriteria)
  | openingDays (servicePoint : Json) (start finish : Instant)

namespace Question

def path : Question → Text
  | policy kind id => Client.policyPath kind ++ "/" ++ id.inline
  | schedule id => Client.schedulesPath ++ "/" ++ id.inline
  | item id => "/item-storage/items/" ++ id.inline
  | holding id => "/holdings-storage/holdings/" ++ id.inline
  | location id => "/locations/" ++ id.inline
  | patron id => "/users/" ++ id.inline
  | rulesText => "/circulation-rules-storage"
  | rule kind _ => s!"/circulation/rules/{kind.name}-policy"
  | openingDays .. => "/calendar/periods"

def params : Question → Option (List (Text × Text))
  | rule _ request => some (Client.ruleParameters request)
  | openingDays servicePoint start finish =>
    some (Client.openingDaysParameters servicePoint start finish)
  | _ => none

/-- What a record has to be like. Policies and schedules are passed on as they are. -/
def Fits : Question → Json → Prop
  | policy .., _ | schedule _, _ => True
  | item _, v | holding _, v | location _, v | patron _, v => ∃ id, v.required "id" = .ok id
  | rulesText, v => v.IsObject
  | rule kind _, v => v.IsRule kind
  | openingDays .., v => v.Lists "openingPeriods" Json.IsPeriod

/-- A response has another status, or it cannot be read, or it holds the record. -/
def Expects (q : Question) (response : Response) : Prop :=
  response.status ≠ 200 ∨ (∃ u, Json.ofBody response.body = .error u) ∨
    ∃ v, Json.ofBody response.body = .ok v ∧ q.Fits v

/-- The questions whose answers are read as they come, so that one that cannot be read is
unforeseen. -/
def isRaw : Question → Bool
  | rule .. | openingDays .. => true
  | _ => false

end Question

/-- Storage has the record or gives another status, it gives something that cannot be read, or it
does not answer. -/
inductive StorageAnswer.Ordinary (fits : Json → Prop) : StorageAnswer → Prop
  | record {body : List UInt8} {v : Json} : Json.ofBody body = .ok v → fits v →
      Ordinary fits (.response 200 body)
  | status {status : Int} {body : List UInt8} : status ≠ 200 → Ordinary fits (.response status body)
  | unreadable {body : List UInt8} {u : Json.Unreadable} : Json.ofBody body = .error u →
      Ordinary fits (.response 200 body)
  | timedOut : Ordinary fits .timedOut
  | failed {reason : Text} : Ordinary fits (.failed reason)

namespace Client

/-- If a question can be put then its answer is ordinary. -/
def AnswersOrdinarily (c : Client) (q : Question) : Prop :=
  ∀ address request, c.requestFor q.path q.params = .ok (address, request) →
    (c.storage request).Ordinary q.Fits

/-- The unforeseen faults: the question cannot be put, its address does not say where to go, or its
answer cannot be read. -/
inductive FaultOf (c : Client) (q : Question) : DataFault → Prop
  | unsent {fault : DataFault} : c.requestFor q.path q.params = .error (.data fault) →
      FaultOf c q fault
  | undirected {address : Address} {request : SentRequest} {status : Int} {body : List UInt8} :
      c.requestFor q.path q.params = .ok (address, request) → address.isAbsolute = false →
      c.storage request = .response status body → FaultOf c q .malformed
  | unreadable {response : Response} {u : Json.Unreadable} :
      (c.get q.path q.params).answer = .ok response → response.status = 200 →
      Json.ofBody response.body = .error u → q.isRaw = true ∨ u = .depth →
      FaultOf c q (unreadableFault u)

variable {α : Type} {c : Client} {q : Question} {answer : Result α} {g : Json → Result α}
  {recordType : String} {missing : Result Json} {fault : DataFault}

section Questions

theorem settles_outcome {address : Address} {request : SentRequest}
    (hr : c.requestFor q.path q.params = .ok (address, request))
    (h : (c.storage request).Ordinary q.Fits) :
    (c.outcome q.path address.isAbsolute (c.storage request)).Settles q.Expects
      (c.FaultOf q) := by
  have hresponse : ∀ status body, c.storage request = .response status body →
      q.Expects ⟨status, body⟩ →
      (c.outcome q.path address.isAbsolute (.response status body)).Settles q.Expects
        (c.FaultOf q) := by
    intro status body hs he
    unfold outcome
    dsimp only
    split
    · exact Result.settles_ok he
    next ha => exact Result.settles_fault (.undirected hr (Bool.eq_false_iff.mpr ha) hs)
  generalize hs : c.storage request = answer at h hresponse
  cases h with
  | record hb hf => exact hresponse _ _ rfl (.inr (.inr ⟨_, hb, hf⟩))
  | status hn => exact hresponse _ _ rfl (.inl hn)
  | unreadable hu => exact hresponse _ _ rfl (.inr (.inl ⟨_, hu⟩))
  | timedOut => exact Result.settles_error rfl
  | failed => exact Result.settles_error rfl

theorem settles_get (h : c.AnswersOrdinarily q) :
    (c.get q.path q.params).answer.Settles q.Expects (c.FaultOf q) := by
  cases hr : c.requestFor q.path q.params with
  | error e =>
    rw [get_of_requestFor_error hr]
    cases e with
    | data fault => exact Result.settles_fault (.unsent hr)
    | _ => exact Result.settles_error rfl
  | ok made =>
    obtain ⟨address, request⟩ := made
    rw [get_of_requestFor_ok hr]
    exact settles_outcome hr (h address request hr)

theorem settles_fetchRecord (hp : q.params = none) (h : c.AnswersOrdinarily q)
    (hm : ∀ fault, missing ≠ .error (.data fault)) :
    (c.fetchRecord q.path recordType missing).answer.Settles
      (fun v => missing = .ok v ∨ q.Fits v) (c.FaultOf q) := by
  have hg := settles_get h
  rw [hp] at hg
  rw [fetchRecord, Reply.answer_bind]
  refine hg.bind fun response hr he => ?_
  split
  next hs =>
    obtain hn | ⟨u, hu⟩ | ⟨v, hv, hf⟩ := he
    · exact absurd hs hn
    · -- Of all that cannot be read, only what is nested too deep is unforeseen.
      rw [hu]
      cases u with
      | depth => exact Result.settles_fault (.unreadable (hp ▸ hr) hs hu (.inr rfl))
      | _ => exact Result.settles_error rfl
    · rw [hv]
      exact Result.settles_ok (.inr hf)
  next hs =>
    split
    · exact ⟨fun v hv => .inl hv, fun fault he => absurd he (hm fault)⟩
    · exact Result.settles_error rfl

/-- Something is read from the body of a response, and another status than 200 is foreseen. -/
def ReadsBody (c : Client) (q : Question) (answer : Result α) (g : Json → Result α) : Prop :=
  ∃ f : Response → Result α, answer = (c.get q.path q.params).answer >>= f ∧
    (∀ response, response.status = 200 → f response = bodyOf response >>= g) ∧
    ∀ response fault, response.status ≠ 200 → f response ≠ .error (.data fault)

theorem ReadsBody.settles (hb : c.ReadsBody q answer g) (hq : q.isRaw = true)
    (h : c.AnswersOrdinarily q) (hg : ∀ v, q.Fits v → ∃ a, g v = .ok a) :
    answer.Settles (fun _ => True) (c.FaultOf q) := by
  obtain ⟨f, rfl, hf, hn⟩ := hb
  refine (settles_get h).bind fun response hr he => ?_
  by_cases hs : response.status = 200
  · rw [hf response hs]
    obtain hne | ⟨u, hu⟩ | ⟨v, hv, hfit⟩ := he
    · exact absurd hs hne
    · rw [bodyOf, hu]
      exact Result.settles_fault (.unreadable hr hs hu (.inl hq))
    · obtain ⟨a, ha⟩ := hg v hfit
      rw [bodyOf, hv]
      change (g v).Settles _ _
      rw [ha]
      exact Result.settles_ok trivial
  · exact ⟨fun _ _ => trivial, fun fault he => absurd he (hn response fault hs)⟩

theorem FaultOf.answer_get (h : c.FaultOf q fault) :
    (c.get q.path q.params).answer = .error (.data fault) ∨
      ∃ response u, (c.get q.path q.params).answer = .ok response ∧ response.status = 200 ∧
        Json.ofBody response.body = .error u ∧ (q.isRaw = true ∨ u = .depth) ∧
        unreadableFault u = fault := by
  cases h with
  | unsent hr =>
    rw [get_of_requestFor_error hr]
    exact .inl rfl
  | undirected hr ha hs =>
    rw [get_of_requestFor_ok hr, hs, ha]
    exact .inl rfl
  | unreadable hr hs hu hq => exact .inr ⟨_, _, hr, hs, hu, hq, rfl⟩

theorem FaultOf.answer_fetchRecord (h : c.FaultOf q fault) (hp : q.params = none)
    (hq : q.isRaw = false) :
    (c.fetchRecord q.path recordType missing).answer = .error (.data fault) := by
  have hg := h.answer_get
  rw [hp] at hg
  rw [fetchRecord, Reply.answer_bind]
  obtain hr | ⟨response, u, hr, hs, hu, hd, rfl⟩ := hg
  · rw [hr]
    rfl
  · obtain rfl : u = .depth := by simpa [hq] using hd
    rw [hr, ok_bind, if_pos hs, hu]
    rfl

theorem FaultOf.of_readsBody (h : c.FaultOf q fault) (hb : c.ReadsBody q answer g) :
    answer = .error (.data fault) := by
  obtain ⟨f, rfl, hf, -⟩ := hb
  obtain hr | ⟨response, u, hr, hs, hu, -, rfl⟩ := h.answer_get
  · rw [hr]
    rfl
  · rw [hr, ok_bind, hf response hs, bodyOf, hu]
    rfl

end Questions

end Client

end Lending
