import Lending.Proofs.Storage.Questions

/-! # How requests of a client end

What a client is asked for takes one question to storage, and for an item up to three. It ends in a
value or in a failure that is foreseen, unless one of its questions has an unforeseen fault.
-/

namespace Lending

inductive Operation where
  | policy (kind : PolicyKind) (id : Json)
  | schedule (id : Json)
  | item (id : Json)
  | patron (id : Json)
  | rulesText
  | rule (kind : PolicyKind) (request : MatchCriteria)
  | openingDays (servicePoint : Json) (start finish : Instant)

namespace Operation

def Value : Operation → Type
  | policy .. | schedule _ | rulesText => Json
  | item _ => Item
  | patron _ => Patron
  | rule .. => AppliedRule
  | openingDays .. => List OpeningDay

def question : Operation → Question
  | policy kind id => .policy kind id
  | schedule id => .schedule id
  | item id => .item id
  | patron id => .patron id
  | rulesText => .rulesText
  | rule kind request => .rule kind request
  | openingDays servicePoint start finish => .openingDays servicePoint start finish

end Operation

namespace Client

def perform (c : Client) : (op : Operation) → Reply op.Value
  | .policy kind id => c.fetchPolicy kind id
  | .schedule id => c.fetchSchedule id
  | .item id => c.fetchItem id
  | .patron id => c.fetchPatron id
  | .rulesText => c.fetchRulesText
  | .rule kind request => c.applyRules kind request
  | .openingDays servicePoint start finish => c.fetchOpeningDays servicePoint start finish

def fetchItemRecord (c : Client) (id : Json) : Reply Json :=
  c.fetchRecord (Question.item id).path "item" (.ok .null)

/-- The questions of an operation. Only an item takes more than one: what it is asked about next
depends on what storage has. -/
inductive Needs (c : Client) : Operation → Question → Prop
  | first {op : Operation} : Needs c op op.question
  | holding {id item : Json} : (c.fetchItemRecord id).answer = .ok item →
      (item.get "holdingsRecordId").counts = true →
      Needs c (.item id) (.holding (item.get "holdingsRecordId"))
  | location {id item holding : Json} : (c.fetchItemRecord id).answer = .ok item →
      (c.fetchHolding (item.get "holdingsRecordId")).answer = .ok holding →
      (namedLocation item holding).counts = true →
      Needs c (.item id) (.location (namedLocation item holding))

variable {α : Type} {c : Client} {q : Question} {answer : Result α} {recordType : String}
  {fault : DataFault}

section Operations

theorem readsBody_applyRules (c : Client) (kind : PolicyKind) (request : MatchCriteria) :
    c.ReadsBody (.rule kind request) (c.applyRules kind request).answer
      (RulesCall.ruleOf kind) := by
  have heq := RulesCall.reply_eq ⟨c, kind, request⟩
  refine ⟨_, (congrArg Reply.answer heq).trans (Reply.answer_bind ..), ?_, ?_⟩
  · intro response hs
    rw [if_neg (by omega), if_neg (by omega), Reply.answer_bind]
    rfl
  · intro response fault hs
    rw [if_pos hs]
    split
    · nofun
    · nofun

theorem readsBody_fetchOpeningDays (c : Client) (servicePoint : Json) (start finish : Instant) :
    c.ReadsBody (.openingDays servicePoint start finish)
      (c.fetchOpeningDays servicePoint start finish).answer openingDaysOf := by
  refine ⟨_, Reply.answer_bind .., ?_, ?_⟩
  · intro response hs
    rw [if_neg (by omega), if_neg (by omega), Reply.answer_bind]
    rfl
  · intro response fault hs
    rw [if_pos hs]
    split
    · nofun
    · nofun

theorem settles_fetchPolicy {kind : PolicyKind} {id : Json}
    (h : c.AnswersOrdinarily (.policy kind id)) :
    (c.fetchPolicy kind id).answer.Settles (fun _ => True) (c.FaultOf (.policy kind id)) := by
  rw [fetchPolicy, Reply.answer_onFailure]
  exact (settles_fetchRecord rfl h (by simp)).imp (fun _ _ => trivial) fun _ hf => hf

theorem settles_fetchSchedule {id : Json} (h : c.AnswersOrdinarily (.schedule id)) :
    (c.fetchSchedule id).answer.Settles (fun _ => True) (c.FaultOf (.schedule id)) :=
  (settles_fetchRecord rfl h (by simp)).imp (fun _ _ => trivial) fun _ hf => hf

theorem settles_fetchPatron {id : Json} (h : c.AnswersOrdinarily (.patron id)) :
    (c.fetchPatron id).answer.Settles (fun _ => True) (c.FaultOf (.patron id)) := by
  rw [fetchPatron, Reply.answer_bind]
  refine (settles_fetchRecord rfl h (by simp)).bind fun record _ hr => ?_
  obtain hm | ⟨patronId, hp⟩ := hr
  · cases hm
  · rw [hp, Json.member_of_required hp]
    exact Result.settles_ok trivial

theorem settles_fetchRulesText (h : c.AnswersOrdinarily .rulesText) :
    c.fetchRulesText.answer.Settles (fun _ => True) (c.FaultOf .rulesText) := by
  rw [fetchRulesText, Reply.answer_bind]
  refine (settles_fetchRecord rfl h (by simp)).bind fun record _ hr => ?_
  obtain hm | ho := hr
  · cases hm
  · rw [Json.memberD_of_isObject ho]
    exact Result.settles_ok trivial

section Item

variable {id itemId item holding : Json}

def IsRecord (v : Json) : Prop := v = .null ∨ ∃ id, v.required "id" = .ok id

theorem IsRecord.of_counts {name : Text} (h : IsRecord item)
    (hc : (item.get name).counts = true) : ∃ id, item.required "id" = .ok id := by
  obtain rfl | hr := h
  · cases hc
  · exact hr

theorem settles_fetchInventory (hp : q.params = none) (h : c.AnswersOrdinarily q)
    (hq : q.Fits = fun v => ∃ id, v.required "id" = .ok id) :
    (c.fetchRecord q.path recordType (.ok .null)).answer.Settles IsRecord (c.FaultOf q) := by
  refine (settles_fetchRecord hp h (by simp)).imp ?_ fun _ hf => hf
  rintro v (hv | hf)
  · exact .inl (Except.ok.inj hv).symm
  · rw [hq] at hf
    exact .inr hf

theorem settles_fetchHolding (h : id.counts = true → c.AnswersOrdinarily (.holding id)) :
    (c.fetchHolding id).answer.Settles IsRecord fun fault =>
      id.counts = true ∧ c.FaultOf (.holding id) fault := by
  unfold fetchHolding
  split
  next hc => exact (settles_fetchInventory rfl (h hc) rfl).imp (fun _ h => h) fun _ h => ⟨hc, h⟩
  next => exact Result.settles_ok (.inl rfl)

theorem settles_fetchLocation (h : c.AnswersOrdinarily (.location id)) :
    (c.fetchLocation id).answer.Settles (fun _ => True) (c.FaultOf (.location id)) := by
  rw [fetchLocation, Reply.answer_bind]
  refine (settles_fetchInventory rfl h rfl).bind fun record _ hr => ?_
  obtain rfl | ⟨i, hi⟩ := hr
  · exact Result.settles_ok trivial
  · obtain ⟨members, rfl, -⟩ := Json.exists_obj_of_required hi
    simp only [hi, Json.member_of_required hi]
    exact Result.settles_ok trivial

theorem settles_fetchItemLocation (itemId : Json)
    (h : id.counts = true → c.AnswersOrdinarily (.location id)) :
    (c.fetchItemLocation itemId id).answer.Settles (fun _ => True) fun fault =>
      id.counts = true ∧ c.FaultOf (.location id) fault := by
  unfold fetchItemLocation
  split
  next => exact Result.settles_ok trivial
  next hn =>
    have hc : id.counts = true := by simpa using hn
    rw [Reply.answer_bind]
    refine ((settles_fetchLocation (h hc)).imp (fun _ h => h) fun _ h => ⟨hc, h⟩).bind ?_
    rintro (_ | location) - -
    · exact Result.settles_ok trivial
    · exact Result.settles_ok trivial

theorem answer_fetchItem_of_error {e : Failure} (h : (c.fetchItemRecord id).answer = .error e) :
    (c.fetchItem id).answer = .error e :=
  Reply.answer_bind_of_error h

theorem answer_fetchItem_of_null (h : (c.fetchItemRecord id).answer = .ok .null) :
    (c.fetchItem id).answer = .ok (.notFound id) := by
  unfold fetchItemRecord Question.path at h
  rw [fetchItem, Reply.answer_bind, h]
  rfl

theorem answer_fetchItem (h : (c.fetchItemRecord id).answer = .ok item)
    (hi : item.required "id" = .ok itemId) :
    (c.fetchItem id).answer = (do
      let holding ← (c.fetchHolding (item.get "holdingsRecordId")).answer
      let place ← effectiveLocationId item holding
      let location ← (c.fetchItemLocation id place).answer
      return itemOf itemId item holding location) := by
  unfold fetchItemRecord Question.path at h
  obtain ⟨members, rfl, -⟩ := Json.exists_obj_of_required hi
  rw [fetchItem, Reply.answer_bind, h, ok_bind]
  simp only [Json.member_of_required hi, hi, Reply.lift_ok_bind, Reply.answer_bind]
  rfl

theorem settles_fetchItem (h : ∀ q, c.Needs (.item id) q → c.AnswersOrdinarily q) :
    (c.fetchItem id).answer.Settles (fun _ => True) fun fault =>
      ∃ q, c.Needs (.item id) q ∧ c.FaultOf q fault := by
  have hrecord : (c.fetchItemRecord id).answer.Settles IsRecord (c.FaultOf (.item id)) :=
    settles_fetchInventory rfl (h _ .first) rfl
  cases ha : (c.fetchItemRecord id).answer with
  | error e =>
    rw [answer_fetchItem_of_error ha]
    refine ⟨fun _ _ => trivial, ?_⟩
    rintro fault ⟨⟩
    exact ⟨_, .first, hrecord.fault fault ha⟩
  | ok item =>
    obtain rfl | ⟨itemId, hi⟩ := hrecord.value item ha
    · rw [answer_fetchItem_of_null ha]
      exact Result.settles_ok trivial
    · -- Holding and location are asked for only if they are named.
      rw [answer_fetchItem ha hi]
      have hholding := settles_fetchHolding fun hc => h _ (.holding ha hc)
      refine (hholding.imp (fun _ h => h) ?_).bind fun holding hh hr => ?_
      · rintro fault ⟨hc, hf⟩
        exact ⟨_, .holding ha hc, hf⟩
      rw [effectiveLocationId_eq hi hr, ok_bind]
      have hlocation := settles_fetchItemLocation id fun hc => h _ (.location ha hh hc)
      refine (hlocation.imp (fun _ h => h) ?_).bind fun location _ _ => ?_
      · rintro fault ⟨hc, hf⟩
        exact ⟨_, .location ha hh hc, hf⟩
      exact Result.settles_ok trivial

theorem FaultOf.answer_fetchHolding (h : c.FaultOf (.holding id) fault) (hc : id.counts = true) :
    (c.fetchHolding id).answer = .error (.data fault) := by
  rw [fetchHolding, if_pos hc]
  exact h.answer_fetchRecord rfl rfl

theorem FaultOf.answer_fetchItemLocation (h : c.FaultOf (.location id) fault)
    (hc : id.counts = true) : (c.fetchItemLocation itemId id).answer = .error (.data fault) := by
  rw [fetchItemLocation, if_neg (by simp [hc])]
  exact Reply.answer_bind_of_error (Reply.answer_bind_of_error (h.answer_fetchRecord rfl rfl))

theorem IsRecord.of_named (h : IsRecord item)
    (hh : (c.fetchHolding (item.get "holdingsRecordId")).answer = .ok holding)
    (hc : (namedLocation item holding).counts = true) : ∃ id, item.required "id" = .ok id := by
  obtain rfl | hr := h
  · cases hh
    cases hc
  · exact hr

end Item

theorem FaultOf.answer_perform {op : Operation} (h : ∀ q, c.Needs op q → c.AnswersOrdinarily q)
    (hn : c.Needs op q) (hf : c.FaultOf q fault) :
    (c.perform op).answer = .error (.data fault) := by
  cases hn with
  | first =>
    cases op with
    | policy kind id => exact (Reply.answer_onFailure ..).trans (hf.answer_fetchRecord rfl rfl)
    | schedule id => exact hf.answer_fetchRecord rfl rfl
    | item id => exact answer_fetchItem_of_error (hf.answer_fetchRecord rfl rfl)
    | patron id => exact Reply.answer_bind_of_error (hf.answer_fetchRecord rfl rfl)
    | rulesText => exact Reply.answer_bind_of_error (hf.answer_fetchRecord rfl rfl)
    | rule kind request => exact hf.of_readsBody (readsBody_applyRules c kind request)
    | openingDays servicePoint start finish =>
      exact hf.of_readsBody (readsBody_fetchOpeningDays c servicePoint start finish)
  | @holding id item ha hc =>
    have hitem := (settles_fetchInventory rfl (h _ .first) rfl).value item ha
    obtain ⟨itemId, hi⟩ := hitem.of_counts hc
    refine (answer_fetchItem ha hi).trans ?_
    rw [hf.answer_fetchHolding hc]
    rfl
  | @location id item holding ha hh hc =>
    have hitem := (settles_fetchInventory rfl (h _ .first) rfl).value item ha
    obtain ⟨itemId, hi⟩ := hitem.of_named hh hc
    have hholding := (settles_fetchHolding fun hn => h _ (.holding ha hn)).value holding hh
    refine (answer_fetchItem ha hi).trans ?_
    rw [hh, ok_bind, effectiveLocationId_eq hi hholding, ok_bind, hf.answer_fetchItemLocation hc]
    rfl

theorem settles_of_first {op : Operation} {P : α → Prop}
    (h : answer.Settles P (c.FaultOf op.question)) :
    answer.Settles P fun fault => ∃ q, c.Needs op q ∧ c.FaultOf q fault :=
  h.imp (fun _ ha => ha) fun _ hf => ⟨op.question, .first, hf⟩

theorem settles_perform {op : Operation} (h : ∀ q, c.Needs op q → c.AnswersOrdinarily q) :
    (c.perform op).answer.Settles (fun _ => True) fun fault =>
      ∃ q, c.Needs op q ∧ c.FaultOf q fault := by
  have hfirst := h _ .first
  cases op with
  | policy kind id => exact settles_of_first (settles_fetchPolicy hfirst)
  | schedule id => exact settles_of_first (settles_fetchSchedule hfirst)
  | item id => exact settles_fetchItem h
  | patron id => exact settles_of_first (settles_fetchPatron hfirst)
  | rulesText => exact settles_of_first (settles_fetchRulesText hfirst)
  | rule kind request =>
    have hb := readsBody_applyRules c kind request
    exact settles_of_first (hb.settles rfl hfirst fun _ hv => hv.exists_ruleOf)
  | openingDays servicePoint start finish =>
    have hb := readsBody_fetchOpeningDays c servicePoint start finish
    exact settles_of_first (hb.settles rfl hfirst fun _ hv => hv.exists_openingDaysOf)

end Operations

/-- Where the answers to its questions are ordinary, an operation ends in a value or in a foreseen
failure exactly if none of the questions has an unforeseen fault. Such a fault is what it ends with.
-/
theorem perform_foreseen_unless_fault (c : Client) (op : Operation)
    (h : ∀ q, c.Needs op q → c.AnswersOrdinarily q) :
    (((∃ v, (c.perform op).answer = .ok v) ∨
        ∃ e, (c.perform op).answer = .error e ∧ e.isForeseen = true) ↔
      ∀ q fault, c.Needs op q → ¬ c.FaultOf q fault) ∧
    ∀ q fault, c.Needs op q → c.FaultOf q fault →
      (c.perform op).answer = .error (.data fault) := by
  have hf : ∀ q fault, c.Needs op q → c.FaultOf q fault →
      (c.perform op).answer = .error (.data fault) := fun _ _ hn hf => hf.answer_perform h hn
  refine ⟨⟨?_, fun hn => ?_⟩, hf⟩
  · rintro (⟨v, hv⟩ | ⟨e, he, ht⟩) q fault hn hq
    · rw [hf q fault hn hq] at hv
      cases hv
    · rw [hf q fault hn hq] at he
      cases he
      cases ht
  · cases ha : (c.perform op).answer with
    | ok v => exact .inl ⟨v, rfl⟩
    | error e =>
      refine .inr ⟨e, rfl, ?_⟩
      cases e with
      | data fault =>
        obtain ⟨q, hq, hqf⟩ := (settles_perform h).fault fault ha
        exact absurd hqf (hn q fault hq)
      | _ => rfl

def illegible : Client := answering (.response 200 (Text.Utf8.bytes "not json".toList))

theorem ofBody_illegible : Json.ofBody (Text.Utf8.bytes "not json".toList) =
    .error (.text "Expecting value: line 1 column 1 (char 0)") := by
  decide +kernel

theorem answersOrdinarily_illegible (q : Question) : illegible.AnswersOrdinarily q := by
  intro address request _
  exact .unreadable ofBody_illegible

section Stored

variable {path : Text} {id record item holding location : Json}

theorem Stores.answersOrdinarily (h : c.Stores q.path record) (hp : q.params = none)
    (hq : q.Fits = fun v => ∃ id, v.required "id" = .ok id) : c.AnswersOrdinarily q := by
  intro address request hr
  obtain ⟨response, hg, h⟩ := h
  rw [hp] at hr
  rw [get_of_requestFor_ok hr] at hg
  cases hs : c.storage request with
  | timedOut => exact .timedOut
  | failed => exact .failed
  | unwritable fault =>
    rw [hs] at hg
    cases hg
  | response status body =>
    rw [hs] at hg
    unfold outcome at hg
    dsimp only at hg
    split at hg
    · obtain rfl := Except.ok.inj hg
      obtain ⟨hn, -⟩ | ⟨rfl, hb, hid⟩ := h
      · exact .status (by dsimp only at hn; omega)
      · exact .record hb (hq ▸ hid)
    · cases hg

theorem Stores.not_faultOf (h : c.Stores q.path record) (hp : q.params = none) :
    ¬ c.FaultOf q fault := by
  intro hf
  obtain ⟨response, hg, h⟩ := h
  obtain hn | ⟨response', u, hr, hs, hu, -⟩ := hp ▸ hf.answer_get
  · cases hg.symm.trans hn
  · obtain rfl := Except.ok.inj (hg.symm.trans hr)
    obtain ⟨hn, -⟩ | ⟨-, hb, -⟩ := h
    · omega
    · cases hb.symm.trans hu

theorem Supplies.exists_stores (h : c.Supplies id item holding location)
    (hn : c.Needs (.item id) q) : ∃ record, c.Stores q.path record ∧ q.params = none ∧
      q.Fits = fun v => ∃ id, v.required "id" = .ok id := by
  have hi := h.ofItem.answer_fetchRecord "item"
  cases hn with
  | first => exact ⟨_, h.ofItem, rfl, rfl⟩
  | holding ha hc =>
    obtain rfl := Except.ok.inj (hi.symm.trans ha)
    have hh := h.ofHolding
    rw [StoresNamed, if_pos hc] at hh
    exact ⟨_, hh, rfl, rfl⟩
  | location ha hh hc =>
    obtain rfl := Except.ok.inj (hi.symm.trans ha)
    obtain rfl := Except.ok.inj (h.ofHolding.answer_fetchHolding.symm.trans hh)
    have hl := h.ofLocation
    rw [StoresNamed, if_pos hc] at hl
    exact ⟨_, hl, rfl, rfl⟩

end Stored

/-- That rules cannot be read is unforeseen. The book on the closed display is asked about three
times, and nothing is unforeseen. -/
theorem perform_foreseen_unless_fault_of_illegible :
    (∀ q, illegible.Needs (.rule .loan {}) q → illegible.AnswersOrdinarily q) ∧
    (illegible.applyRules .loan {}).answer = .error (.data .notJson) ∧
    (∀ q, closedDisplay.Needs (.item (.str "book")) q → closedDisplay.AnswersOrdinarily q) ∧
    closedDisplay.Needs (.item (.str "book")) (.holding (.str "shelf")) ∧
    closedDisplay.Needs (.item (.str "book")) (.location (.str "display")) ∧
    ((∃ item, (closedDisplay.fetchItem (.str "book")).answer = .ok item) ∨
      ∃ e, (closedDisplay.fetchItem (.str "book")).answer = .error e ∧ e.isForeseen = true) := by
  have hi : ∀ q, illegible.Needs (.rule .loan {}) q → illegible.AnswersOrdinarily q :=
    fun q _ => answersOrdinarily_illegible q
  have hr : (illegible.get (Question.rule .loan {}).path (Question.rule .loan {}).params).answer =
      .ok ⟨200, Text.Utf8.bytes "not json".toList⟩ := by
    decide +kernel
  have hf : illegible.FaultOf (.rule .loan {}) .notJson :=
    .unreadable hr rfl ofBody_illegible (.inl rfl)
  have hd := supplies_closedDisplay
  have ho q (hn : closedDisplay.Needs (.item (.str "book")) q) :
      closedDisplay.AnswersOrdinarily q := by
    obtain ⟨record, hs, hp, hq⟩ := hd.exists_stores hn
    exact hs.answersOrdinarily hp hq
  have ha := hd.ofItem.answer_fetchRecord "item"
  refine ⟨hi, ?_, ho, ?_, ?_, ?_⟩
  · exact (perform_foreseen_unless_fault illegible (.rule .loan {}) hi).2 _ _ .first hf
  · exact .holding ha rfl
  · exact .location ha hd.ofHolding.answer_fetchHolding rfl
  · apply (perform_foreseen_unless_fault closedDisplay (.item (.str "book")) ho).1.mpr
    intro q fault hn
    obtain ⟨record, hs, hp, -⟩ := hd.exists_stores hn
    exact hs.not_faultOf hp

/-- That opening days cannot be read is unforeseen, and that a policy cannot be read is not. -/
theorem illegible_days_unforeseen :
    let day : Instant := ⟨⟨⟨2026, 2, 1⟩, 0⟩, .utc⟩
    (∀ q, illegible.AnswersOrdinarily q) ∧
      (illegible.fetchOpeningDays (.str "desk") day day).answer = .error (.data .notJson) ∧
      (Failure.data .notJson).isForeseen = false ∧
      (illegible.fetchPolicy .loan (.str "p")).answer = .error (.broken
        (.invalidRecord "loan policy" "Expecting value: line 1 column 1 (char 0)")) := by
  intro day
  refine ⟨answersOrdinarily_illegible, ?_, rfl, ?_⟩
  · decide +kernel
  · decide +kernel

end Client

end Lending
