import Lending.Proofs.Calendar.Span
import Lending.Proofs.Policy.Identity
import Lending.Proofs.Service.Exchange
import Lending.Proofs.Storage.Criteria

/-! # Routes that choose a policy

Four routes choose a policy: for attributes, for an item and a user, for a new loan and for a late
one. For one item and one user they choose the same, by what their records in storage say, as long
as records carry the ids that they are stored under.
-/

namespace Lending

namespace Checked

variable {α β : Type} {b : β}

theorem map_eq_fit_iff {f : α → β} {x : Checked α} :
    f <$> x = .fit b ↔ ∃ a, x = .fit a ∧ f a = b := by
  change x.map f = .fit b ↔ _
  cases x <;> simp [map]

theorem seq_eq_fit_iff {f : Checked (α → β)} {x : Checked α} :
    f <*> x = .fit b ↔ ∃ g a, f = .fit g ∧ x = .fit a ∧ g a = b := by
  change f.apply x = .fit b ↔ _
  cases f <;> cases x <;> simp [apply, map]

end Checked

/-- A question about the attributes that the records of an item, its holding and a user name. -/
structure RuleQuestion.IsAbout (q : RuleQuestion) (record holding patron : Json) : Prop where
  loanType : .str q.loanType = Client.namedLoanType record
  location : .str q.location = Client.namedLocation record holding
  itemType : .str q.itemType = record.get "materialTypeId"
  patronType : .str q.patronType = patron.get "patronGroup"

theorem RuleQuestion.IsAbout.criteria_eq {q : RuleQuestion} {record holding location patron : Json}
    (h : q.IsAbout record holding patron) :
    q.criteria (some (Client.locationOf (Client.namedLocation record holding) location)) =
      Client.criteriaOf record holding location patron := by
  unfold criteria Client.criteriaOf
  rw [h.loanType, h.location, h.itemType, h.patronType]
  rfl

namespace RuleTable

def applier (t : RuleTable) : Applier := fun kind request => .ofResult (t.applyTo kind request)

theorem eq_apply_of_applyTo {t : RuleTable} {kind : PolicyKind} {request : MatchCriteria}
    {applied : AppliedRule} (h : t.applyTo kind request = .ok applied) :
    applied = t.apply kind request := by
  unfold applyTo at h
  split at h
  · cases h
  · exact (Except.ok.inj h).symm

end RuleTable

namespace Service

variable {s : Service} {t : RuleTable} {id : String} {x : Outcome}

/-- A service that applies the rules of a text itself. -/
structure Applies (s : Service) (t : RuleTable) : Prop where
  here : s.rulesPlace = .here
  rules : ∃ text, s.client.fetchRulesText.answer = .ok (.str text) ∧ RulesText.read text = .ok t

namespace Applies

variable (h : s.Applies t)
include h

theorem namesAll : t.fallback.NamesAll := by
  obtain ⟨text, -, hr⟩ := h.rules
  exact RulesText.namesAll_of_read hr

theorem answer_fetchTable : s.client.fetchTable.answer = .ok t := by
  obtain ⟨text, hf, hr⟩ := h.rules
  rw [Client.fetchTable, Reply.answer_bind, hf, ok_bind]
  simp only [hr]
  rfl

theorem answer_applier : s.applier.answer = .ok t.applier := by
  rw [applier, h.here]
  change (s.client.fetchTable >>= _).answer = _
  rw [Reply.answer_bind, h.answer_fetchTable]
  rfl

theorem answer_withApplier {α : Type} {q : α} {work : Applier → α → Reply Outcome} :
    (s.withApplier (.fit q) work).answer = (work t.applier q).answer := by
  rw [withApplier, Reply.answer_bind, h.answer_applier]
  rfl

theorem withSources_eq_ok_iff {α : Type} {q : α} {work : Sources → α → Reply Outcome} :
    (s.withSources (.fit q) work).answer = .ok x ↔
      ∃ zone, s.zone = some zone ∧ (work (s.sources t.applier zone) q).answer = .ok x := by
  rw [withSources, Reply.answer_bind, h.answer_applier, ok_bind, Reply.answer_bind,
    Reply.answer_lift]
  cases s.zone with
  | none =>
    constructor
    · rintro ⟨⟩
    · rintro ⟨zone, ⟨⟩, -⟩
  | some zone =>
    constructor
    · intro hx
      exact ⟨zone, rfl, hx⟩
    · rintro ⟨_, ⟨⟩, hx⟩
      exact hx

end Applies

theorem textOf_eq_ok {v w : Json} (h : textOf v = .ok w) : w = v := by
  cases v <;> cases h
  rfl

theorem mapM_textOf_eq_ok {vs ws : List Json} (h : vs.mapM textOf = .ok ws) : ws = vs := by
  rw [mapM_eq_ok_iff] at h
  induction h with
  | nil => rfl
  | cons h _ ih => rw [textOf_eq_ok h, ih]

theorem of_policyBody {kind : PolicyKind} {applied : AppliedRule} {policy : Policy} {v : Json}
    (h : policyBody kind applied policy = .ok v) :
    v.get "policy_id" = policy.id ∧ v.get "conditions" = .arr applied.conditions := by
  simp only [policyBody, bind_eq_ok_iff, pure_eq_ok_iff] at h
  obtain ⟨id, hid, _, -, conditions, hc, rfl⟩ := h
  rw [← textOf_eq_ok hid, ← mapM_textOf_eq_ok hc]
  exact ⟨rfl, rfl⟩

theorem of_chargeBody {loan : Loan} {charge : Option Charge} {v : Json}
    (h : chargeBody loan charge = .ok v) : v.get "overdue_fine_policy_id" = finePolicyId loan := by
  unfold chargeBody at h
  split at h
  · cases h
  · simp only [bind_eq_ok_iff, pure_eq_ok_iff] at h
    obtain ⟨id, hid, rfl⟩ := h
    rw [← textOf_eq_ok hid]
    rfl

/-- The service applies the rules of a table itself, to an item and a user whose records storage
has. The records of the policies that the rules name carry the ids that they are found by. -/
structure Holds (s : Service) (t : RuleTable) (item user : Text)
    (record holding location patron : Json) : Prop extends s.Applies t where
  knows : s.client.Knows (.str item) (.str user) record holding location patron
  ownPolicies : ∀ kind id body, t.Names kind id → (s.client.fetchPolicy kind id).answer = .ok body →
    body ≠ .null → body.required "id" = .ok id

section Work

variable {v : Json} {i : Item} {p : Patron}

theorem Applies.appliedRule_eq_ok_iff (h : s.Applies t) {q : RuleQuestion} {l : Option Location}
    (hl : (s.client.fetchLocation (.str q.location)).answer = .ok l) :
    (s.appliedRule id (.fit q)).answer = .ok (.ok v) ↔
      ∃ applied, t.applyTo q.kind (q.criteria l) = .ok applied ∧
        v = .obj [(q.kind.idMember, applied.policyId),
          ("conditions", .arr applied.conditions)] := by
  rw [appliedRule, h.answer_withApplier, Reply.answer_bind, appliedTo, Reply.answer_bind, hl,
    ok_bind, RuleTable.applier, Reply.answer_ofResult, bind_eq_ok_iff]
  constructor
  · rintro ⟨applied, ha, hv⟩
    cases hv
    exact ⟨applied, ha, rfl⟩
  · rintro ⟨applied, ha, rfl⟩
    exact ⟨applied, ha, rfl⟩

theorem Applies.policy_eq_ok_iff (h : s.Applies t) {q : PolicyQuestion}
    (hf : (s.client.fetchItemAndPatron (.str q.item) (.str q.user)).answer = .ok (i, p)) :
    (s.policy id (.fit q)).answer = .ok (.ok v) ↔ ∃ zone, s.zone = some zone ∧
      ∃ applied, ((s.sources t.applier zone).appliedRule q.kind i p).answer = .ok applied ∧
      ∃ policy, ((s.sources t.applier zone).lookupById q.kind applied.policyId {}).1.answer =
        .ok policy ∧ policyBody q.kind applied policy = .ok v := by
  rw [policy, h.withSources_eq_ok_iff]
  simp only [policyFor, Reply.answer_bind, hf, ok_bind, bind_eq_ok_iff, Reply.answer_pure,
    Reply.answer_lift, Except.ok.injEq]
  constructor
  · rintro ⟨zone, hz, _, ⟨applied, ha, policy, hp, rfl⟩, _, -, _, hb, ⟨⟩⟩
    exact ⟨zone, hz, applied, ha, policy, hp, hb⟩
  · rintro ⟨zone, hz, applied, ha, policy, hp, hb⟩
    exact ⟨zone, hz, _, ⟨applied, ha, policy, hp, rfl⟩, (), rfl, _, hb, rfl⟩

theorem Applies.dueDate_eq_ok_iff [ZoneData] (h : s.Applies t) {n : NewLoan}
    (hf : (s.client.fetchItemAndPatron (.str n.item) (.str n.user)).answer = .ok (i, p)) :
    (s.dueDate (.fit n)).answer = .ok (.ok v) ↔ ∃ zone, s.zone = some zone ∧
      ∃ policy, ((s.sources t.applier zone).loan.lookup i p []).1.answer = .ok policy ∧
      ∃ due, policy.initialDueDate n.loanDate = .ok due ∧
      ∃ shown, textOf policy.id = .ok shown ∧
        v = .obj [("due_date", .str due.shortText), ("loan_policy_id", shown)] := by
  have hl (s : Sources) : ((s.lookupLoan i p).startingWith {}).answer =
      (s.loan.lookup i p []).1.answer := rfl
  rw [dueDate, h.withSources_eq_ok_iff]
  simp only [dueDateOf, Reply.answer_bind, hf, hl, ok_bind, bind_eq_ok_iff, Reply.answer_pure,
    Reply.answer_lift, Except.ok.injEq]
  constructor
  · rintro ⟨zone, hz, _, ⟨policy, hp, due, hd, rfl⟩, shown, ht, ⟨⟩⟩
    exact ⟨zone, hz, policy, hp, due, hd, shown, ht, rfl⟩
  · rintro ⟨zone, hz, policy, hp, due, hd, shown, ht, rfl⟩
    exact ⟨zone, hz, _, ⟨policy, hp, due, hd, rfl⟩, shown, ht, rfl⟩

theorem Applies.overdue_eq_ok_iff [ZoneData] (h : s.Applies t) {n : LateLoan}
    (hf : (s.client.fetchItemAndPatron (.str n.item) (.str n.user)).answer = .ok (i, p)) :
    (s.overdue id (.fit n)).answer = .ok (.ok v) ↔ ∃ zone, s.zone = some zone ∧
      ∃ loan, (((s.sources t.applier zone).attach n.toLoan i p).startingWith {}).answer =
        .ok loan ∧
      ∃ charge, (s.chargeFor loan (n.systemTime.getD s.now)).answer = .ok charge ∧
        chargeBody loan charge = .ok v := by
  have hn (charge : Option Charge) : (countCharge charge).answer = .ok () := by
    cases charge <;> rfl
  have hg (loan : Loan) (charge : Option Charge) : (logCharge id loan charge).answer = .ok () := rfl
  rw [overdue, h.withSources_eq_ok_iff]
  simp only [attached, Reply.answer_bind, hf, hn, hg, ok_bind, bind_eq_ok_iff, Reply.answer_pure,
    Reply.answer_lift, Except.ok.injEq]
  constructor
  · rintro ⟨zone, hz, loan, ha, charge, hc, _, hb, ⟨⟩⟩
    exact ⟨zone, hz, loan, ha, charge, hc, hb⟩
  · rintro ⟨zone, hz, loan, ha, charge, hc, hb⟩
    exact ⟨zone, hz, loan, ha, charge, hc, v, hb, rfl⟩

end Work

section Reports

variable {v record holding location patron : Json} {item user : Text} {zone : Zone}
  {kind : PolicyKind} {applied : AppliedRule}

theorem eq_apply_of_criteria (s : Service) (zone : Zone) {i : Item} {p : Patron}
    (hc : i.criteria p = .ok (Client.criteriaOf record holding location patron))
    (ha : ((s.sources t.applier zone).appliedRule kind i p).answer = .ok applied) :
    applied = t.apply kind (Client.criteriaOf record holding location patron) := by
  rw [Sources.appliedRule, hc] at ha
  exact RuleTable.eq_apply_of_applyTo ha

variable (h : s.Holds t item user record holding location patron)
include h

theorem Holds.carriesId : (s.sources t.applier zone).CarriesId kind
    (t.apply kind (Client.criteriaOf record holding location patron)).policyId := by
  intro body
  exact h.ownPolicies _ _ _ (RuleTable.names_policyId_apply h.namesAll kind _)

theorem Holds.of_appliedRule {q : RuleQuestion} (hq : q.IsAbout record holding patron)
    (hv : (s.appliedRule id (.fit q)).answer = .ok (.ok v)) :
    let applied := t.apply q.kind (Client.criteriaOf record holding location patron)
    v = .obj [(q.kind.idMember, applied.policyId), ("conditions", .arr applied.conditions)] := by
  have hl := h.knows.answer_fetchLocation
  rw [← hq.location] at hl
  obtain ⟨applied, ha, rfl⟩ := (h.appliedRule_eq_ok_iff hl).mp hv
  rw [hq.location, hq.criteria_eq] at ha
  rw [RuleTable.eq_apply_of_applyTo ha]

theorem Holds.of_policy {q : PolicyQuestion} (hi : q.item = item) (hu : q.user = user)
    (hv : (s.policy id (.fit q)).answer = .ok (.ok v)) :
    let applied := t.apply q.kind (Client.criteriaOf record holding location patron)
    v.get "policy_id" = applied.policyId ∧ v.get "conditions" = .arr applied.conditions := by
  obtain ⟨i, p, hf, hc⟩ := h.knows.exists_fetched
  subst hi hu
  obtain ⟨zone, -, applied, ha, policy, hp, hb⟩ := (h.policy_eq_ok_iff hf).mp hv
  obtain rfl := eq_apply_of_criteria s zone hc ha
  rw [(of_policyBody hb).1, Sources.id_of_lookupById hp h.carriesId]
  exact ⟨rfl, (of_policyBody hb).2⟩

variable [ZoneData]

theorem Holds.of_dueDate {n : NewLoan} (hi : n.item = item) (hu : n.user = user)
    (hv : (s.dueDate (.fit n)).answer = .ok (.ok v)) : v.get "loan_policy_id" =
      (t.apply .loan (Client.criteriaOf record holding location patron)).policyId := by
  obtain ⟨i, p, hf, hc⟩ := h.knows.exists_fetched
  subst hi hu
  obtain ⟨zone, -, policy, hp, due, -, shown, ht, rfl⟩ := (h.dueDate_eq_ok_iff hf).mp hv
  obtain ⟨applied, ha, hg⟩ := PolicySource.exists_of_lookup hp
  obtain rfl := eq_apply_of_criteria s zone hc ha
  obtain rfl := textOf_eq_ok ht
  exact Sources.id_of_gives_loan hg h.carriesId

theorem Holds.of_overdue {n : LateLoan} (hi : n.item = item) (hu : n.user = user)
    (hv : (s.overdue id (.fit n)).answer = .ok (.ok v)) : v.get "overdue_fine_policy_id" =
      (t.apply .overdueFine (Client.criteriaOf record holding location patron)).policyId := by
  obtain ⟨i, p, hf, hc⟩ := h.knows.exists_fetched
  subst hi hu
  obtain ⟨zone, -, loan, ha, charge, -, hb⟩ := (h.overdue_eq_ok_iff hf).mp hv
  obtain ⟨policy, hp, hl⟩ := Sources.exists_of_attach ha
  obtain ⟨applied, ha, hg⟩ := PolicySource.exists_of_lookup hp
  obtain rfl := eq_apply_of_criteria s zone hc ha
  rw [of_chargeBody hb, finePolicyId, hl]
  exact Sources.id_of_gives_overdueFine hg h.carriesId

end Reports

theorem kindAsked_name (kind : PolicyKind) : kindAsked kind.name = .fit kind := by
  cases kind <;> rfl

section Questions

variable {kind : PolicyKind} {r : Request}

theorem kind_of_ruleQuestion {q : RuleQuestion}
    (h : RuleQuestion.ofRequest kind.name r = .fit q) : q.kind = kind := by
  simp only [RuleQuestion.ofRequest, kindAsked_name, Checked.seq_eq_fit_iff,
    Checked.map_eq_fit_iff] at h
  obtain ⟨_, _, ⟨_, _, ⟨_, _, ⟨_, _, ⟨_, ⟨⟩, rfl⟩, -, rfl⟩, -, rfl⟩, -, rfl⟩, -, rfl⟩ := h
  rfl

theorem kind_of_policyQuestion {q : PolicyQuestion}
    (h : PolicyQuestion.ofRequest kind.name r = .fit q) : q.kind = kind := by
  simp only [PolicyQuestion.ofRequest, kindAsked_name, Checked.seq_eq_fit_iff,
    Checked.map_eq_fit_iff] at h
  obtain ⟨_, _, ⟨_, _, ⟨_, ⟨⟩, rfl⟩, -, rfl⟩, -, rfl⟩ := h
  rfl

end Questions

/-- For one item and one user, every route that chooses a policy reports the same: the policy that
the rules have for the attributes that their records in storage name. -/
theorem routes_report_one_rule [ZoneData] (s : Service) (t : RuleTable) (item user : Text)
    (record holding location patron : Json)
    (h : s.Holds t item user record holding location patron) :
    let criteria := Client.criteriaOf record holding location patron
    (∀ kind : PolicyKind,
      let applied := t.apply kind criteria
      (∀ r q v, r.Asks (.appliedRule kind.name) → RuleQuestion.ofRequest kind.name r = .fit q →
        q.IsAbout record holding patron → (s.exchange r).answer.Gives v →
        v.get kind.idMember = applied.policyId ∧ v.get "conditions" = .arr applied.conditions) ∧
      ∀ r q v, r.Asks (.policy kind.name) → PolicyQuestion.ofRequest kind.name r = .fit q →
        q.item = item → q.user = user → (s.exchange r).answer.Gives v →
        v.get "policy_id" = applied.policyId ∧ v.get "conditions" = .arr applied.conditions) ∧
    (∀ r n v, r.Asks .dueDate → r.read NewLoan.ofMembers = .fit n →
      n.item = item → n.user = user → (s.exchange r).answer.Gives v →
      v.get "loan_policy_id" = (t.apply .loan criteria).policyId) ∧
    ∀ r n v, r.Asks .overdue → r.read LateLoan.ofMembers = .fit n →
      n.item = item → n.user = user → (s.exchange r).answer.Gives v →
      v.get "overdue_fine_policy_id" = (t.apply .overdueFine criteria).policyId := by
  refine ⟨fun kind => ⟨?_, ?_⟩, ?_, ?_⟩
  · intro r q v hr hq ha hv
    obtain ⟨hw, -⟩ := (gives_iff hr (by simp)).mp hv
    rw [work, hq] at hw
    have hk := kind_of_ruleQuestion hq
    rw [h.of_appliedRule ha hw, hk]
    cases kind <;> exact ⟨rfl, rfl⟩
  · intro r q v hr hq hi hu hv
    obtain ⟨hw, -⟩ := (gives_iff hr (by simp)).mp hv
    rw [work, hq] at hw
    rw [← kind_of_policyQuestion hq]
    exact h.of_policy hi hu hw
  · intro r n v hr hn hi hu hv
    obtain ⟨hw, -⟩ := (gives_iff hr (by simp)).mp hv
    rw [work, hn] at hw
    exact h.of_dueDate hi hu hw
  · intro r n v hr hn hi hu hv
    obtain ⟨hw, -⟩ := (gives_iff hr (by simp)).mp hv
    rw [work, hn] at hw
    exact h.of_overdue hi hu hw

end Service

section Hall

/-- Rules with policies of their own for short loans on the main campus. -/
def RulesText.ofCampus : Text :=
  "fallback-policy: l no r no n no o no i no\nc main + t short: l term o late"

def RuleTable.ofCampus : RuleTable where
  rules := [{
    criteria := [{ subject := .campus, values := [.str "main"] },
      { subject := .loanType, values := [.str "short"] }]
    policies := [(.loan, .str "term"), (.overdueFine, .str "late")]
    line := 2 }]
  fallback := {
    criteria := []
    policies := PolicyKind.all.map fun kind => (kind, .str "no")
    line := 1 }
  priority := Attribute.all

/-- A book that is lent for short terms for a while. -/
def Json.book : Json := .obj [("id", .str "book"), ("holdingsRecordId", .str "shelf"),
  ("materialTypeId", .str "print"), ("permanentLoanTypeId", .str "open"),
  ("temporaryLoanTypeId", .str "short")]

def Json.shelf : Json := .obj [("id", .str "shelf"), ("permanentLocationId", .str "hall")]

def Json.hall : Json := .obj [("id", .str "hall"), ("campusId", .str "main")]

def Json.eva : Json := .obj [("id", .str "eva"), ("patronGroup", .str "staff")]

def Json.term : Json := .obj [("id", .str "term"), ("loansPolicy", .obj [
  ("profileId", .str "Rolling"),
  ("period", .obj [("duration", .int 3), ("intervalId", .str "Weeks")])])]

def Json.late : Json := .obj [("id", .str "late"), ("countClosed", .bool true)]

def Client.hall : Client := .ofRecords [
  ("/item-storage/items/book", .book),
  ("/holdings-storage/holdings/shelf", .shelf),
  ("/locations/hall", .hall),
  ("/users/eva", .eva),
  ("/circulation-rules-storage", .obj [("rulesAsText", .str RulesText.ofCampus)]),
  ("/loan-policy-storage/loan-policies/term", .term),
  ("/overdue-fines-policies/late", .late)]

def Service.hall : Service where
  client := .hall
  zone := some .utc
  rulesPlace := .here
  now := default
  newRequestId := "request"

def Item.inHall : Item where
  id := .str "book"
  materialType := .str "print"
  permanentLoanType := .str "open"
  temporaryLoanType := .str "short"
  holdingsRecord := .str "shelf"
  location := some { id := .str "hall", campus := .str "main" }

def Patron.eva : Patron where
  id := .str "eva"
  patronGroup := .str "staff"

theorem Service.holds_hall :
    Service.hall.Holds .ofCampus "book" "eva" .book .shelf .hall .eva where
  here := rfl
  rules := ⟨RulesText.ofCampus, by decide +kernel, by decide +kernel⟩
  knows := {
    ofItem := ⟨⟨200, Json.book.bytes⟩, by decide +kernel,
      .inr ⟨rfl, by decide +kernel, .str "book", rfl⟩⟩
    ofHolding := ⟨⟨200, Json.shelf.bytes⟩, by decide +kernel,
      .inr ⟨rfl, by decide +kernel, .str "shelf", rfl⟩⟩
    ofLocation := ⟨⟨200, Json.hall.bytes⟩, by decide +kernel,
      .inr ⟨rfl, by decide +kernel, .str "hall", rfl⟩⟩
    noneMissing := rfl
    ownLocation := rfl
    ofUser := ⟨⟨200, Json.eva.bytes⟩, by decide +kernel,
      .inr ⟨rfl, by decide +kernel, .str "eva", rfl⟩⟩
    userKnown := by simp [Json.eva] }
  ownPolicies := by
    have hp : ∀ r ∈ RuleTable.ofCampus.rules ++ [RuleTable.ofCampus.fallback],
        ∀ e ∈ r.policies, (Client.hall.fetchPolicy e.1 e.2).answer.toOption.all fun body =>
          body = .null ∨ body.required "id" = .ok e.2 := by
      decide +kernel
    rintro kind id body ⟨r, hr, hm⟩ hf hb
    have hp := hp r hr _ hm
    change (Client.hall.fetchPolicy kind id).answer = .ok body at hf
    rw [hf] at hp
    simpa [Except.toOption, hb] using hp

theorem Client.fetchItemAndPatron_hall :
    (Client.hall.fetchItemAndPatron (.str "book") (.str "eva")).answer = .ok (.inHall, .eva) :=
  Service.holds_hall.knows.answer_fetchItemAndPatron rfl rfl

def Request.forBook : Request where
  method := "GET"
  path := "/v1/policies/loan"
  query := [("item_id", "book"), ("user_id", "eva")]

def Request.forAttributes : Request where
  method := "GET"
  path := "/v1/circulation/rules/loan-policy"
  query := [("loan_type_id", "short"), ("location_id", "hall"), ("item_type_id", "print"),
    ("patron_type_id", "staff")]

def Request.toLend : Request where
  method := "POST"
  path := "/v1/loans/due-date"
  body := some (.obj [("item_id", .str "book"), ("user_id", .str "eva"),
    ("loan_date", .str "2026-03-01T12:00:00Z")])

def Request.toCharge : Request where
  method := "POST"
  path := "/v1/loans/overdue"
  body := some (.obj [("loan_id", .str "loan"), ("item_id", .str "book"), ("user_id", .str "eva"),
    ("loan_date", .str "2026-03-01T12:00:00Z"), ("due_date", .str "2026-03-22T12:00:00Z"),
    ("system_time", .str "2026-03-23T12:00:00Z")])

theorem Request.asks_hall : Request.forBook.Asks (.policy "loan") ∧
    Request.forAttributes.Asks (.appliedRule "loan") ∧ Request.toLend.Asks .dueDate ∧
    Request.toCharge.Asks .overdue :=
  ⟨⟨by decide, by decide⟩, ⟨by decide, by decide⟩, ⟨by decide, by decide⟩,
    ⟨by decide, by decide⟩⟩

def Instant.marchNoon (day : Nat) : Instant where
  wall := { date := ⟨2026, 3, day⟩, micros := WallTime.clock 12 0 0 0 }
  zone := .utc

def NewLoan.ofBook : NewLoan := ⟨"book", "eva", .marchNoon 1⟩

def LateLoan.ofBook : LateLoan where
  loan := "loan"
  item := "book"
  user := "eva"
  loanDate := .marchNoon 1
  dueDate := some (.marchNoon 22)
  recalled := false
  servicePoint := none
  systemTime := some (.marchNoon 23)

def Json.bookAnswer : Json := .obj [("policy_type", .str "loan"), ("policy_id", .str "term"),
  ("name", .str ""), ("conditions", .arr [.str "campus", .str "loan-type"])]

def Json.attributesAnswer : Json := .obj [("loanPolicyId", .str "term"),
  ("conditions", .arr [.str "campus", .str "loan-type"])]

def Json.lendingAnswer : Json := .obj [("due_date", .str "2026-03-22T12:00:00Z"),
  ("loan_policy_id", .str "term")]

def Json.chargeAnswer : Json := .obj [("loan_id", .str "loan"), ("applicable", .bool true),
  ("overdue_minutes", .int 1440), ("fine_amount", .str "0.00"),
  ("overdue_fine_policy_id", .str "late")]

attribute [local instance] ZoneData.of2026

def LoanPolicy.ofTerm : LoanPolicy where
  id := .str "term"
  name := .str ""
  loanable := .bool true
  profile := .rolling
  period := some { quantity := 3, unit := some .weeks }
  gracePeriod := none
  scheduleId := .null
  schedule := .empty

def Loan.ofBook : Loan :=
  { LateLoan.toLoan .ofBook with
    loanPolicy := some .ofTerm
    finePolicy := some { (default : OverdueFinePolicy) with
      id := .str "late"
      name := .str ""
      countClosed := .bool true
      forgiveOnRenewal := .bool false } }

/-- What the requests say, and what the rules and the policies come to. -/
theorem Service.steps_hall :
    Request.toLend.read NewLoan.ofMembers = .fit .ofBook ∧
    Request.toCharge.read LateLoan.ofMembers = .fit .ofBook ∧
    ((Service.hall.sources RuleTable.ofCampus.applier .utc).lookupById .loan (.str "term")
      {}).1.answer = .ok (.loan .ofTerm) ∧
    ((Service.hall.sources RuleTable.ofCampus.applier .utc).loan.lookup .inHall .eva []).1.answer =
      .ok .ofTerm ∧
    LoanPolicy.ofTerm.initialDueDate (.marchNoon 1) = .ok (.marchNoon 22) ∧
    (((Service.hall.sources RuleTable.ofCampus.applier .utc).attach LateLoan.ofBook.toLoan .inHall
      .eva).startingWith {}).answer = .ok .ofBook := by
  decide +kernel

namespace Service

theorem gives_forAttributes :
    (Service.hall.exchange .forAttributes).answer.Gives .attributesAnswer := by
  rw [gives_iff Request.asks_hall.2.1 (by simp)]
  refine ⟨?_, by decide⟩
  refine (holds_hall.appliedRule_eq_ok_iff (q := ⟨.loan, "short", "hall", "print", "staff"⟩)
    holds_hall.knows.answer_fetchLocation).mpr ?_
  exact ⟨⟨.loan, .str "term", [.str "campus", .str "loan-type"]⟩, by decide, rfl⟩

theorem gives_forBook : (Service.hall.exchange .forBook).answer.Gives .bookAnswer := by
  obtain ⟨-, -, hp, -⟩ := steps_hall
  rw [gives_iff Request.asks_hall.1 (by simp)]
  refine ⟨?_, by decide⟩
  refine (holds_hall.policy_eq_ok_iff (q := ⟨.loan, "book", "eva"⟩)
    Client.fetchItemAndPatron_hall).mpr ?_
  refine ⟨.utc, rfl, ⟨.loan, .str "term", [.str "campus", .str "loan-type"]⟩, by decide,
    .loan .ofTerm, ?_, by decide⟩
  dsimp only
  exact hp

theorem gives_toLend : (Service.hall.exchange .toLend).answer.Gives .lendingAnswer := by
  obtain ⟨hr, -, -, hp, hd, -⟩ := steps_hall
  rw [gives_iff Request.asks_hall.2.2.1 (by simp), work, hr]
  refine ⟨?_, by decide⟩
  refine (holds_hall.dueDate_eq_ok_iff (n := .ofBook) Client.fetchItemAndPatron_hall).mpr ?_
  exact ⟨.utc, rfl, .ofTerm, hp, .marchNoon 22, hd, .str "term", rfl, by decide⟩

theorem gives_toCharge : (Service.hall.exchange .toCharge).answer.Gives .chargeAnswer := by
  obtain ⟨-, hr, -, -, -, hl⟩ := steps_hall
  rw [gives_iff Request.asks_hall.2.2.2 (by simp), work, hr]
  refine ⟨?_, by decide⟩
  refine (holds_hall.overdue_eq_ok_iff (n := .ofBook) Client.fetchItemAndPatron_hall).mpr ?_
  exact ⟨.utc, rfl, .ofBook, hl, some ⟨1440, .zeroCents⟩, by decide, by decide⟩

end Service

/-- The book is lent and charged for by the policies that the rules have for short loans, and its
attributes have the same. -/
theorem Service.routes_report_one_rule_of_hall :
    Service.hall.Holds .ofCampus "book" "eva" .book .shelf .hall .eva ∧
    ∃ v w lent charged, (Service.hall.exchange .forBook).answer.Gives v ∧
      (Service.hall.exchange .forAttributes).answer.Gives w ∧
      (Service.hall.exchange .toLend).answer.Gives lent ∧
      (Service.hall.exchange .toCharge).answer.Gives charged ∧
      v.get "policy_id" = w.get "loanPolicyId" ∧ v.get "conditions" = w.get "conditions" ∧
      lent.get "loan_policy_id" = w.get "loanPolicyId" ∧
      charged.get "overdue_fine_policy_id" = .str "late" := by
  obtain ⟨hr, hlend, hcharge⟩ := routes_report_one_rule _ _ _ _ _ _ _ _ holds_hall
  obtain ⟨ha, hi⟩ := hr .loan
  obtain ⟨hbook, hattributes, hlent, hcharged⟩ := Request.asks_hall
  obtain ⟨hid, hc⟩ := hi _ ⟨.loan, "book", "eva"⟩ _ hbook rfl rfl rfl gives_forBook
  obtain ⟨hid', hc'⟩ := ha _ ⟨.loan, "short", "hall", "print", "staff"⟩ _ hattributes rfl
    ⟨rfl, rfl, rfl, rfl⟩ gives_forAttributes
  have hl := hlend _ _ _ hlent steps_hall.1 rfl rfl gives_toLend
  have hf := hcharge _ _ _ hcharged steps_hall.2.1 rfl rfl gives_toCharge
  exact ⟨holds_hall, _, _, _, _, gives_forBook, gives_forAttributes, gives_toLend, gives_toCharge,
    hid.trans hid'.symm, hc.trans hc'.symm, hl.trans hid'.symm, hf.trans (by decide)⟩

end Hall

end Lending
