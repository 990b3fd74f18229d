import Lending.Proofs.Rules.Selection
import Lending.Proofs.Service.Routes
import Mathlib.Data.List.Nodup

/-! # Rules applied by an endpoint

Rules are applied here or by an endpoint that is asked over the wire. The endpoint takes four of the
seven attributes and finds the other three with the location; where it is a service with the same
rules, it makes no difference who applies them.
-/

namespace Lending

theorem Request.param_eq_fit {r : Request} {name : String} {value : Text}
    (hn : (r.query.map (·.1)).Nodup) (hm : (.ofString name, value) ∈ r.query) :
    r.param name = .fit value := by
  have hf : (r.query.reverse.find? fun p => p.1 = .ofString name) =
      some (.ofString name, value) := by
    cases hf : r.query.reverse.find? fun p => p.1 = .ofString name with
    | none =>
      have hne := List.find?_eq_none.mp hf _ (List.mem_reverse.mpr hm)
      simp at hne
    | some p =>
      have hp : p.1 = .ofString name := by simpa using List.find?_some hf
      have hq : p ∈ r.query := List.mem_reverse.mp (List.mem_of_find?_eq_some hf)
      rw [List.inj_on_of_nodup_map hn hq hm hp]
  unfold param
  rw [hf]
  rfl

/-- The four attributes that an endpoint takes, where they are texts. -/
structure MatchCriteria.IsText (request : MatchCriteria) (loanType location materialType
    patronGroup : Text) : Prop where
  loanType : request.loanType = .str loanType
  location : request.location = .str location
  materialType : request.materialType = .str materialType
  patronGroup : request.patronGroup = .str patronGroup

/-- The storage of locations knows the location of a request with the other three attributes of the
request, or does not know it where the request has none of them. -/
def Service.Locates (s : Service) (request : MatchCriteria) : Prop :=
  (∃ l, (s.client.fetchLocation request.location).answer = .ok (some l) ∧
    l.campus = request.campus ∧ l.library = request.library ∧
    l.institution = request.institution) ∨
  (s.client.fetchLocation request.location).answer = .ok none ∧
    request.campus = .null ∧ request.library = .null ∧ request.institution = .null

/-- A question of a client for rules is carried to the route of a service with the parameters that
it has, and the answer is carried back. What the route gives is something that can be sent. -/
structure Client.Carried [ZoneData] (c : Client) (s : Service) (kind : PolicyKind)
    (request : MatchCriteria) (address : Address) (question : SentRequest) (asked : Request)
    (body : List UInt8) : Prop where
  sends : c.requestFor s!"/circulation/rules/{kind.name}-policy" (some (ruleParameters request)) =
    .ok (address, question)
  absolute : address.isAbsolute = true
  method : asked.method = "GET"
  path : asked.path = s!"/v1/circulation/rules/{kind.name}-policy"
  query : asked.query = question.params
  answers : c.storage question = .response (s.exchange asked).answer.status body
  carries : ∀ v, (s.exchange asked).answer.body = .json v → Json.ofBody body = .ok v
  sendable : ∀ v, (s.work asked (.appliedRule kind.name)).answer = .ok (.ok v) →
    v.writingFault? = none

/-- The endpoint that a client asks for rules is the route of a service. -/
def Client.IsServedBy [ZoneData] (c : Client) (s : Service) (kind : PolicyKind)
    (request : MatchCriteria) : Prop :=
  ∃ address question asked body, c.Carried s kind request address question asked body

theorem Client.ruleParameters_of_isText {request : MatchCriteria} {loanType location materialType
    patronGroup : Text} (h : request.IsText loanType location materialType patronGroup) :
    ruleParameters request = [(.ofString "loan_type_id", loanType),
      (.ofString "location_id", location), (.ofString "item_type_id", materialType),
      (.ofString "patron_type_id", patronGroup)] := by
  unfold ruleParameters
  rw [h.loanType, h.location, h.materialType, h.patronGroup]
  rfl

theorem RuleQuestion.ofRequest_of_ruleParameters {request : MatchCriteria} {loanType location
    materialType patronGroup : Text} {r : Request} {kind : PolicyKind}
    (h : request.IsText loanType location materialType patronGroup)
    (hr : r.query = Client.ruleParameters request) :
    RuleQuestion.ofRequest kind.name r =
      .fit ⟨kind, loanType, location, materialType, patronGroup⟩ := by
  rw [Client.ruleParameters_of_isText h] at hr
  have hn : (r.query.map (·.1)).Nodup := by
    rw [hr]
    change List.Nodup [Text.ofString "loan_type_id", "location_id", "item_type_id",
      "patron_type_id"]
    decide +kernel
  have ht : r.param "loan_type_id" = .fit loanType := Request.param_eq_fit hn (by simp [hr])
  have hs : r.param "location_id" = .fit location := Request.param_eq_fit hn (by simp [hr])
  have hm : r.param "item_type_id" = .fit materialType := Request.param_eq_fit hn (by simp [hr])
  have hg : r.param "patron_type_id" = .fit patronGroup := Request.param_eq_fit hn (by simp [hr])
  unfold ofRequest
  rw [Service.kindAsked_name, ht, hs, hm, hg]
  rfl

theorem Client.applyRules_of_response {c : Client} {kind : PolicyKind} {request : MatchCriteria}
    {body : List UInt8} {id : Json} {conditions : List Json}
    (hg : (c.get s!"/circulation/rules/{kind.name}-policy" (ruleParameters request)).answer =
      .ok ⟨200, body⟩)
    (hb : Json.ofBody body = .ok (.obj [(kind.idMember, id), ("conditions", .arr conditions)])) :
    (c.applyRules kind request).answer = .ok { kind, policyId := id, conditions } := by
  rw [applyRules, Reply.answer_bind, hg, ok_bind]
  simp only [bodyOf, hb]
  cases kind <;> rfl

theorem RuleTable.kind_apply (t : RuleTable) (kind : PolicyKind) (request : MatchCriteria) :
    (t.apply kind request).kind = kind := by
  unfold apply
  split <;> rfl

theorem Request.asks_appliedRule {r : Request} {kind : PolicyKind} (hm : r.method = "GET")
    (hp : r.path = s!"/v1/circulation/rules/{kind.name}-policy") :
    r.Asks (.appliedRule kind.name) := by
  constructor
  · rw [hp]
    cases kind <;> decide +kernel
  · rw [hm]
    exact List.mem_singleton.mpr rfl

theorem Service.Locates.exists_criteria_eq {s : Service} {request : MatchCriteria}
    {loanType location materialType patronGroup : Text} (h : s.Locates request)
    (hq : request.IsText loanType location materialType patronGroup) (kind : PolicyKind) :
    ∃ l, (s.client.fetchLocation (.str location)).answer = .ok l ∧
      (RuleQuestion.mk kind loanType location materialType patronGroup).criteria l = request := by
  obtain ⟨lt, loc, mt, pg, campus, library, institution⟩ := request
  obtain ⟨rfl, rfl, rfl, rfl⟩ := hq
  obtain ⟨l, hl, rfl, rfl, rfl⟩ | ⟨hl, rfl, rfl, rfl⟩ := h
  · exact ⟨some l, hl, rfl⟩
  · exact ⟨none, hl, rfl⟩

theorem Client.Carried.answer_applyRules [ZoneData] {c : Client} {s : Service} {t : RuleTable}
    {kind : PolicyKind} {request : MatchCriteria}
    {loanType location materialType patronGroup : Text} {address : Address}
    {question : SentRequest} {asked : Request} {body : List UInt8}
    (hc : c.Carried s kind request address question asked body) (ht : s.Applies t)
    (hl : s.Locates request) (hq : request.IsText loanType location materialType patronGroup)
    (ha : t.applyTo kind request = .ok (t.apply kind request)) :
    (c.applyRules kind request).answer = .ok (t.apply kind request) := by
  have hr := Request.asks_appliedRule hc.method hc.path
  have hw : (s.work asked (.appliedRule kind.name)).answer = .ok (.ok (.obj
      [(kind.idMember, (t.apply kind request).policyId),
        ("conditions", .arr (t.apply kind request).conditions)])) := by
    have hquery : asked.query = ruleParameters request := by
      rw [hc.query, params_of_requestFor hc.sends]
      rfl
    obtain ⟨l, hf, hcriteria⟩ := hl.exists_criteria_eq hq kind
    rw [Service.work, RuleQuestion.ofRequest_of_ruleParameters hq hquery,
      ht.appliedRule_eq_ok_iff (q := ⟨kind, loanType, location, materialType, patronGroup⟩) hf,
      hcriteria]
    exact ⟨_, ha, rfl⟩
  obtain ⟨hs, hb⟩ := (Service.gives_iff hr (by simp)).mpr ⟨hw, hc.sendable _ hw⟩
  have hg : (c.get s!"/circulation/rules/{kind.name}-policy" (ruleParameters request)).answer =
      .ok ⟨200, body⟩ := by
    rw [get_of_requestFor_ok hc.sends, hc.answers, hc.absolute, hs]
    rfl
  have hk := RuleTable.kind_apply t kind request
  rw [applyRules_of_response hg (hc.carries _ hb)]
  generalize t.apply kind request = applied at hk ⊢
  obtain rfl := hk
  rfl

/-- A service with the same rules that is asked over the wire names the policy that is named here,
and the same conditions for it. Here one is named for every plain request. -/
theorem Client.endpoint_applies_same_rules [ZoneData] (c : Client) (s : Service) (t : RuleTable)
    (kind : PolicyKind) (request : MatchCriteria) (hr : s.Applies t)
    (ht : ∃ loanType location materialType patronGroup,
      request.IsText loanType location materialType patronGroup)
    (hl : s.Locates request) (hc : c.IsServedBy s kind request) :
    (request.IsPlain → ∃ applied, t.applyTo kind request = .ok applied) ∧
      ∀ applied, t.applyTo kind request = .ok applied →
        (c.applyRules kind request).answer = .ok applied := by
  obtain ⟨loanType, location, materialType, patronGroup, ht⟩ := ht
  obtain ⟨address, question, asked, body, hc⟩ := hc
  constructor
  · intro hp
    exact ⟨_, applyTo_of_plain hp t kind⟩
  · intro applied ha
    obtain rfl := RuleTable.eq_apply_of_applyTo ha
    exact hc.answer_applyRules hr hl ht ha

section Hall

attribute [local instance] ZoneData.of2026

def Request.get (path : String) (query : List (Text × Text)) : Request where
  method := "GET"
  path := path
  query := query

def Storage.ofService (s : Service) : Storage := fun question =>
  match question.path.string? with
  | none => .response 404 []
  | some path =>
    let answer := (s.exchange (.get ("/v1" ++ path) question.params)).answer
    match answer.body with
    | .json v => .response answer.status v.bytes
    | .text body => .response answer.status (Text.Utf8.bytes body.toList)

def Client.ofHall : Client := { Client.hall with storage := .ofService .hall }

def MatchCriteria.ofBook : MatchCriteria := Client.criteriaOf .book .shelf .hall .eva

theorem Client.storage_ofHall {question : SentRequest}
    (hp : question.path.string? = some "/circulation/rules/loan-policy")
    (hq : question.params = Request.forAttributes.query) :
    Client.ofHall.storage question =
      .response (Service.hall.exchange .forAttributes).answer.status
        Json.attributesAnswer.bytes := by
  change Storage.ofService .hall question = _
  unfold Storage.ofService
  have hr : Request.get ("/v1" ++ "/circulation/rules/loan-policy") question.params =
      .forAttributes := by
    rw [hq]
    rfl
  rw [hp]
  dsimp only
  rw [hr, Service.gives_forAttributes.2]

theorem Client.isServedBy_ofHall : Client.ofHall.IsServedBy .hall .loan .ofBook := by
  have hs : ((Client.ofHall.requestFor s!"/circulation/rules/{PolicyKind.loan.name}-policy"
      (some (ruleParameters .ofBook))).toOption.map fun x => (x.1.isAbsolute, x.2.path.string?)) =
      some (true, some "/circulation/rules/loan-policy") := by
    decide +kernel
  cases hr : Client.ofHall.requestFor s!"/circulation/rules/{PolicyKind.loan.name}-policy"
      (some (ruleParameters .ofBook)) with
  | error e =>
    rw [hr] at hs
    cases hs
  | ok made =>
    obtain ⟨address, question⟩ := made
    rw [hr] at hs
    obtain ⟨ha, hp⟩ := Prod.mk.inj (Option.some.inj hs)
    have hq : question.params = Request.forAttributes.query := params_of_requestFor hr
    obtain ⟨hw, hn⟩ := (Service.gives_iff Request.asks_hall.2.1 (by simp)).mp
      Service.gives_forAttributes
    exact ⟨address, question, .forAttributes, Json.attributesAnswer.bytes, {
      sends := hr
      absolute := ha
      method := rfl
      path := rfl
      query := hq.symm
      answers := storage_ofHall hp hq
      carries := by
        intro v hv
        rw [Service.gives_forAttributes.2] at hv
        cases hv
        decide +kernel
      sendable := by
        intro v hv
        cases hw.symm.trans hv
        exact hn }⟩

theorem Client.endpoint_applies_same_rules_of_hall :
    Service.hall.Applies .ofCampus ∧ Service.hall.Locates .ofBook ∧
      Client.ofHall.IsServedBy .hall .loan .ofBook ∧
      (Client.ofHall.applyRules .loan .ofBook).answer =
        .ok ⟨.loan, .str "term", [.str "campus", .str "loan-type"]⟩ := by
  have hl : Service.hall.Locates .ofBook :=
    .inl ⟨_, Service.holds_hall.knows.answer_fetchLocation, rfl, rfl, rfl⟩
  obtain ⟨-, ha⟩ := endpoint_applies_same_rules .ofHall .hall .ofCampus .loan .ofBook
    Service.holds_hall.toApplies ⟨"short", "hall", "print", "staff", rfl, rfl, rfl, rfl⟩ hl
    isServedBy_ofHall
  exact ⟨Service.holds_hall.toApplies, hl, isServedBy_ofHall, ha _ (by decide)⟩

end Hall

end Lending
