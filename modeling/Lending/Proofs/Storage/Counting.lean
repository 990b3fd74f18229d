import Lending.Proofs.Storage.Item
import Lending.Storage.Rules

/-! # What is counted of rules applied elsewhere

A call of the rules endpoint is counted at most once: as a failure where the response has another
status than 200, as applied where the response can be read. So a response that can be read but holds
no rule is counted as applied though the call fails, and a call that nothing comes back from, or
nothing that can be read, is not counted at all.
-/

namespace Lending

namespace Counter

variable {c : Counter}

theorem growth_append (xs ys : List Event) : c.growth (xs ++ ys) = c.growth xs + c.growth ys := by
  induction xs with
  | nil => exact (Int.zero_add _).symm
  | cons x xs ih =>
    change c.growthBy x + c.growth (xs ++ ys) = c.growthBy x + c.growth xs + c.growth ys
    rw [ih, Int.add_assoc]

theorem growth_counted (c' : Counter) (n : Int) :
    c.growth [.counted c' n] = if c' = c then n else 0 :=
  Int.add_zero _

/-- A request counts for the area of its path and for nothing else. -/
theorem growth_get {client : Client} {path : Text} {params : Option (List (Text × Text))}
    (h : ∀ area, c ≠ .storageRequest area) : c.growth (client.get path params).events = 0 := by
  have ha : c.growth [.counted (.storageRequest (Client.areaOf path)) 1] = 0 := by
    rw [growth_counted, if_neg (h _).symm]
  cases hr : client.requestFor path params with
  | error e => rwa [Client.get_of_requestFor_error hr]
  | ok made =>
    obtain ⟨address, request⟩ := made
    rw [Client.get_of_requestFor_ok hr]
    exact (Int.zero_add _).trans ha

end Counter

/-- A client of a storage that answers everything in one way. -/
def Client.answering (answer : StorageAnswer) : Client :=
  { Client.ofRecords [] with storage := fun _ => answer }

/-- A call for the policy of a kind. Each has a client of its own, since storage may answer in other
ways from one call to the next. -/
structure RulesCall where
  client : Client
  kind : PolicyKind
  request : MatchCriteria

namespace RulesCall

/-- What a call hears from the endpoint. -/
inductive Heard where
  | nothing
  | refusal
  | body (body : Json)

def ruleOf (kind : PolicyKind) (body : Json) : Result AppliedRule := do
  let policyId ← body.required kind.idMember
  let conditions ← (← body.memberD "conditions" (.arr [])).items
  return { kind, policyId, conditions }

def reply (call : RulesCall) : Reply AppliedRule := call.client.applyRules call.kind call.request

def response (call : RulesCall) : Reply Response :=
  call.client.get s!"/circulation/rules/{call.kind.name}-policy"
    (Client.ruleParameters call.request)

/-- Nothing is heard of a call without a response, or with one that cannot be read. -/
def heard (call : RulesCall) : Heard :=
  match call.response.answer with
  | .error _ => .nothing
  | .ok response =>
    if response.status ≠ 200 then .refusal
    else match Client.bodyOf response with
      | .error _ => .nothing
      | .ok body => .body body

def returns (call : RulesCall) : Bool := call.reply.answer.isOk

def raises (call : RulesCall) : Bool := !call.returns

def unheard (call : RulesCall) : Bool :=
  match call.heard with
  | .nothing => true
  | _ => false

/-- The call hears of something that holds no rule. -/
def holdsNoRule (call : RulesCall) : Bool :=
  match call.heard with
  | .body body => !(ruleOf call.kind body).isOk
  | _ => false

def tally (kind : PolicyKind) (p : RulesCall → Bool) (calls : List RulesCall) : Int :=
  calls.countP fun call => call.kind = kind && p call

def events (calls : List RulesCall) : List Event := calls.flatMap (·.reply.events)

section Step

variable {call : RulesCall} {kind : PolicyKind}

theorem reply_eq (call : RulesCall) : call.reply = (do
    let response ← call.response
    if response.status = 404 then
      Reply.count (.rulesFailed call.kind) 1
      Reply.fail (.unapplied .noEndpoint)
    else if response.status ≠ 200 then
      Reply.count (.rulesFailed call.kind) 1
      Reply.fail (.forwarded response.status response.text)
    else
      let body ← Client.bodyOf response
      Reply.count (.rulesApplied call.kind) 1
      ruleOf call.kind body) := by
  simp only [ruleOf, Reply.lift_bind]
  rfl

theorem reply_cases (call : RulesCall) :
    (call.heard = .nothing ∧ (∃ e, call.reply.answer = .error e) ∧
      call.reply.events = call.response.events) ∨
    (call.heard = .refusal ∧ (∃ e, call.reply.answer = .error e) ∧
      call.reply.events = call.response.events ++ [.counted (.rulesFailed call.kind) 1]) ∨
    (∃ body, call.heard = .body body ∧ call.reply.answer = ruleOf call.kind body ∧
      call.reply.events = call.response.events ++ [.counted (.rulesApplied call.kind) 1]) := by
  cases hr : call.response.answer with
  | error e =>
    refine .inl ⟨by simp only [heard, hr], ?_⟩
    rw [reply_eq, Reply.bind_of_error hr]
    exact ⟨⟨e, rfl⟩, rfl⟩
  | ok response =>
    rw [reply_eq, Reply.bind_of_ok hr]
    by_cases hs : response.status = 200
    · rw [if_neg (by omega), if_neg (by omega)]
      cases hb : Client.bodyOf response with
      | error e =>
        refine .inl ⟨by simp only [heard, hr, hs, hb, ne_eq, not_true, if_false], ⟨e, rfl⟩, ?_⟩
        exact List.append_nil _
      | ok body =>
        refine .inr (.inr ⟨body, ?_, rfl, rfl⟩)
        simp only [heard, hr, hs, hb, ne_eq, not_true, if_false]
    · refine .inr (.inl ⟨by simp only [heard, hr, ne_eq, hs, not_false_eq_true, if_true], ?_⟩)
      by_cases hm : response.status = 404
      · rw [if_pos hm]
        exact ⟨⟨_, rfl⟩, rfl⟩
      · rw [if_neg hm, if_pos hs]
        exact ⟨⟨_, rfl⟩, rfl⟩

theorem returns_of_error {e : Failure} (h : call.reply.answer = .error e) :
    call.returns = false := by
  rw [returns, h]
  rfl

theorem tally_singleton (kind : PolicyKind) (p : RulesCall → Bool) (call : RulesCall) :
    tally kind p [call] = if call.kind = kind ∧ p call = true then 1 else 0 := by
  unfold tally
  simp only [List.countP_singleton, Bool.and_eq_true, decide_eq_true_iff]
  split <;> rfl

theorem growth_reply (call : RulesCall) (kind : PolicyKind) :
    (Counter.rulesApplied kind).growth call.reply.events =
      tally kind returns [call] + tally kind holdsNoRule [call] ∧
    (Counter.rulesFailed kind).growth call.reply.events +
      (tally kind holdsNoRule [call] + tally kind unheard [call]) = tally kind raises [call] := by
  have happlied : (Counter.rulesApplied kind).growth call.response.events = 0 :=
    Counter.growth_get fun _ => nofun
  have hfailed : (Counter.rulesFailed kind).growth call.response.events = 0 :=
    Counter.growth_get fun _ => nofun
  -- Nothing is heard, or a refusal, or a body, which may hold a rule.
  obtain ⟨hh, ⟨e, ha⟩, he⟩ | ⟨hh, ⟨e, ha⟩, he⟩ | ⟨body, hh, ha, he⟩ := reply_cases call
  · have hr := returns_of_error ha
    rw [he, happlied, hfailed]
    simp [tally_singleton, raises, holdsNoRule, unheard, hr, hh]
  · have hr := returns_of_error ha
    rw [he, Counter.growth_append, Counter.growth_append, happlied, hfailed]
    simp [tally_singleton, raises, holdsNoRule, unheard, hr, hh, Counter.growth_counted]
  · have hr : call.returns = (ruleOf call.kind body).isOk := by rw [returns, ha]
    have hn : call.holdsNoRule = !(ruleOf call.kind body).isOk := by simp only [holdsNoRule, hh]
    rw [he, Counter.growth_append, Counter.growth_append, happlied, hfailed]
    cases hk : (ruleOf call.kind body).isOk with
    | false => simp [tally_singleton, raises, unheard, hr, hn, hk, hh, Counter.growth_counted]
    | true => simp [tally_singleton, raises, unheard, hr, hn, hk, hh, Counter.growth_counted]

end Step

section Run

variable {calls : List RulesCall} {kind : PolicyKind}

theorem events_cons (call : RulesCall) (calls : List RulesCall) :
    events (call :: calls) = call.reply.events ++ events calls :=
  List.flatMap_cons ..

theorem tally_cons (kind : PolicyKind) (p : RulesCall → Bool) (call : RulesCall)
    (calls : List RulesCall) :
    tally kind p (call :: calls) = tally kind p [call] + tally kind p calls := by
  unfold tally
  rw [← List.singleton_append, List.countP_append]
  exact Int.natCast_add ..

theorem tally_nonneg (kind : PolicyKind) (p : RulesCall → Bool) (calls : List RulesCall) :
    0 ≤ tally kind p calls :=
  Int.natCast_nonneg _

theorem tally_eq_zero_iff {p : RulesCall → Bool} :
    tally kind p calls = 0 ↔ ∀ call ∈ calls, call.kind = kind → p call = false := by
  simp [tally, List.countP_eq_zero]

theorem growth_events (calls : List RulesCall) (kind : PolicyKind) :
    (Counter.rulesApplied kind).growth (events calls) =
      tally kind returns calls + tally kind holdsNoRule calls ∧
    (Counter.rulesFailed kind).growth (events calls) +
      (tally kind holdsNoRule calls + tally kind unheard calls) = tally kind raises calls := by
  induction calls with
  | nil => exact ⟨rfl, rfl⟩
  | cons call calls ih =>
    obtain ⟨happlied, hfailed⟩ := growth_reply call kind
    obtain ⟨ihapplied, ihfailed⟩ := ih
    simp only [events_cons, Counter.growth_append, tally_cons kind _ call calls]
    constructor
    · rw [happlied, ihapplied]
      omega
    · rw [← hfailed, ← ihfailed]
      omega

/-- Over a run of calls, the counter of applied rules grows by the calls that give a rule and those
that hear of something that holds none. The counter of failures grows by the other calls that fail,
but for those that hear nothing. So the counters tell how many calls of a kind give a rule and how
many fail exactly if each of them gives a rule or is refused. -/
theorem counters_of_run (calls : List RulesCall) (kind : PolicyKind) :
    let applied := (Counter.rulesApplied kind).growth (events calls)
    let failed := (Counter.rulesFailed kind).growth (events calls)
    applied = tally kind returns calls + tally kind holdsNoRule calls ∧
    failed + tally kind holdsNoRule calls + tally kind unheard calls = tally kind raises calls ∧
    (applied = tally kind returns calls ∧ failed = tally kind raises calls ↔
      ∀ call ∈ calls, call.kind = kind → call.holdsNoRule = false ∧ call.unheard = false) := by
  intro applied failed
  obtain ⟨happlied, hfailed⟩ := growth_events calls kind
  refine ⟨happlied, by omega, ?_⟩
  have hn := tally_nonneg kind unheard calls
  have hz := tally_nonneg kind holdsNoRule calls
  calc applied = tally kind returns calls ∧ failed = tally kind raises calls
    _ ↔ tally kind holdsNoRule calls = 0 ∧ tally kind unheard calls = 0 := by omega
    _ ↔ _ := by
      rw [tally_eq_zero_iff, tally_eq_zero_iff]
      constructor
      · rintro ⟨hr, hu⟩ call hc hk
        exact ⟨hr call hc hk, hu call hc hk⟩
      · intro h
        exact ⟨fun call hc hk => (h call hc hk).1, fun call hc hk => (h call hc hk).2⟩

def answered (kind : PolicyKind) (answer : StorageAnswer) : RulesCall where
  client := .answering answer
  kind
  request := {}

/-- A call for a loan policy hears of an empty object, and one for a request policy hears nothing.
Both fail. One counts as applied and the other does not count. -/
theorem counters_of_empty_answer_and_timeout :
    let calls := [answered .loan (.response 200 (Json.obj []).bytes), answered .request .timedOut]
    (Counter.rulesApplied .loan).growth (events calls) = 1 ∧ tally .loan returns calls = 0 ∧
    (Counter.rulesFailed .loan).growth (events calls) = 0 ∧ tally .loan raises calls = 1 ∧
    (Counter.rulesFailed .request).growth (events calls) = 0 ∧
    tally .request raises calls = 1 := by
  decide +kernel

end Run

end RulesCall

end Lending
