import Lending.Policy.Catalogue
import Lending.Proofs.Policy.Lookup
import Lending.Proofs.Rules.Criterion
import Mathlib.Data.List.Induction

/-! # What a store keeps

A store that has been asked before answers as a new store does: everything it keeps is what its
source gives. It only asks the source less often, once for each policy that it finds.
-/

namespace Lending

variable {P : Type}

namespace Found

variable {found : Found P} {t : Text} {p : P}

theorem mem_of_get?_eq_some (h : found.get? (.str t) = some p) : (.str t, p) ∈ found := by
  unfold get? at h
  obtain ⟨e, he, rfl⟩ := Option.map_eq_some_iff.mp h
  have hid : e.1.agrees (.str t) = true := by simpa using List.find?_some he
  rw [← Json.agrees_str_iff.mp hid]
  exact List.mem_of_find?_eq_some he

theorem get?_ne_none_of_mem (h : (.str t, p) ∈ found) : found.get? (.str t) ≠ none := by
  unfold get?
  rw [ne_eq, Option.map_eq_none_iff, List.find?_eq_none]
  intro hn
  exact hn _ h (Json.agrees_str_iff.mpr rfl)

end Found

namespace PolicySource

/-- A policy as the store's own source gives it: the body that it has for the id, read and
completed. -/
def Gives (s : PolicySource P) (id : Json) (p : P) : Prop :=
  ∃ body q, (s.fetch s.kind id).answer = .ok body ∧ body ≠ .null ∧ s.read body = .ok q ∧
    (s.complete q).answer = .ok p

/-- Everything found is what the source gives. -/
def Keeps (s : PolicySource P) (found : Found P) : Prop := ∀ e ∈ found, s.Gives e.1 e.2

variable {s : PolicySource P} {found : Found P} {id : Json} {t : Text} {p : P} {e : Failure}

section Lookup

theorem body_eq_ok_iff {body : Json} :
    (s.body id).answer = .ok body ↔ (s.fetch s.kind id).answer = .ok body ∧ body ≠ .null := by
  rw [PolicySource.body, Reply.answer_bind, bind_eq_ok_iff]
  constructor
  · rintro ⟨v, hv, h⟩
    split at h
    · cases h
    next hn =>
      obtain rfl := Except.ok.inj h
      exact ⟨hv, hn⟩
  · rintro ⟨hv, hn⟩
    have hb := answer_body_of_exists hv hn
    rwa [PolicySource.body, Reply.answer_bind, bind_eq_ok_iff] at hb

theorem retrieve_eq_ok_iff : (s.retrieve id).answer = .ok p ↔ s.Gives id p := by
  simp only [retrieve, Gives, Reply.answer_bind, Reply.answer_lift, bind_eq_ok_iff,
    body_eq_ok_iff]
  constructor
  · rintro ⟨body, ⟨hf, hb⟩, q, hq, hp⟩
    exact ⟨body, q, hf, hb, hq, hp⟩
  · rintro ⟨body, q, hf, hb, hq, hp⟩
    exact ⟨body, ⟨hf, hb⟩, q, hq, hp⟩

theorem fetch_prefix_retrieve : (s.fetch s.kind id).events <+: (s.retrieve id).events := by
  have hb : (s.fetch s.kind id).events <+: (s.body id).events := Reply.events_prefix_bind _ _
  exact hb.trans (Reply.events_prefix_bind _ _)

theorem lookupById_of_not_isPlain (hp : id.isPlain = false) :
    s.lookupById id found = (Reply.fail .wrongType, found) := by
  unfold lookupById
  rw [hp]
  rfl

theorem lookupById_of_get?_eq_some (hp : id.isPlain = true) (h : found.get? id = some p) :
    s.lookupById id found = (pure p, found) := by
  unfold lookupById
  rw [hp, if_neg (by simp), Session.bind_of_ok Session.answer_get]
  simp only [Session.get_snd, h]
  rfl

theorem lookupById_of_get?_eq_none (hp : id.isPlain = true) (h : found.get? id = none) :
    s.lookupById id found =
      (s.retrieve id, match (s.retrieve id).answer with
        | .ok p => (id, p) :: found
        | .error _ => found) := by
  unfold lookupById
  rw [hp, if_neg (by simp), Session.bind_of_ok Session.answer_get]
  simp only [Session.get_snd, h]
  obtain ⟨events, answer⟩ := s.retrieve id
  cases answer with
  | ok p =>
    change (({ events := events ++ [], answer := .ok p } : Reply P), (id, p) :: found) = _
    rw [List.append_nil]
  | error e => rfl

/-- What a lookup leaves: what was there, or that and the policy that it gave. -/
theorem lookupById_leaves (s : PolicySource P) (found : Found P) (id : Json) :
    (s.lookupById id found).2 = found ∨
      ∃ p, s.Gives id p ∧ (s.lookupById id found).1.answer = .ok p ∧
        (s.lookupById id found).2 = (id, p) :: found := by
  cases hp : id.isPlain with
  | false =>
    rw [lookupById_of_not_isPlain hp]
    exact .inl rfl
  | true =>
    cases hf : found.get? id with
    | some p =>
      rw [lookupById_of_get?_eq_some hp hf]
      exact .inl rfl
    | none =>
      rw [lookupById_of_get?_eq_none hp hf]
      cases hr : (s.retrieve id).answer with
      | ok p => exact .inr ⟨p, retrieve_eq_ok_iff.mp hr, rfl, rfl⟩
      | error e => exact .inl rfl

theorem Gives.unique {p' : P} (h : s.Gives id p) (h' : s.Gives id p') : p = p' := by
  have hp := retrieve_eq_ok_iff.mpr h
  rw [retrieve_eq_ok_iff.mpr h'] at hp
  exact (Except.ok.inj hp).symm

theorem keeps_nil : s.Keeps [] := by
  intro e he
  cases he

theorem mem_lookupById (h : (s.lookupById (.str t) found).1.answer = .ok p) :
    (.str t, p) ∈ (s.lookupById (.str t) found).2 := by
  cases hf : found.get? (.str t) with
  | some p' =>
    rw [lookupById_of_get?_eq_some rfl hf] at h ⊢
    obtain rfl := Except.ok.inj h
    exact Found.mem_of_get?_eq_some hf
  | none =>
    rw [lookupById_of_get?_eq_none rfl hf] at h ⊢
    rw [h]
    exact List.mem_cons_self

variable (hk : s.Keeps found)
include hk

theorem Keeps.lookupById_of_mem (h : (.str t, p) ∈ found) :
    s.lookupById (.str t) found = (pure p, found) := by
  obtain ⟨p', hp'⟩ := Option.ne_none_iff_exists'.mp (Found.get?_ne_none_of_mem h)
  have hm := Found.mem_of_get?_eq_some hp'
  obtain rfl : p' = p := (hk _ hm).unique (hk _ h)
  exact lookupById_of_get?_eq_some rfl hp'

theorem Keeps.lookupById_of_error (h : (s.retrieve (.str t)).answer = .error e) :
    s.lookupById (.str t) found = (s.retrieve (.str t), found) := by
  have hn : found.get? (.str t) = none := by
    by_contra hn
    obtain ⟨p, hp⟩ := Option.ne_none_iff_exists'.mp hn
    have hm := retrieve_eq_ok_iff.mpr (hk _ (Found.mem_of_get?_eq_some hp))
    rw [h] at hm
    cases hm
  rw [lookupById_of_get?_eq_none rfl hn, h]

theorem Keeps.answer_lookupById :
    (s.lookupById (.str t) found).1.answer = (s.retrieve (.str t)).answer := by
  cases hf : found.get? (.str t) with
  | some p =>
    rw [lookupById_of_get?_eq_some rfl hf, Reply.answer_pure]
    exact (retrieve_eq_ok_iff.mpr (hk _ (Found.mem_of_get?_eq_some hf))).symm
  | none => rw [lookupById_of_get?_eq_none rfl hf]

end Lookup

section Run

/-- A call on a store: for a policy by its id, or for the policy that the rules name. -/
inductive Call where
  | byId (id : Json)
  | forItem (item : Item) (patron : Patron)

def idOf (s : PolicySource P) : Call → Reply Json
  | .byId id => pure id
  | .forItem item patron => do return (← s.appliedRule item patron).policyId

def call (s : PolicySource P) : Call → Session (Found P) P
  | .byId id => s.lookupById id
  | .forItem item patron => s.lookup item patron

/-- What a new store has found after some calls. -/
def after (s : PolicySource P) (calls : List Call) : Found P :=
  calls.foldl (fun found c => (s.call c found).2) []

variable {c : Call} {calls before later : List Call}

theorem call_of_ok (h : (s.idOf c).answer = .ok id) :
    s.call c found =
      ({ (s.lookupById id found).1 with
          events := (s.idOf c).events ++ (s.lookupById id found).1.events },
        (s.lookupById id found).2) := by
  cases c with
  | byId i =>
    obtain rfl := Except.ok.inj h
    rfl
  | forItem item patron =>
    simp only [idOf, Reply.answer_bind, bind_eq_ok_iff] at h
    obtain ⟨a, ha, h⟩ := h
    obtain rfl := Except.ok.inj h
    have he : (s.idOf (.forItem item patron)).events = (s.appliedRule item patron).events := by
      rw [idOf, Reply.bind_of_ok ha]
      exact List.append_nil _
    rw [call, lookup, Session.bind_of_ok (a := a) ha, he]
    rfl

theorem call_of_error (h : (s.idOf c).answer = .error e) :
    s.call c found = ({ events := (s.idOf c).events, answer := .error e }, found) := by
  cases c with
  | byId i => cases h
  | forItem item patron =>
    simp only [idOf, Reply.answer_bind, bind_eq_error_iff] at h
    obtain h | ⟨a, -, h⟩ := h
    · rw [call, lookup, Session.bind_of_error (e := e) h, idOf, Reply.bind_of_error h]
      rfl
    · cases h

theorem call_leaves (s : PolicySource P) (found : Found P) (c : Call) :
    (s.call c found).2 = found ∨
      ∃ id p, s.Gives id p ∧ (s.call c found).1.answer = .ok p ∧
        (s.call c found).2 = (id, p) :: found := by
  cases h : (s.idOf c).answer with
  | ok id =>
    rw [call_of_ok h]
    obtain hl | ⟨p, hp, ha, hl⟩ := lookupById_leaves s found id
    · exact .inl hl
    · exact .inr ⟨id, p, hp, ha, hl⟩
  | error e =>
    rw [call_of_error h]
    exact .inl rfl

theorem Keeps.call (hk : s.Keeps found) : s.Keeps (s.call c found).2 := by
  obtain h | ⟨id, p, hp, -, h⟩ := call_leaves s found c
  · rw [h]
    exact hk
  · rw [h]
    intro entry he
    obtain rfl | he := List.mem_cons.mp he
    · exact hp
    · exact hk entry he

theorem mem_call {entry : Json × P} (h : entry ∈ found) : entry ∈ (s.call c found).2 := by
  obtain hl | ⟨id, p, -, -, hl⟩ := call_leaves s found c
  · rwa [hl]
  · rw [hl]
    exact List.mem_cons_of_mem _ h

theorem call_snd_of_error (h : (s.call c found).1.answer = .error e) :
    (s.call c found).2 = found := by
  obtain hl | ⟨id, p, -, ha, -⟩ := call_leaves s found c
  · exact hl
  · rw [h] at ha
    cases ha

theorem after_concat : s.after (calls ++ [c]) = (s.call c (s.after calls)).2 := by
  rw [after, List.foldl_append]
  rfl

theorem keeps_after (s : PolicySource P) (calls : List Call) : s.Keeps (s.after calls) := by
  -- The last call comes off, as a call starts from what those before it have left.
  induction calls using List.reverseRecOn with
  | nil => exact keeps_nil
  | append_singleton calls c ih =>
    rw [after_concat]
    exact ih.call

theorem mem_after_append {entry : Json × P} (h : entry ∈ s.after before) :
    entry ∈ s.after (before ++ later) := by
  induction later using List.reverseRecOn with
  | nil => rwa [List.append_nil]
  | append_singleton later c ih =>
    rw [← List.append_assoc, after_concat]
    exact mem_call ih

theorem Keeps.answer_call (hk : s.Keeps found)
    (ht : ∀ id, (s.idOf c).answer = .ok id → ∃ t : Text, id = .str t) :
    (s.call c found).1.answer = (s.call c []).1.answer := by
  cases h : (s.idOf c).answer with
  | ok id =>
    obtain ⟨t, rfl⟩ := ht id h
    rw [call_of_ok h, call_of_ok h]
    exact hk.answer_lookupById.trans keeps_nil.answer_lookupById.symm
  | error e => rw [call_of_error h, call_of_error h]

theorem call_of_found {c' : Call} (h' : (s.idOf c').answer = .ok (.str t))
    (h : (s.idOf c).answer = .ok (.str t))
    (hp : (s.call c' (s.after before)).1.answer = .ok p) :
    (s.call c (s.after (before ++ c' :: later))).1 =
      { events := (s.idOf c).events, answer := .ok p } := by
  have hm : (.str t, p) ∈ s.after (before ++ [c']) := by
    rw [after_concat]
    rw [call_of_ok h'] at hp ⊢
    exact mem_lookupById hp
  have hm : (.str t, p) ∈ s.after (before ++ c' :: later) := by
    rw [List.append_cons]
    exact mem_after_append hm
  rw [call_of_ok h, (s.keeps_after _).lookupById_of_mem hm]
  change ({ events := (s.idOf c).events ++ [], answer := .ok p } : Reply P) = _
  rw [List.append_nil]

theorem call_of_failed {c' : Call} (h' : (s.idOf c').answer = .ok (.str t))
    (h : (s.idOf c).answer = .ok (.str t))
    (he : (s.call c' (s.after before)).1.answer = .error e) :
    (s.call c (s.after calls)).1 =
      { events := (s.idOf c).events ++ (s.retrieve (.str t)).events, answer := .error e } := by
  have hr : (s.retrieve (.str t)).answer = .error e := by
    rw [call_of_ok h'] at he
    rw [← he]
    exact (s.keeps_after before).answer_lookupById.symm
  rw [call_of_ok h, (s.keeps_after calls).lookupById_of_error hr, ← hr]

end Run

/-- A store answers each call, whatever it was asked before, as a new store does. What it keeps is
what its source gives, and a call that fails adds nothing to it. A policy that was found once is not
fetched again; one that was not found is fetched again by each call for it, once the rules have
named it. -/
theorem cache_is_transparent (s : PolicySource P) (calls : List Call) (c : Call)
    (ht : ∀ id, (s.idOf c).answer = .ok id → ∃ t : Text, id = .str t) :
    (s.call c (s.after calls)).1.answer = (s.call c []).1.answer ∧
    (∀ id p, (id, p) ∈ s.after calls → s.Gives id p) ∧
    (∀ e, (s.call c (s.after calls)).1.answer = .error e →
      s.after (calls ++ [c]) = s.after calls) ∧
    ∀ before c' later id, calls = before ++ c' :: later →
      (s.idOf c').answer = .ok id → (s.idOf c).answer = .ok id →
      (∀ p, (s.call c' (s.after before)).1.answer = .ok p →
        (s.call c (s.after calls)).1 = { events := (s.idOf c).events, answer := .ok p }) ∧
      ∀ e, (s.call c' (s.after before)).1.answer = .error e →
        (s.call c (s.after calls)).1.answer = .error e ∧
        (s.idOf c).events ++ (s.fetch s.kind id).events <+:
          (s.call c (s.after calls)).1.events := by
  refine ⟨(s.keeps_after calls).answer_call ht, fun id p h => s.keeps_after calls _ h,
    fun e h => ?_, ?_⟩
  · rw [after_concat]
    exact call_snd_of_error h
  · rintro before c' later id rfl h' h
    obtain ⟨t, rfl⟩ := ht id h
    refine ⟨fun p hp => call_of_found h' h hp, fun e he => ?_⟩
    rw [call_of_failed h' h he]
    exact ⟨rfl, (List.prefix_append_right_inj _).mpr fetch_prefix_retrieve⟩

end PolicySource

def Catalogue.term : Catalogue where
  policies := [
    ((.loan, .str "term"), .ok (.obj [("id", .str "term"),
      ("loansPolicy", .obj [("fixedDueDateScheduleId", .str "spring")])])),
    ((.overdueFine, .str "term"), .ok (.obj [("id", .str "term")]))]
  schedules := [(.str "spring", .obj [("id", .str "spring")])]

def RuleTable.term : RuleTable where
  rules := []
  fallback := {
    criteria := []
    policies := PolicyKind.all.map fun kind => (kind, .str "term")
    line := 1 }
  priority := Attribute.all

def Item.shelved : Item where
  id := .str "book"
  holdingsRecord := .str "holding"
  location := some { id := .str "stacks" }

def Patron.reader : Patron where
  id := .str "reader"
  patronGroup := .str "staff"

theorem PolicySource.cache_is_transparent_of_term :
    let s := (Catalogue.term.sources .term .utc).loan
    let calls : List Call := [.byId (.str "ghost"), .forItem .shelved .reader,
      .forItem (.notFound (.str "lost")) .reader]
    (∃ p, (s.call (.byId (.str "term")) (s.after calls)).1 = { events := [], answer := .ok p } ∧
      p.schedule.id = .str "spring") ∧
    [.policyRead .loan (.str "ghost")] <+:
      (s.call (.byId (.str "ghost")) (s.after calls)).1.events := by
  intro s calls
  have ht (t : Text) (id : Json) (h : (s.idOf (.byId (.str t))).answer = .ok id) :
      ∃ t : Text, id = .str t := ⟨t, (Except.ok.inj h).symm⟩
  obtain ⟨-, -, -, hterm⟩ := cache_is_transparent s calls (.byId (.str "term")) (ht "term")
  obtain ⟨-, -, -, hghost⟩ := cache_is_transparent s calls (.byId (.str "ghost")) (ht "ghost")
  constructor
  · have hfound := (hterm [.byId (.str "ghost")] (.forItem .shelved .reader) _ _ rfl rfl rfl).1
    exact ⟨_, hfound _ rfl, rfl⟩
  · have hfailed := (hghost [] (.byId (.str "ghost")) _ _ rfl rfl rfl).2
    exact (hfailed _ rfl).2

end Lending
