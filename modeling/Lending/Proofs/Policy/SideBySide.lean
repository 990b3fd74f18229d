import Lending.Proofs.Policy.Cache
import Mathlib.Logic.Relation

/-! # Lookups side by side

Several lookups may be under way on one store: each of them looks among the policies found so far,
and where its own is not there it waits for the source before it adds it. In whatever order their
steps come, each is answered as it is alone.
-/

namespace Lending.PolicySource

variable {P : Type} {s : PolicySource P}

/-- A store with lookups under way: the ids they wait for, and the answers given to others. -/
structure Lookups (P : Type) where
  found : Found P := []
  waiting : List Json := []
  answered : List (Json × Result P) := []

/-- A step of one lookup, between two times that it gives way to others. -/
inductive Step (s : PolicySource P) : Lookups P → Lookups P → Prop where
  | refuse {l : Lookups P} {id : Json} : id.isPlain = false →
      Step s l { l with answered := (id, .error .wrongType) :: l.answered }
  | find {l : Lookups P} {id : Json} {p : P} : id.isPlain = true → l.found.get? id = some p →
      Step s l { l with answered := (id, .ok p) :: l.answered }
  | wait {l : Lookups P} {id : Json} : id.isPlain = true → l.found.get? id = none →
      Step s l { l with waiting := id :: l.waiting }
  | retrieve (before after : List Json) {l : Lookups P} {id : Json} {p : P} :
      l.waiting = before ++ id :: after → (s.retrieve id).answer = .ok p →
      Step s l {
        found := (id, p) :: l.found
        waiting := before ++ after
        answered := (id, .ok p) :: l.answered }
  | fail (before after : List Json) {l : Lookups P} {id : Json} {e : Failure} :
      l.waiting = before ++ id :: after → (s.retrieve id).answer = .error e →
      Step s l { l with waiting := before ++ after, answered := (id, .error e) :: l.answered }

/-- What was found is what the source gives, and so is every answer. -/
structure Settled (s : PolicySource P) (l : Lookups P) : Prop where
  keeps : s.Keeps l.found
  answers : ∀ (t : Text) a, (.str t, a) ∈ l.answered → a = (s.retrieve (.str t)).answer

variable {l l' : Lookups P}

theorem Settled.of_answer {found : Found P} {waiting : List Json} {id : Json} {a : Result P}
    (hl : s.Settled l) (hk : s.Keeps found)
    (ha : ∀ t : Text, id = .str t → a = (s.retrieve (.str t)).answer) :
    s.Settled { found, waiting, answered := (id, a) :: l.answered } := by
  refine ⟨hk, fun t b hb => ?_⟩
  rcases List.mem_cons.mp hb with he | hb
  · obtain ⟨rfl, rfl⟩ := Prod.mk.inj he
    exact ha t rfl
  · exact hl.answers t b hb

theorem Settled.of_step (hl : s.Settled l) (h : s.Step l l') : s.Settled l' := by
  cases h with
  | refuse hp =>
    refine hl.of_answer hl.keeps fun t ht => ?_
    subst ht
    cases hp
  | find _ hf =>
    refine hl.of_answer hl.keeps fun t ht => ?_
    subst ht
    exact (retrieve_eq_ok_iff.mpr (hl.keeps _ (Found.mem_of_get?_eq_some hf))).symm
  | wait => exact ⟨hl.keeps, hl.answers⟩
  | @retrieve _ _ _ id p _ hr =>
    have hk : s.Keeps ((id, p) :: l.found) :=
      List.forall_mem_cons.mpr ⟨retrieve_eq_ok_iff.mp hr, hl.keeps⟩
    exact hl.of_answer hk fun t ht => ht ▸ hr.symm
  | fail _ _ _ hr => exact hl.of_answer hl.keeps fun t ht => ht ▸ hr.symm

/-- A lookup that nothing comes in between. -/
theorem steps_lookupById (s : PolicySource P) (l : Lookups P) (id : Json) :
    Relation.ReflTransGen s.Step l { l with
      found := (s.lookupById id l.found).2
      answered := (id, (s.lookupById id l.found).1.answer) :: l.answered } := by
  cases hp : id.isPlain with
  | false =>
    rw [lookupById_of_not_isPlain hp]
    exact .single (.refuse hp)
  | true =>
    cases hf : l.found.get? id with
    | some p =>
      rw [lookupById_of_get?_eq_some hp hf]
      exact .single (.find hp hf)
    | none =>
      rw [lookupById_of_get?_eq_none hp hf]
      refine .head (.wait hp hf) (.single ?_)
      cases hr : (s.retrieve id).answer with
      | ok p => exact .retrieve [] l.waiting rfl hr
      | error e => exact .fail [] l.waiting rfl hr

/-- Whatever steps of other lookups come in between, a lookup is answered as a new store answers it,
and what the store keeps in the end is what its source gives. -/
theorem answered_side_by_side (h : Relation.ReflTransGen s.Step {} l) :
    s.Keeps l.found ∧
      ∀ (t : Text) a, (.str t, a) ∈ l.answered → a = (s.lookupById (.str t) []).1.answer := by
  have hl : s.Settled l := by
    induction h with
    | refl => exact ⟨keeps_nil, fun _ _ ha => by cases ha⟩
    | tail _ h ih => exact ih.of_step h
  exact ⟨hl.keeps, fun t a ha => (hl.answers t a ha).trans keeps_nil.answer_lookupById.symm⟩

end Lending.PolicySource
