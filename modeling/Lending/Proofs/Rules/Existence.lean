import Lending.Policy.Catalogue
import Lending.Proofs.FirstOrder
import Lending.Proofs.Policy.Lookup
import Lending.Proofs.Rules.Declaration
import Lending.Proofs.Storage
import Lending.Service.Rules

/-! # Existence of policies

The check of a table asks for every policy that a rule or the fallback names. What it accepts has
every policy that the table can choose for a request, so no later lookup misses one.
-/

namespace Lending

section Named

variable {t : RuleTable} {kind : PolicyKind} {id : Json} {p : PolicyKind × Json}

/-- Does a rule of the table, or its fallback, name the policy? -/
def RuleTable.Names (t : RuleTable) (kind : PolicyKind) (id : Json) : Prop :=
  ∃ r ∈ t.rules ++ [t.fallback], (kind, id) ∈ r.policies

theorem Rule.mem_of_idFor {r : Rule} {request : MatchCriteria}
    (h : r.idFor kind request = some id) : (kind, id) ∈ r.policies := by
  unfold idFor at h
  split at h
  · exact Assignments.mem_of_idFor (Assignments.countingIdFor_eq_some_iff.mp h).1
  · cases h

namespace RuleTable

theorem mem_namedPolicies_iff : p ∈ t.namedPolicies ↔ t.Names p.1 p.2 := by
  rw [namedPolicies, (inFirstOrder_foldl _).mem_iff, references]
  constructor
  · intro h
    obtain ⟨ref, href, rfl⟩ := List.mem_map.mp h
    obtain ⟨r, hr, href⟩ := List.mem_flatMap.mp href
    obtain ⟨q, hq, rfl⟩ := List.mem_map.mp href
    exact ⟨r, List.mem_mergeSort.mp hr, hq⟩
  · rintro ⟨r, hr, hp⟩
    refine List.mem_map.mpr ⟨⟨p.1, p.2, r.line⟩, ?_, rfl⟩
    exact List.mem_flatMap.mpr ⟨r, List.mem_mergeSort.mpr hr, List.mem_map.mpr ⟨p, hp, rfl⟩⟩

theorem names_policyId_apply (hf : t.fallback.NamesAll) (kind : PolicyKind)
    (request : MatchCriteria) : t.Names kind (t.apply kind request).policyId := by
  unfold apply
  split
  next r hr =>
    have hs : (r.idFor kind request).isSome := by simpa using List.find?_some hr
    obtain ⟨id, hid⟩ := Option.isSome_iff_exists.mp hs
    refine ⟨r, List.mem_append_left _ (List.mem_of_find?_eq_some hr), ?_⟩
    simpa only [hid, Option.getD_some] using Rule.mem_of_idFor hid
  next =>
    obtain ⟨id, hid, -⟩ := hf kind
    refine ⟨t.fallback, by simp, ?_⟩
    simpa only [hid, Option.getD_some] using Assignments.mem_of_idFor hid

end RuleTable

end Named

section Check

variable {α : Type} {f : α → Result Bool} {ps : List α} {found : List Bool}

theorem find?_missing_eq_none_iff (h : List.Forall₂ (fun p b => f p = .ok b) ps found) :
    (ps.zip found).find? (!·.2) = none ↔ ∀ p ∈ ps, f p = .ok true := by
  induction h with
  | nil => simp
  | @cons p b ps found hb _ ih =>
    rw [List.zip_cons_cons, List.forall_mem_cons, hb]
    cases b with
    | true => simpa using ih
    | false => simp

theorem of_find?_missing_eq_some {p : α} {b : Bool}
    (h : List.Forall₂ (fun p b => f p = .ok b) ps found)
    (hp : (ps.zip found).find? (!·.2) = some (p, b)) : p ∈ ps ∧ f p = .ok false := by
  have hm := List.mem_of_find?_eq_some hp
  obtain rfl : b = false := by simpa using List.find?_some hp
  exact ⟨(List.of_mem_zip hm).1, List.forall₂_zip h hm⟩

variable {t : RuleTable} {policyExists : PolicyKind → Json → Reply Bool} {kind : PolicyKind}
  {id : Json}

namespace RuleTable

theorem checkReferences_eq_ok_iff : (t.checkReferences policyExists).answer = .ok () ↔
    ∀ kind id, t.Names kind id → (policyExists kind id).answer = .ok true := by
  have hn : (∀ kind id, t.Names kind id → (policyExists kind id).answer = .ok true) ↔
      ∀ p ∈ t.namedPolicies, (policyExists p.1 p.2).answer = .ok true := by
    simp only [mem_namedPolicies_iff, Prod.forall]
  rw [hn, checkReferences, Reply.answer_bind, bind_eq_ok_iff]
  simp only [Reply.all_eq_ok_iff, List.forall₂_map_left_iff]
  constructor
  · rintro ⟨found, hfound, h⟩
    rw [← find?_missing_eq_none_iff hfound]
    split at h
    · cases h
    next hnone => exact hnone
  · intro h
    obtain ⟨found, hfound⟩ : ∃ found, List.Forall₂
        (fun p b => (policyExists p.1 p.2).answer = .ok b) t.namedPolicies found :=
      exists_forall₂_iff.mpr fun p hp => ⟨true, h p hp⟩
    refine ⟨found, hfound, ?_⟩
    rw [(find?_missing_eq_none_iff hfound).mpr h]
    rfl

/-- The check fails for a policy that is named and does not exist, unless asking for one fails. -/
theorem of_checkReferences_eq_policyNotFound
    (he : ∀ k i, (policyExists k i).answer ≠ .error (.refused (.policyNotFound kind id)))
    (h : (t.checkReferences policyExists).answer = .error (.refused (.policyNotFound kind id))) :
    t.Names kind id ∧ (policyExists kind id).answer = .ok false := by
  rw [checkReferences, Reply.answer_bind, bind_eq_error_iff] at h
  obtain h | ⟨found, hfound, h⟩ := h
  · obtain ⟨x, hx, h⟩ := Reply.exists_of_all_eq_error h
    obtain ⟨p, -, rfl⟩ := List.mem_map.mp hx
    exact absurd h (he p.1 p.2)
  · rw [Reply.all_eq_ok_iff, List.forall₂_map_left_iff] at hfound
    split at h
    next k i b hsome =>
      obtain ⟨rfl, rfl⟩ : k = kind ∧ i = id := by simpa using h
      obtain ⟨hp, hb⟩ := of_find?_missing_eq_some hfound hsome
      exact ⟨mem_namedPolicies_iff.mp hp, hb⟩
    · cases h

end RuleTable

end Check

section Lookup

variable {d : Declaration} {t : RuleTable} {reason : Refusal}

theorem RuleTable.applyTo_ne_refused {kind : PolicyKind} {request : MatchCriteria} :
    t.applyTo kind request ≠ .error (.refused reason) := by
  unfold applyTo
  split <;> simp [Failure.wrongType]

namespace Sources

def withRules (s : Sources) (t : RuleTable) : Sources :=
  { s with applyRules := fun kind request => .ofResult (t.applyTo kind request) }

def policyExists (s : Sources) (kind : PolicyKind) (id : Json) : Reply Bool := do
  return (← s.fetchPolicy kind id) != .null

variable {s : Sources}

theorem policyExists_eq_true_iff {kind : PolicyKind} {id : Json} :
    (s.policyExists kind id).answer = .ok true ↔
      ∃ body, (s.fetchPolicy kind id).answer = .ok body ∧ body ≠ .null := by
  simp [policyExists, bind_eq_ok_iff]

theorem lookup_of_checkReferences {item : Item} {patron : Patron} {kind : PolicyKind}
    {shelf : Shelf} (hf : t.fallback.NamesAll)
    (hc : (t.checkReferences s.policyExists).answer = .ok ())
    (hs : ∀ id, (s.fetchSchedule id).answer ≠ .error (.refused reason)) :
    ((s.withRules t).lookup kind item patron shelf).1.answer ≠ .error (.refused reason) := by
  rw [RuleTable.checkReferences_eq_ok_iff] at hc
  refine lookup_ne_refused (fun kind request => RuleTable.applyTo_ne_refused) ?_ hs
  intro kind request a ha
  have ha : t.applyTo kind request = .ok a := ha
  have hn := RuleTable.names_policyId_apply hf kind request
  unfold RuleTable.applyTo at ha
  split at ha
  · cases ha
  · obtain rfl := Except.ok.inj ha
    exact policyExists_eq_true_iff.mp (hc _ _ hn)

end Sources

/-- A table whose check succeeds has every policy that it chooses, and no lookup by its rules is
refused, whatever was found before, unless fetching a schedule is. A check that fails for a policy
fails for one that the table names and that does not exist. Storage itself never refuses. -/
theorem checked_policies_exist (ht : d.table = .ok t) :
    (∀ policyExists : PolicyKind → Json → Reply Bool,
      ((t.checkReferences policyExists).answer = .ok () → ∀ kind request,
        (policyExists kind (t.apply kind request).policyId).answer = .ok true) ∧
      ∀ kind id,
        (∀ k i, (policyExists k i).answer ≠ .error (.refused (.policyNotFound kind id))) →
        (t.checkReferences policyExists).answer = .error (.refused (.policyNotFound kind id)) →
        t.Names kind id ∧ (policyExists kind id).answer = .ok false) ∧
    (∀ (s : Sources) (reason : Refusal), (t.checkReferences s.policyExists).answer = .ok () →
      (∀ id, (s.fetchSchedule id).answer ≠ .error (.refused reason)) →
      ∀ kind item patron shelf,
        ((s.withRules t).lookup kind item patron shelf).1.answer ≠ .error (.refused reason)) ∧
    ∀ s : Service,
      ((t.checkReferences s.policyExists).answer = .ok () →
        ∀ (zone : Zone) kind item patron shelf reason,
          ((s.sources (fun kind request => .ofResult (t.applyTo kind request)) zone).lookup kind
            item patron shelf).1.answer ≠ .error (.refused reason)) ∧
      ∀ kind id,
        (t.checkReferences s.policyExists).answer = .error (.refused (.policyNotFound kind id)) →
        t.Names kind id ∧ (s.client.fetchPolicy kind id).answer = .ok .null := by
  obtain ⟨hf, rfl⟩ := Declaration.table_eq_ok_iff.mp ht
  refine ⟨fun policyExists => ⟨fun h kind request => ?_, fun kind id he h => ?_⟩,
    fun s reason hc hs kind item patron shelf => ?_,
    fun s => ⟨fun hc zone kind item patron shelf reason => ?_, fun kind id h => ?_⟩⟩
  · rw [RuleTable.checkReferences_eq_ok_iff] at h
    exact h _ _ (RuleTable.names_policyId_apply hf kind request)
  · exact RuleTable.of_checkReferences_eq_policyNotFound he h
  · exact Sources.lookup_of_checkReferences hf hc hs
  · let sources := s.sources s.client.applyRules zone
    exact Sources.lookup_of_checkReferences (s := sources) hf hc fun _ =>
      Client.fetchSchedule_ne_refused
  · have he (k : PolicyKind) (i : Json) :
        (s.policyExists k i).answer ≠ .error (.refused (.policyNotFound kind id)) := by
      rw [Service.policyExists, Reply.answer_bind]
      exact bind_ne_error Client.fetchPolicy_ne_refused fun _ => by simp
    obtain ⟨hn, hb⟩ := RuleTable.of_checkReferences_eq_policyNotFound he h
    refine ⟨hn, ?_⟩
    simpa [Service.policyExists, bind_eq_ok_iff] using hb

def Declaration.books : Declaration where
  rules := [{
    criteria := [⟨.materialType, [.str "book"]⟩]
    policies := [(.loan, .str "month")]
    line := 3 }]
  fallback := {
    criteria := []
    policies := PolicyKind.all.map fun kind => (kind, .str "none")
    line := 2 }
  priority := Attribute.all
  lastLineWins := false

def Catalogue.books : Catalogue where
  policies := ((.loan, .str "month"), .ok (.obj [])) ::
    PolicyKind.all.map fun kind => ((kind, .str "none"), .ok (.obj []))

theorem checked_policies_exist_of_books : ∃ t, Declaration.books.table = .ok t ∧
    (t.checkReferences (Catalogue.books.sources t .utc).policyExists).answer = .ok () ∧
    ∀ kind item patron shelf k id,
      ((Catalogue.books.sources t .utc).lookup kind item patron shelf).1.answer ≠
        .error (.refused (.policyNotFound k id)) := by
  have hf : Declaration.books.fallback.NamesAll := fun kind =>
    ⟨.str "none", by cases kind <;> decide, by decide⟩
  obtain ⟨t, ht⟩ : ∃ t, Declaration.books.table = .ok t :=
    ⟨_, Declaration.table_eq_ok_iff.mpr ⟨hf, rfl⟩⟩
  have hc : (t.checkReferences (Catalogue.books.sources t .utc).policyExists).answer = .ok () := by
    rw [RuleTable.checkReferences_eq_ok_iff]
    rintro kind id ⟨r, hr, hp⟩
    rw [Declaration.fallback_eq ht, List.mem_append, (Declaration.rules_perm ht).mem_iff] at hr
    obtain hr | hr := hr
    · obtain rfl := List.mem_singleton.mp hr
      obtain ⟨rfl, rfl⟩ := Prod.mk.inj (List.mem_singleton.mp hp)
      rfl
    · obtain rfl := List.mem_singleton.mp hr
      obtain ⟨k, -, he⟩ := List.mem_map.mp hp
      obtain ⟨rfl, rfl⟩ := Prod.mk.inj he
      cases k <;> rfl
  have hs (k : PolicyKind) (id i : Json) :
      ((Catalogue.books.sources t .utc).fetchSchedule i).answer ≠
        .error (.refused (.policyNotFound k id)) := by
    change Catalogue.books.schedule i ≠ _
    unfold Catalogue.schedule
    split <;> simp [Failure.wrongType]
  refine ⟨t, ht, hc, fun kind item patron shelf k id => ?_⟩
  exact (checked_policies_exist ht).2.1 _ _ hc (hs k id) kind item patron shelf

end Lookup

end Lending
