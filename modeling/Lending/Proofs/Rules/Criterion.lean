import Lending.Rules.Criterion

/-! # What a criterion asks

A criterion holds for a request when one of its values is a wildcard or is what the request has.
-/

namespace Lending

theorem Json.agrees_str_iff {v : Json} {t : Text} : v.agrees (.str t) = true ↔ v = .str t := by
  cases v <;> simp [agrees, plainAgrees, integer?]

theorem Json.agrees_null_iff {v : Json} : v.agrees .null = true ↔ v = .null := by
  cases v <;> simp [agrees, plainAgrees, integer?]

namespace Criterion

variable {c : Criterion} {request : MatchCriteria}

theorem isWildcard_iff : c.isWildcard = true ↔ .str "all" ∈ c.values ∨ .str "*" ∈ c.values := by
  simp only [isWildcard, wildcards, List.any_eq_true, List.contains_eq_mem, List.mem_cons,
    List.not_mem_nil, or_false, decide_eq_true_eq]
  constructor
  · rintro ⟨v, hv, rfl | rfl⟩
    · exact .inl hv
    · exact .inr hv
  · rintro (h | h)
    · exact ⟨_, h, .inl rfl⟩
    · exact ⟨_, h, .inr rfl⟩

/-- A wildcard is among the values, or one of them agrees with what the request has. -/
def HoldsFor (c : Criterion) (request : MatchCriteria) : Prop :=
  (.str "all" ∈ c.values ∨ .str "*" ∈ c.values) ∨
    ∃ v ∈ c.values, v.agrees (request.value c.subject) = true

instance : Decidable (c.HoldsFor request) :=
  inferInstanceAs (Decidable ((_ ∨ _) ∨ ∃ v ∈ c.values, _))

theorem accepts_iff : c.accepts request = true ↔ c.HoldsFor request := by
  rw [accepts, Bool.or_eq_true, isWildcard_iff, lists, List.any_eq_true, HoldsFor]

theorem holdsFor_iff_of_str {t : Text} (ht : request.value c.subject = .str t) :
    c.HoldsFor request ↔ (.str "all" ∈ c.values ∨ .str "*" ∈ c.values) ∨ .str t ∈ c.values := by
  simp only [HoldsFor, ht, Json.agrees_str_iff, exists_eq_right]

theorem holdsFor_iff_of_null (hv : request.value c.subject = .null) (hn : .null ∉ c.values) :
    c.HoldsFor request ↔ .str "all" ∈ c.values ∨ .str "*" ∈ c.values := by
  simp only [HoldsFor, hv, Json.agrees_null_iff, exists_eq_right, hn, or_false]

end Criterion

end Lending
