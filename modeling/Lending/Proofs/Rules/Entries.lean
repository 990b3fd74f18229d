import Lending.Proofs.Rules.Acceptance

/-! # Entries of a rules text

A line of a rules text adds one entry to the table or none: its rule, or the fallback, with the
number of the line. The entries of a text are those of its table, in the order of their numbers.
-/

namespace Lending.RulesText

variable {d d' : Draft} {k : ℕ} {ls : List (List CodePoint)} {added : List (List Rule)}

/-- What a line adds to a table. -/
inductive Adds : List CodePoint × ℕ → List Rule → Prop where
  | nothing {k : ℕ} : Adds ([], k) []
  | priority {body : List CodePoint} {k : ℕ} : Adds (priorityStart ++ body, k) []
  | fallback {body : List CodePoint} {a : Assignments} {k : ℕ} : Assigns body a →
      Adds (fallbackStart ++ body, k) [{ criteria := [], policies := a, line := k }]
  | rule {c : List CodePoint} {cs : List Criterion} {a : Assignments} {k : ℕ} :
      IsRuleContent c → States c cs a → Adds (c, k) [{ criteria := cs, policies := a, line := k }]

/-- The rules of a draft and its fallback, in no order that matters. -/
def Draft.entries (d : Draft) : List Rule := d.rules ++ d.fallback.toList

theorem exists_adds (h : Gives d k ls d') : ∃ added, List.Forall₂ Adds (numbered k ls) added ∧
    d'.entries.Perm (d.entries ++ added.flatten) := by
  induction ls generalizing d k with
  | nil =>
    obtain rfl := gives_nil_iff.mp h
    exact ⟨[], .nil, by simp⟩
  | cons l ls ih =>
    rw [numbered_cons]
    rcases content_cases (content l) with hc | ⟨body, hc⟩ | ⟨body, hc⟩ | hc
    · obtain ⟨-, h⟩ := (gives_of_nil hc).mp h
      obtain ⟨added, ha, hp⟩ := ih h
      rw [hc]
      exact ⟨[] :: added, .cons .nothing ha, hp⟩
    · obtain ⟨-, p, -, h⟩ := (gives_of_priority hc).mp h
      obtain ⟨added, ha, hp⟩ := ih h
      rw [hc]
      exact ⟨[] :: added, .cons .priority ha, hp⟩
    · obtain ⟨-, hn, a, hs, h⟩ := (gives_of_fallback hc).mp h
      obtain ⟨added, ha, hp⟩ := ih h
      rw [hc]
      refine ⟨[_] :: added, .cons (.fallback hs) ha, ?_⟩
      simpa [Draft.entries, hn] using hp
    · obtain ⟨-, cs, a, hs, h⟩ := (gives_of_rule hc).mp h
      obtain ⟨added, ha, hp⟩ := ih h
      refine ⟨[_] :: added, .cons (.rule hc hs) ha, hp.trans ?_⟩
      -- The new rule comes before the fallback here, and after it where lines are added.
      simp only [Draft.entries, List.append_assoc, List.flatten_cons]
      exact (List.perm_append_comm_assoc _ _ _).append_left _

theorem Adds.line_eq {l : List CodePoint × ℕ} {rs : List Rule} (h : Adds l rs) :
    ∀ r ∈ rs, r.line = l.2 := by
  cases h <;> simp

theorem Adds.pairwise {l : List CodePoint × ℕ} {rs : List Rule} (h : Adds l rs) :
    rs.Pairwise (·.line < ·.line) := by
  cases h <;> simp

theorem line_bounds_of_adds (h : List.Forall₂ Adds (numbered k ls) added) :
    ∀ r ∈ added.flatten, (k : ℤ) ≤ r.line ∧ r.line < k + ls.length := by
  induction ls generalizing k added with
  | nil =>
    obtain rfl := List.forall₂_nil_left_iff.mp h
    simp
  | cons l ls ih =>
    obtain _ | ⟨hl, h⟩ := h
    intro r hr
    rw [List.length_cons]
    rw [List.flatten_cons, List.mem_append] at hr
    rcases hr with hr | hr
    · have := hl.line_eq r hr
      omega
    · have := ih h r hr
      omega

theorem pairwise_of_adds (h : List.Forall₂ Adds (numbered k ls) added) :
    added.flatten.Pairwise (·.line < ·.line) := by
  induction ls generalizing k added with
  | nil =>
    obtain rfl := List.forall₂_nil_left_iff.mp h
    exact .nil
  | cons l ls ih =>
    obtain _ | ⟨hl, h⟩ := h
    refine List.pairwise_append.mpr ⟨hl.pairwise, ih h, fun r hr s hs => ?_⟩
    have hle := (line_bounds_of_adds h s hs).1
    rw [hl.line_eq r hr]
    omega

end Lending.RulesText
