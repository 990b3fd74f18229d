import Lending.Proofs.Rules.Meaning
import Mathlib.Logic.Relation

/-! # Wildcards

A criterion that lists a wildcard says nothing, wherever it stands and whatever else it lists. A
declaration decides as the one without its wildcards does, so that wildcards may come and go.
-/

namespace Lending

section Rules

/-- A rule, and the same rule with one more criterion in any place, which lists a wildcard. -/
inductive Rule.AddsWildcard : Rule → Rule → Prop where
  | mk (before : List Criterion) {after : List Criterion} {w : Criterion} {policies : Assignments}
      {line : Int} :
      .str "all" ∈ w.values ∨ .str "*" ∈ w.values →
      AddsWildcard { criteria := before ++ after, policies, line }
        { criteria := before ++ w :: after, policies, line }

/-- A declaration, and the same declaration with one more wildcard in one of its rules or in its
fallback. -/
inductive Declaration.AddsWildcard : Declaration → Declaration → Prop where
  | rule (before : List Rule) {after : List Rule} {r s fallback : Rule} {priority : List Attribute}
      {lastLineWins : Bool} : r.AddsWildcard s →
      AddsWildcard { rules := before ++ r :: after, fallback, priority, lastLineWins }
        { rules := before ++ s :: after, fallback, priority, lastLineWins }
  | fallback {rules : List Rule} {r s : Rule} {priority : List Attribute} {lastLineWins : Bool} :
      r.AddsWildcard s →
      AddsWildcard { rules, fallback := r, priority, lastLineWins }
        { rules, fallback := s, priority, lastLineWins }

def Rule.restricted (r : Rule) : Rule := { r with criteria := r.explicit }

theorem Rule.keepsMeaning_restricted : KeepsMeaning restricted where
  explicit r := by simp [restricted, explicit, List.filter_filter]
  policies _ := rfl

theorem Rule.AddsWildcard.restricted_eq {r s : Rule} (h : r.AddsWildcard s) :
    r.restricted = s.restricted := by
  obtain ⟨_, hw⟩ := h
  rw [← Criterion.isWildcard_iff] at hw
  simp [restricted, explicit, hw]

end Rules

namespace Declaration

variable {d d' : Declaration}

def restricted (d : Declaration) : Declaration :=
  { d with rules := d.rules.map Rule.restricted, fallback := d.fallback.restricted }

theorem AddsWildcard.restricted_eq (h : d.AddsWildcard d') : d.restricted = d'.restricted := by
  cases h with
  | rule _ h => simp [restricted, h.restricted_eq]
  | fallback h => simp [restricted, h.restricted_eq]

theorem map_table_restricted {α : Type} {f : RuleTable → α}
    (hf : ∀ t, f (t.mapRules Rule.restricted) = f t) (d : Declaration) :
    d.restricted.table.map f = d.table.map f := by
  rw [table, restricted, RuleTable.make_map Rule.keepsMeaning_restricted, table]
  cases h : RuleTable.make d.rules d.fallback d.priority d.lastLineWins with
  | ok t => exact congrArg Except.ok (hf t)
  | error e =>
    obtain ⟨fault, line⟩ := e
    obtain rfl : line = some d.fallback.line := RuleTable.line_of_make_eq_error h
    rfl

/-- Wildcards may be added to the rules of a declaration, and taken away again, in any number: its
table decides the same, or there is none for the same reason. -/
theorem wildcards_decide_nothing (h : Relation.EqvGen AddsWildcard d d') :
    d.table.map RuleTable.applyTo = d'.table.map RuleTable.applyTo ∧
      d.table.map RuleTable.applyAllTo = d'.table.map RuleTable.applyAllTo := by
  have hr : d.restricted = d'.restricted := by
    induction h with
    | rel _ _ h => exact h.restricted_eq
    | refl _ => rfl
    | symm _ _ _ ih => exact ih.symm
    | trans _ _ _ _ _ ih ih' => exact ih.trans ih'
  have hone := map_table_restricted (RuleTable.applyTo_mapRules Rule.keepsMeaning_restricted)
  have hall := map_table_restricted (RuleTable.applyAllTo_mapRules Rule.keepsMeaning_restricted)
  exact ⟨by rw [← hone d, hr, hone d'], by rw [← hall d, hr, hall d']⟩

def explicitOnly : Declaration where
  rules := [
    { criteria := [⟨.materialType, [.str "book"]⟩], policies := [(.loan, .str "week")], line := 3 },
    { criteria := [⟨.patronGroup, [.str "staff"]⟩]
      policies := [(.loan, .str "month")]
      line := 4 }]
  fallback := {
    criteria := []
    policies := PolicyKind.all.map fun kind => (kind, .str "none")
    line := 2 }
  priority := Attribute.all
  lastLineWins := true

def withWildcards : Declaration where
  rules := [
    { criteria := [⟨.library, [.str "main", .str "*"]⟩, ⟨.materialType, [.str "book"]⟩]
      policies := [(.loan, .str "week")]
      line := 3 },
    { criteria := [⟨.patronGroup, [.str "staff"]⟩, ⟨.patronGroup, [.str "all", .str "guest"]⟩]
      policies := [(.loan, .str "month")]
      line := 4 }]
  fallback := explicitOnly.fallback
  priority := Attribute.all
  lastLineWins := true

theorem wildcards_decide_nothing_of_two : Relation.EqvGen AddsWildcard withWildcards explicitOnly ∧
    withWildcards.table.map RuleTable.applyTo = explicitOnly.table.map RuleTable.applyTo := by
  let between : Declaration :=
    { explicitOnly with rules := explicitOnly.rules.take 1 ++ withWildcards.rules.drop 1 }
  have hfirst : between.AddsWildcard withWildcards :=
    .rule [] (.mk [] (.inr (by decide)))
  have hsecond : explicitOnly.AddsWildcard between :=
    .rule (explicitOnly.rules.take 1) (.mk [_] (.inl (by decide)))
  have h : Relation.EqvGen AddsWildcard withWildcards explicitOnly :=
    .trans _ _ _ (.symm _ _ (.rel _ _ hfirst)) (.symm _ _ (.rel _ _ hsecond))
  exact ⟨h, (wildcards_decide_nothing h).1⟩

end Declaration

end Lending
