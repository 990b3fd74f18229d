import Lending.Rules.Table

/-! # Declarations

What a rule table is made from: rules in the order of their lines, a fallback, and what decides
between rules. The table holds the declared rules in another order, and there is one exactly where
the fallback names a policy of every kind.
-/

namespace Lending

theorem PolicyKind.mem_all (kind : PolicyKind) : kind ∈ all := by cases kind <;> decide

theorem Assignments.countingIdFor_eq_some_iff {a : Assignments} {kind : PolicyKind} {id : Json} :
    a.countingIdFor kind = some id ↔ a.idFor kind = some id ∧ id.counts = true :=
  Option.filter_eq_some_iff

theorem Assignments.mem_of_idFor {a : Assignments} {kind : PolicyKind} {id : Json}
    (h : a.idFor kind = some id) : (kind, id) ∈ a := by
  obtain ⟨p, hp, rfl⟩ := Option.map_eq_some_iff.mp h
  have hk : p.1 = kind := by simpa using List.find?_some hp
  exact hk ▸ List.mem_of_find?_eq_some hp

/-- A rule that names a policy of every kind, by an id that counts. -/
def Rule.NamesAll (r : Rule) : Prop :=
  ∀ kind, ∃ id, r.policies.idFor kind = some id ∧ id.counts = true

theorem Rule.namesAll_iff {r : Rule} (h : ∀ p ∈ r.policies, p.2.counts = true) :
    r.NamesAll ↔ ∀ kind, kind ∈ r.policies.map Prod.fst := by
  refine forall_congr' fun kind => ?_
  constructor
  · rintro ⟨id, hid, -⟩
    exact List.mem_map.mpr ⟨_, Assignments.mem_of_idFor hid, rfl⟩
  · intro hk
    obtain ⟨p, hp, rfl⟩ := List.mem_map.mp hk
    obtain ⟨q, hq⟩ := Option.isSome_iff_exists.mp
      (List.find?_isSome (p := fun q => q.1 = p.1) |>.mpr ⟨p, hp, by simp⟩)
    exact ⟨q.2, Option.map_eq_some_iff.mpr ⟨q, hq, rfl⟩, h q (List.mem_of_find?_eq_some hq)⟩

structure Declaration where
  rules : List Rule
  fallback : Rule
  priority : List Attribute
  lastLineWins : Bool
deriving DecidableEq, Repr

namespace Declaration

variable {d : Declaration} {t : RuleTable}

def table (d : Declaration) : Except RulesError RuleTable :=
  RuleTable.make d.rules d.fallback d.priority d.lastLineWins

theorem table_eq_ok_iff : d.table = .ok t ↔ d.fallback.NamesAll ∧
    t = { rules := RuleTable.order d.rules d.priority d.lastLineWins
          fallback := d.fallback
          priority := d.priority } := by
  have hn : PolicyKind.all.find? (fun k => (d.fallback.policies.countingIdFor k).isNone) = none ↔
      d.fallback.NamesAll := by
    simp [Rule.NamesAll, PolicyKind.mem_all, Option.ne_none_iff_exists',
      Assignments.countingIdFor_eq_some_iff]
  rw [← hn, table, RuleTable.make]
  split
  next kind h => simp [h]
  next h => simp [h, eq_comm]

theorem rules_perm (h : d.table = .ok t) : t.rules.Perm d.rules := by
  obtain ⟨-, rfl⟩ := table_eq_ok_iff.mp h
  refine (List.mergeSort_perm _ _).trans ?_
  split
  · exact List.reverse_perm _
  · exact .refl _

theorem fallback_eq (h : d.table = .ok t) : t.fallback = d.fallback := by
  obtain ⟨-, rfl⟩ := table_eq_ok_iff.mp h
  rfl

end Declaration

end Lending
