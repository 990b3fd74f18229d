import Lending.Proofs.Rules.Entries
import Lending.Proofs.Rules.Existence
import Mathlib.Data.List.Nodup

/-! # The order of references

A check asks for the policies that a rules text names in the order of the text: line by line, and
in a line as written. The table holds its rules in another order, with the fallback apart, so that
their lines have to bring them back into the order of the text.
-/

namespace Lending

namespace RuleTable

variable {t : RuleTable} {named : List (PolicyKind × Json)}
  {policyExists : PolicyKind → Json → Reply Bool} {holds : PolicyKind → Json → Bool}

theorem pairwise_mergeSort_line (rs : List Rule) :
    (rs.mergeSort fun a b => a.line ≤ b.line).Pairwise (·.line ≤ ·.line) := by
  have h := @List.pairwise_mergeSort Rule (fun a b => a.line ≤ b.line)
    (by simpa using fun a b c => Int.le_trans) (by simpa using fun a b => Int.le_total _ _) rs
  simpa using h

theorem references_eq {entries : List Rule}
    (hp : (t.rules ++ [t.fallback]).Perm entries) (hs : entries.Pairwise (·.line < ·.line)) :
    t.references = entries.flatMap Rule.references := by
  have hn : (entries.map (·.line)).Nodup := List.pairwise_map.mpr (hs.imp Int.ne_of_lt)
  have hperm : ((t.rules ++ [t.fallback]).mergeSort fun a b => a.line ≤ b.line).Perm entries :=
    (List.mergeSort_perm _ _).trans hp
  have hsort : (t.rules ++ [t.fallback]).mergeSort (fun a b => a.line ≤ b.line) = entries := by
    refine List.Perm.eq_of_pairwise (fun r s hr hs h h' => ?_) (pairwise_mergeSort_line _)
      (hs.imp Int.le_of_lt) hperm
    exact List.inj_on_of_nodup_map hn (hperm.mem_iff.mp hr) hs (Int.le_antisymm h h')
  rw [references, hsort]

theorem events_checkReferences : (t.checkReferences policyExists).events =
    t.namedPolicies.flatMap fun p => (policyExists p.1 p.2).events := by
  rw [checkReferences, Reply.events_bind_of_quiet, Reply.events_all, List.flatMap_map]
  intro found
  split <;> rfl

theorem answer_checkReferences (h : ∀ k i, (policyExists k i).answer = .ok (holds k i)) :
    (t.checkReferences policyExists).answer =
      match t.namedPolicies.find? fun p => !holds p.1 p.2 with
      | some p => .error (.refused (.policyNotFound p.1 p.2))
      | none => .ok () := by
  have hall : (Reply.all (t.namedPolicies.map fun p => policyExists p.1 p.2)).answer =
      .ok (t.namedPolicies.map fun p => holds p.1 p.2) := by
    rw [Reply.all_eq_ok_iff, List.forall₂_map_left_iff, List.forall₂_map_right_iff,
      List.forall₂_same]
    exact fun p _ => h p.1 p.2
  rw [checkReferences, Reply.answer_bind, hall, ok_bind, ← List.map_prod_left_eq_zip,
    List.find?_map]
  simp only [Function.comp_def]
  cases t.namedPolicies.find? fun p => !holds p.1 p.2 <;> rfl

/-- How a table is checked where the named policies are in the order of its rules text: `asked` has
each of them once, all are asked for, and the first that does not exist is the failure. -/
structure ChecksInOrder (t : RuleTable) (named asked : List (PolicyKind × Json)) : Prop where
  once : InFirstOrder named asked
  events : ∀ policyExists : PolicyKind → Json → Reply Bool,
    (t.checkReferences policyExists).events =
      asked.flatMap fun p => (policyExists p.1 p.2).events
  succeeds : ∀ (policyExists : PolicyKind → Json → Reply Bool) (holds : PolicyKind → Json → Bool),
    (∀ k i, (policyExists k i).answer = .ok (holds k i)) → (∀ p ∈ named, holds p.1 p.2 = true) →
      (t.checkReferences policyExists).answer = .ok ()
  fails : ∀ (policyExists : PolicyKind → Json → Reply Bool) (holds : PolicyKind → Json → Bool),
    (∀ k i, (policyExists k i).answer = .ok (holds k i)) →
      ∀ before p after, named = before ++ p :: after → (∀ q ∈ before, holds q.1 q.2 = true) →
        holds p.1 p.2 = false →
        (t.checkReferences policyExists).answer = .error (.refused (.policyNotFound p.1 p.2))

theorem checksInOrder (h : (t.references.map fun r => (r.kind, r.id)) = named) :
    t.ChecksInOrder named t.namedPolicies := by
  have ho : InFirstOrder named t.namedPolicies := h ▸ inFirstOrder_foldl _
  refine ⟨ho, fun _ => events_checkReferences, fun _ holds hh ha => ?_, ?_⟩
  · have hnone : t.namedPolicies.find? (fun p => !holds p.1 p.2) = none :=
      List.find?_eq_none.mpr fun p hp => by simp [ha p ((ho.mem_iff p).mp hp)]
    rw [answer_checkReferences hh, hnone]
  · intro _ holds hh before p after he hb hm
    have hfirst : t.namedPolicies.find? (fun p => !holds p.1 p.2) = some p :=
      ho.find?_eq_some he (by simp [hm]) fun q hq => by simp [hb q hq]
    rw [answer_checkReferences hh, hfirst]

end RuleTable

namespace RulesText

open Text

variable {text : Text} {t : RuleTable}

/-- A check of a table asks once for every policy that its rules text names, in the order in which
the lines name them, whatever the answers are. It succeeds when all exist; else the first in the
text that does not exist is the failure. -/
theorem references_asked_in_text_order (ht : read text = .ok t) :
    ∃ added asked, List.Forall₂ Adds (numbered 1 (lines text.toList)) added ∧
      t.ChecksInOrder (added.flatten.flatMap (·.policies)) asked := by
  obtain ⟨d, hg, ht⟩ := read_eq_ok_iff.mp ht
  obtain ⟨added, ha, hp⟩ := exists_adds hg
  have hentries : (t.rules ++ [t.fallback]).Perm added.flatten := by
    rw [Declaration.fallback_eq ht]
    exact ((Declaration.rules_perm ht).append_right _).trans hp
  refine ⟨added, t.namedPolicies, ha, RuleTable.checksInOrder ?_⟩
  rw [RuleTable.references_eq hentries (pairwise_of_adds ha), List.map_flatMap]
  simp [RuleTable.Rule.references, Function.comp_def]

def scattered : Text :=
  ("priority: last-line\n" ++ "m book: o x l a # c\n\n" ++
    "fallback-policy: l a r b n c o d i e\n" ++ "g s + m dvd: i e o x" : String)

def scatteredDeclaration : Declaration where
  rules := [
    { criteria := [⟨.materialType, [.str "book"]⟩]
      policies := [(.overdueFine, .str "x"), (.loan, .str "a")]
      line := 2 },
    { criteria := [⟨.patronGroup, [.str "s"]⟩, ⟨.materialType, [.str "dvd"]⟩]
      policies := [(.lostItemFee, .str "e"), (.overdueFine, .str "x")]
      line := 5 }]
  fallback := {
    criteria := []
    policies := [(.loan, .str "a"), (.request, .str "b"), (.notice, .str "c"),
      (.overdueFine, .str "d"), (.lostItemFee, .str "e")]
    line := 4 }
  priority := Attribute.all
  lastLineWins := true

theorem references_asked_in_text_order_of_scattered : ∃ t, read scattered = .ok t ∧
    ∃ added asked, List.Forall₂ Adds (numbered 1 (lines scattered.toList)) added ∧
      t.ChecksInOrder (added.flatten.flatMap (·.policies)) asked := by
  have hg : Draft.addLines {} 1 (lines scattered.toList) = .ok (draftOf scatteredDeclaration) := by
    decide +kernel
  have hf : scatteredDeclaration.fallback.NamesAll := by
    intro kind
    cases kind
    · exact ⟨.str "a", rfl, rfl⟩
    · exact ⟨.str "b", rfl, rfl⟩
    · exact ⟨.str "c", rfl, rfl⟩
    · exact ⟨.str "d", rfl, rfl⟩
    · exact ⟨.str "e", rfl, rfl⟩
  have ht := read_eq_ok_iff.mpr ⟨_, addLines_eq_ok_iff.mp hg,
    Declaration.table_eq_ok_iff.mpr ⟨hf, rfl⟩⟩
  exact ⟨_, ht, references_asked_in_text_order ht⟩

end RulesText

end Lending
