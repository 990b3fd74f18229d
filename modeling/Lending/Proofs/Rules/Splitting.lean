import Lending.Proofs.Rules.Meaning
import Lending.Proofs.Rules.Selection
import Mathlib.Data.List.Sort
import Mathlib.Logic.Relation

/-! # Splitting of rules

A rule may be written as two, each with some of its policies or each with some of the values of one
criterion. The two are as specific as the rule, so that sorting keeps them side by side in its
place, and a search that comes to them finds what it would have found in the rule.
-/

namespace Lending

section Lists

variable {α β : Type*} {le : α → α → Bool} {w x y z : α} {l l' m : List α}

/-- The second list is the first with `y` and `z` in the place of an `x`. -/
inductive Doubles (x y z : α) : List α → List α → Prop where
  | here (l : List α) : Doubles x y z (x :: l) (y :: z :: l)
  | there (w : α) {l l' : List α} : Doubles x y z l l' → Doubles x y z (w :: l) (w :: l')

/-- No comparison tells the two elements apart. -/
def Alike (le : α → α → Bool) (x y : α) : Prop := ∀ w, le w x = le w y ∧ le x w = le y w

theorem doubles_append_cons (l m : List α) : Doubles x y z (l ++ x :: m) (l ++ y :: z :: m) := by
  induction l with
  | nil => exact .here m
  | cons w l ih => exact .there w ih

theorem Doubles.append_right (h : Doubles x y z l l') (m : List α) :
    Doubles x y z (l ++ m) (l' ++ m) := by
  induction h with
  | here l => exact .here (l ++ m)
  | there w _ ih => exact .there w ih

theorem Doubles.reverse (h : Doubles x y z l l') : Doubles x z y l.reverse l'.reverse := by
  induction h with
  | here l =>
    rw [List.reverse_cons, List.reverse_cons, List.reverse_cons, List.append_assoc]
    exact doubles_append_cons l.reverse []
  | there w _ ih =>
    rw [List.reverse_cons, List.reverse_cons]
    exact ih.append_right [w]

theorem Doubles.findSome?_eq {f : α → Option β} (h : Doubles x y z l l')
    (hf : f x = (f y).or (f z)) : l.findSome? f = l'.findSome? f := by
  induction h with
  | here l => cases hy : f y <;> simp [List.findSome?_cons, hf, hy]
  | there w _ ih => simp [List.findSome?_cons, ih]

section Sorting

theorem mergeSort_cons_eq_orderedInsert (trans : ∀ a b c, le a b → le b c → le a c)
    (total : ∀ a b, le a b || le b a) (x : α) (l : List α) :
    (x :: l).mergeSort le = (l.mergeSort le).orderedInsert (le · · = true) x := by
  obtain ⟨before, after, hx, hl, hb⟩ := List.mergeSort_cons trans total x l
  have hs := List.pairwise_mergeSort trans total (x :: l)
  rw [hx] at hs
  rw [hx, hl]
  clear hx hl
  induction before with
  | nil =>
    cases after with
    | nil => rfl
    | cons y after =>
      have hy : le x y = true := (List.pairwise_cons.mp hs).1 y (by simp)
      simp [hy]
  | cons y before ih =>
    obtain ⟨hy, hb⟩ := List.forall_mem_cons.mp hb
    have hy : ¬ le x y = true := by simpa using hy
    simpa [hy] using ih hb (List.pairwise_cons.mp hs).2

theorem Doubles.orderedInsert (hy : Alike le x y) (hz : Alike le x z) (h : Doubles x y z l l')
    (w : α) :
    Doubles x y z (l.orderedInsert (le · · = true) w) (l'.orderedInsert (le · · = true) w) := by
  induction h with
  | here l =>
    simp only [List.orderedInsert_cons, ← (hy w).1, ← (hz w).1]
    split
    · exact .there w (.here l)
    · exact .here _
  | there v h ih =>
    simp only [List.orderedInsert_cons]
    split
    · exact .there w (.there v h)
    · exact .there v ih

theorem doubles_orderedInsert (hy : Alike le x y) (hz : Alike le x z) (hx : le x x = true)
    (l : List α) :
    Doubles x y z (l.orderedInsert (le · · = true) x)
      ((l.orderedInsert (le · · = true) z).orderedInsert (le · · = true) y) := by
  have hyz : le y z = true := by rw [← (hy z).2, ← (hz x).1, hx]
  induction l with
  | nil =>
    simp only [List.orderedInsert_nil, List.orderedInsert_cons, hyz, if_true]
    exact .here []
  | cons w l ih =>
    simp only [List.orderedInsert_cons, ← (hz w).2]
    split
    next => simpa [hyz] using Doubles.here (w :: l)
    next hw => simpa [← (hy w).2, hw] using Doubles.there w ih

/-- Sorting keeps elements side by side that no comparison tells apart. -/
theorem Doubles.mergeSort (trans : ∀ a b c, le a b → le b c → le a c)
    (total : ∀ a b, le a b || le b a) (hy : Alike le x y) (hz : Alike le x z)
    (h : Doubles x y z l l') : Doubles x y z (l.mergeSort le) (l'.mergeSort le) := by
  have hx : le x x = true := by simpa using total x x
  induction h with
  | here l =>
    simp only [mergeSort_cons_eq_orderedInsert trans total]
    exact doubles_orderedInsert hy hz hx _
  | there w _ ih =>
    simp only [mergeSort_cons_eq_orderedInsert trans total]
    exact ih.orderedInsert hy hz w

end Sorting

end Lists

namespace Rule

variable {r s t : Rule} {request : MatchCriteria}

/-- A rule, and two rules that it may be written as, whatever their lines. Either the policy of each
kind goes to one of them, or each value of one criterion that lists no wildcard goes to one of them
at least. -/
inductive SplitsInto : Rule → Rule → Rule → Prop where
  | policies {criteria : List Criterion} {whole first second : Assignments}
      {line line' line'' : Int} :
      (∀ kind, (first.idFor kind = whole.idFor kind ∧ second.idFor kind = none) ∨
        (first.idFor kind = none ∧ second.idFor kind = whole.idFor kind)) →
      SplitsInto { criteria, policies := whole, line }
        { criteria, policies := first, line := line' }
        { criteria, policies := second, line := line'' }
  | values (before : List Criterion) {after : List Criterion} {subject : Attribute}
      {whole first second : List Json} {policies : Assignments} {line line' line'' : Int} :
      .str "all" ∉ whole → .str "*" ∉ whole → (∀ v, v ∈ whole ↔ v ∈ first ∨ v ∈ second) →
      SplitsInto { criteria := before ++ ⟨subject, whole⟩ :: after, policies, line }
        { criteria := before ++ ⟨subject, first⟩ :: after, policies, line := line' }
        { criteria := before ++ ⟨subject, second⟩ :: after, policies, line := line'' }

theorem SplitsInto.symm (h : r.SplitsInto s t) : r.SplitsInto t s := by
  cases h with
  | policies h => exact .policies fun kind => ((h kind).imp And.symm And.symm).symm
  | values before ha hs h => exact .values before ha hs fun v => (h v).trans or_comm

theorem isWildcard_eq_false {c : Criterion} (ha : .str "all" ∉ c.values)
    (hs : .str "*" ∉ c.values) : c.isWildcard = false := by
  rw [← Bool.not_eq_true, Criterion.isWildcard_iff, not_or]
  exact ⟨ha, hs⟩

section Values

variable {whole first second : List Json}

theorem isWildcard_of_union (subject : Attribute) (ha : .str "all" ∉ whole)
    (hs : .str "*" ∉ whole) (h : ∀ v, v ∈ whole ↔ v ∈ first ∨ v ∈ second) :
    (⟨subject, whole⟩ : Criterion).isWildcard = false ∧
      (⟨subject, first⟩ : Criterion).isWildcard = false ∧
      (⟨subject, second⟩ : Criterion).isWildcard = false := by
  simp only [h, not_or] at ha hs
  refine ⟨isWildcard_eq_false ?_ ?_, isWildcard_eq_false ha.1 hs.1, isWildcard_eq_false ha.2 hs.2⟩
  · simpa [h] using ha
  · simpa [h] using hs

theorem accepts_of_union (subject : Attribute) (ha : .str "all" ∉ whole)
    (hs : .str "*" ∉ whole) (h : ∀ v, v ∈ whole ↔ v ∈ first ∨ v ∈ second)
    (request : MatchCriteria) :
    (⟨subject, whole⟩ : Criterion).accepts request =
      ((⟨subject, first⟩ : Criterion).accepts request ||
        (⟨subject, second⟩ : Criterion).accepts request) := by
  obtain ⟨hw, hf, hs⟩ := isWildcard_of_union subject ha hs h
  rw [Bool.eq_iff_iff]
  simp [Criterion.accepts, Criterion.lists, hw, hf, hs, h, or_and_right, exists_or]

end Values

theorem SplitsInto.subjects_eq (h : r.SplitsInto s t) :
    s.explicit.map (·.subject) = r.explicit.map (·.subject) := by
  cases h with
  | policies => rfl
  | @values _ _ subject _ _ _ _ _ _ _ ha hs h =>
    obtain ⟨hw, hf, -⟩ := isWildcard_of_union subject ha hs h
    simp [explicit, hw, hf]

theorem SplitsInto.specificity_eq (h : r.SplitsInto s t) (priority : List Attribute) :
    s.specificity priority = r.specificity priority := by
  have hr : s.restricts = r.restricts := by
    funext a
    have hm (r : Rule) : r.restricts a = (r.explicit.map (·.subject)).any (· == a) := by
      simp [restricts, Function.comp_def]
    rw [hm, h.subjects_eq, ← hm]
  rw [specificity, hr, specificity]

theorem SplitsInto.conditions_eq (h : r.SplitsInto s t) : s.conditions = r.conditions := by
  have hm (r : Rule) : r.conditions = (r.explicit.map (·.subject)).map (·.label) := by
    simp [conditions]
  rw [hm, h.subjects_eq, ← hm]

theorem SplitsInto.idFor_eq (h : r.SplitsInto s t) (kind : PolicyKind) (request : MatchCriteria) :
    r.idFor kind request = (s.idFor kind request).or (t.idFor kind request) := by
  cases h with
  | policies h =>
    obtain ⟨hf, hs⟩ | ⟨hf, hs⟩ := h kind
    · simp [idFor, accepts, Assignments.countingIdFor, hf, hs]
    · simp [idFor, accepts, Assignments.countingIdFor, hf, hs]
  | @values before _ subject _ _ _ _ _ _ _ ha hs h =>
    simp only [idFor, accepts, List.all_append, List.all_cons, accepts_of_union subject ha hs h]
    generalize Assignments.countingIdFor _ kind = id
    generalize before.all _ = b
    cases b <;> grind

theorem criteriaStop_append (request : MatchCriteria) (cs ds : List Criterion) :
    criteriaStop request (cs ++ ds) =
      (criteriaStop request cs || (cs.all (·.accepts request) && criteriaStop request ds)) := by
  induction cs with
  | nil => rfl
  | cons c cs ih => simp [criteriaStop, ih, Bool.and_or_distrib_left, Bool.or_assoc, Bool.and_assoc]

theorem SplitsInto.stops_eq (h : r.SplitsInto s t) (kind : PolicyKind) (request : MatchCriteria) :
    r.stops kind request =
      (s.stops kind request || ((s.idFor kind request).isNone && t.stops kind request)) := by
  cases h with
  | policies h =>
    obtain ⟨hf, hs⟩ | ⟨hf, hs⟩ := h kind
    · simp [stops, Assignments.countingIdFor, hf, hs]
    · simp [stops, idFor, Assignments.countingIdFor, hf, hs]
  | @values before after subject _ first _ policies _ _ _ ha hs h =>
    obtain ⟨hw, hf, hs'⟩ := isWildcard_of_union subject ha hs h
    simp only [stops, idFor, accepts, criteriaStop_append, criteriaStop, Criterion.stops,
      List.all_append, List.all_cons, accepts_of_union subject ha hs h, hw, hf, hs']
    cases policies.countingIdFor kind with
    | none => simp
    | some id =>
      generalize criteriaStop request before = stopped
      generalize before.all _ = reached
      cases (⟨subject, first⟩ : Criterion).accepts request with
      | true => cases stopped <;> cases reached <;> grind
      | false => cases stopped <;> cases reached <;> simp

def answer? (r : Rule) (kind : PolicyKind) (request : MatchCriteria) : Option AppliedRule :=
  (r.idFor kind request).map fun id =>
    { kind, policyId := id, conditions := r.conditions.map fun label => .str (.ofString label) }

theorem SplitsInto.answer?_eq (h : r.SplitsInto s t) (kind : PolicyKind)
    (request : MatchCriteria) :
    r.answer? kind request = (s.answer? kind request).or (t.answer? kind request) := by
  simp only [answer?, h.idFor_eq, h.conditions_eq, h.symm.conditions_eq]
  cases s.idFor kind request <;> rfl

end Rule

namespace RuleTable

variable {t u : RuleTable} {r a b : Rule} {rules rules' : List Rule}

theorem apply_eq_getD (t : RuleTable) (kind : PolicyKind) (request : MatchCriteria) :
    t.apply kind request = (t.rules.findSome? (·.answer? kind request)).getD
      { kind, policyId := (t.fallback.policies.idFor kind).getD .null, conditions := [] } := by
  unfold apply
  induction t.rules with
  | nil => rfl
  | cons r rules ih =>
    cases h : r.idFor kind request <;> simp [Rule.answer?, h, ih]

theorem apply_of_doubles (h : r.SplitsInto a b) (hd : Doubles r a b t.rules u.rules)
    (hf : t.fallback = u.fallback) (kind : PolicyKind) (request : MatchCriteria) :
    t.apply kind request = u.apply kind request := by
  rw [apply_eq_getD, apply_eq_getD, hd.findSome?_eq (h.answer?_eq kind request), hf]

theorem rulesStop_of_doubles (h : r.SplitsInto a b) (hd : Doubles r a b rules rules')
    (kind : PolicyKind) (request : MatchCriteria) :
    rulesStop kind request rules = rulesStop kind request rules' := by
  induction hd with
  | here rules =>
    simp only [rulesStop, h.stops_eq, h.idFor_eq]
    cases a.idFor kind request <;> simp [Bool.or_assoc]
  | there q _ ih => rw [rulesStop, ih, rulesStop]

theorem applyTo_of_doubles (h : r.SplitsInto a b) (hd : Doubles r a b t.rules u.rules)
    (hf : t.fallback = u.fallback) : t.applyTo = u.applyTo ∧ t.applyAllTo = u.applyAllTo := by
  have ha : t.apply = u.apply := funext₂ (apply_of_doubles h hd hf)
  have hs : ∀ kind request, rulesStop kind request t.rules = rulesStop kind request u.rules :=
    rulesStop_of_doubles h hd
  constructor
  · funext kind request
    rw [applyTo, hs, ha, applyTo]
  · funext request
    simp only [applyAllTo, applyAll, hs, ha]

end RuleTable

namespace Declaration

variable {d d' : Declaration}

/-- A declaration, and the same declaration with two adjacent rules in the place of one that they
are the halves of. -/
inductive Splits : Declaration → Declaration → Prop where
  | mk (before : List Rule) {after : List Rule} {r a b fallback : Rule} {priority : List Attribute}
      {lastLineWins : Bool} : r.SplitsInto a b →
      Splits { rules := before ++ r :: after, fallback, priority, lastLineWins }
        { rules := before ++ a :: b :: after, fallback, priority, lastLineWins }

theorem alike_of_specificity (d : Declaration) {r s : Rule}
    (h : s.specificity d.priority = r.specificity d.priority) : Alike d.notBelow r s := by
  intro q
  simp only [notBelow, h, and_self]

/-- Sorting leaves the halves of a rule in its place, the second of them first where the last line
wins. -/
theorem Splits.exists_doubles (h : d.Splits d') : ∃ r a b, r.SplitsInto a b ∧
    Doubles r a b (RuleTable.order d.rules d.priority d.lastLineWins)
      (RuleTable.order d'.rules d'.priority d'.lastLineWins) := by
  cases h with
  | @mk before after r a b fallback priority last h =>
    let d : Declaration := { rules := [], fallback, priority, lastLineWins := last }
    have ha : Alike d.notBelow r a := d.alike_of_specificity (h.specificity_eq priority)
    have hb : Alike d.notBelow r b := d.alike_of_specificity (h.symm.specificity_eq priority)
    have hd := doubles_append_cons (x := r) (y := a) (z := b) before after
    cases last with
    | false =>
      exact ⟨r, a, b, h, hd.mergeSort d.notBelow_trans d.notBelow_total ha hb⟩
    | true =>
      exact ⟨r, b, a, h.symm, hd.reverse.mergeSort d.notBelow_trans d.notBelow_total hb ha⟩

theorem Splits.map_table_eq {α : Type} {f : RuleTable → α} (h : d.Splits d')
    (hf : ∀ (t u : RuleTable) (r a b : Rule), r.SplitsInto a b → Doubles r a b t.rules u.rules →
      t.fallback = u.fallback → f t = f u) : d.table.map f = d'.table.map f := by
  obtain ⟨r, a, b, hs, hd⟩ := h.exists_doubles
  have hfb : d'.fallback = d.fallback := by cases h; rfl
  unfold table RuleTable.make
  rw [hfb]
  split
  · rfl
  · exact congrArg Except.ok (hf _ _ r a b hs hd rfl)

/-- A rule may be written as two, and two as one, any number of times: the table decides the same,
or there is none for the same reason. -/
theorem splitting_decides_nothing (h : Relation.EqvGen Splits d d') :
    d.table.map RuleTable.applyTo = d'.table.map RuleTable.applyTo ∧
      d.table.map RuleTable.applyAllTo = d'.table.map RuleTable.applyAllTo := by
  induction h with
  | rel d d' h =>
    exact ⟨h.map_table_eq fun _ _ _ _ _ hs hd hf => (RuleTable.applyTo_of_doubles hs hd hf).1,
      h.map_table_eq fun _ _ _ _ _ hs hd hf => (RuleTable.applyTo_of_doubles hs hd hf).2⟩
  | refl d => exact ⟨rfl, rfl⟩
  | symm _ _ _ ih => exact ⟨ih.1.symm, ih.2.symm⟩
  | trans _ _ _ _ _ ih ih' => exact ⟨ih.1.trans ih'.1, ih.2.trans ih'.2⟩

def booksAndRecords : Declaration where
  rules := [
    { criteria := [⟨.materialType, [.str "book", .str "record"]⟩, ⟨.library, [.str "all"]⟩]
      policies := [(.loan, .str "week"), (.notice, .str "mail")]
      line := 3 },
    { criteria := [⟨.patronGroup, [.str "staff"]⟩]
      policies := [(.loan, .str "month")]
      line := 6 }]
  fallback := {
    criteria := []
    policies := PolicyKind.all.map fun kind => (kind, .str "none")
    line := 2 }
  priority := Attribute.all
  lastLineWins := true

def booksThenRecords : Declaration where
  rules := [
    { criteria := [⟨.materialType, [.str "book"]⟩, ⟨.library, [.str "all"]⟩]
      policies := [(.loan, .str "week"), (.notice, .str "mail")]
      line := 3 },
    { criteria := [⟨.materialType, [.str "record"]⟩, ⟨.library, [.str "all"]⟩]
      policies := [(.notice, .str "mail")]
      line := 4 },
    { criteria := [⟨.materialType, [.str "record"]⟩, ⟨.library, [.str "all"]⟩]
      policies := [(.loan, .str "week")]
      line := 5 },
    { criteria := [⟨.patronGroup, [.str "staff"]⟩]
      policies := [(.loan, .str "month")]
      line := 6 }]
  fallback := booksAndRecords.fallback
  priority := Attribute.all
  lastLineWins := true

theorem splitting_decides_nothing_of_books :
    Relation.EqvGen Splits booksAndRecords booksThenRecords ∧
      booksAndRecords.table.map RuleTable.applyTo =
        booksThenRecords.table.map RuleTable.applyTo := by
  let records : Rule := {
    criteria := [⟨.materialType, [.str "record"]⟩, ⟨.library, [.str "all"]⟩]
    policies := [(.loan, .str "week"), (.notice, .str "mail")]
    line := 4 }
  let between : Declaration :=
    { booksAndRecords with
      rules := booksThenRecords.rules.take 1 ++ records :: booksAndRecords.rules.drop 1 }
  have hvalues : booksAndRecords.Splits between :=
    .mk [] (.values [] (by decide) (by decide) fun v => by simp)
  have hpolicies : between.Splits booksThenRecords :=
    .mk (booksThenRecords.rules.take 1) (.policies fun kind => by cases kind <;> decide)
  have h : Relation.EqvGen Splits booksAndRecords booksThenRecords :=
    .trans _ _ _ (.rel _ _ hvalues) (.rel _ _ hpolicies)
  exact ⟨h, (splitting_decides_nothing h).1⟩

end Declaration

end Lending
