import Lending.Proofs.Rules.Criterion
import Lending.Proofs.Rules.Declaration
import Lending.Proofs.Rules.Specificity
import Lending.Rules.Application

/-! # Selection of rules

A table decides a request by the best of the declared rules that apply to it: the most specific one,
and of equally specific ones the one that the tie goes to. The table only sorts its rules and takes
the first that applies, so that the order of equal rules has to survive the sorting.
-/

namespace Lending

section Sorting

variable {α : Type*} {le : α → α → Bool} {p : α → Bool}

/-- What a search finds in a sorted list was there before the sorting, and stands above all else
that could be found, or stood before it. -/
theorem find?_mergeSort (trans : ∀ a b c, le a b → le b c → le a c)
    (total : ∀ a b, le a b || le b a) {l : List α} (h : ∃ x ∈ l, p x) :
    ∃ (i : ℕ) (x : α), (l.mergeSort le).find? p = some x ∧ l[i]? = some x ∧ p x ∧
      ∀ (j : ℕ) (y : α), l[j]? = some y → p y → j ≠ i → le x y ∧ (le y x → i < j) := by
  -- Elements are sorted together with their places, which makes all of them different.
  let sorted := l.zipIdx.mergeSort (List.zipIdxLE le)
  have hm : ∀ x i, (x, i) ∈ sorted ↔ l[i]? = some x := by
    intro x i
    rw [List.mem_mergeSort, List.mem_zipIdx_iff_getElem?]
  have hs : sorted.Pairwise fun a b => List.zipIdxLE le a b :=
    List.pairwise_mergeSort (List.zipIdxLE_trans trans) (List.zipIdxLE_total total) _
  obtain ⟨y, hy, hp⟩ := h
  obtain ⟨j, hj⟩ := List.mem_iff_getElem?.mp hy
  obtain ⟨⟨x, i⟩, hx⟩ : ∃ e, sorted.find? (fun e => p e.1) = some e := by
    rw [← Option.isSome_iff_exists, List.find?_isSome]
    exact ⟨(y, j), (hm y j).mpr hj, hp⟩
  obtain ⟨hpx, before, after, he, hb⟩ := List.find?_eq_some_iff_append.mp hx
  refine ⟨i, x, ?_, (hm x i).mp (List.mem_of_find?_eq_some hx), hpx, fun j y hj hy hne => ?_⟩
  · rw [← List.mergeSort_zipIdx, List.find?_map]
    exact congrArg (Option.map Prod.fst) hx
  · have hmem : (y, j) ∈ before ++ (x, i) :: after := he ▸ (hm y j).mpr hj
    have hafter : (y, j) ∈ after := by
      rcases List.mem_append.mp hmem with hin | hin
      · exact absurd hy (by simpa using hb _ hin)
      · rcases List.mem_cons.mp hin with heq | hin
        · exact absurd (congrArg Prod.snd heq) hne
        · exact hin
    rw [he, List.pairwise_append] at hs
    have hle := (List.pairwise_cons.mp hs.2.1).1 _ hafter
    simp only [List.zipIdxLE] at hle
    split at hle
    next hxy =>
      refine ⟨hxy, fun hyx => lt_of_le_of_ne ?_ (Ne.symm hne)⟩
      simpa [hyx] using hle
    next => exact absurd hle (by simp)

end Sorting

/-- Every attribute is a single value or null. -/
def MatchCriteria.IsPlain (request : MatchCriteria) : Prop :=
  ∀ a, (request.value a).isPlain = true

namespace Declaration

variable {d : Declaration} {kind : PolicyKind} {request : MatchCriteria} {i j : ℕ} {r s : Rule}
  {id id' : Json}

/-- The rule declared at a place applies to a request and names a policy of the kind for it. -/
structure Candidate (d : Declaration) (kind : PolicyKind) (request : MatchCriteria) (i : ℕ)
    (r : Rule) (id : Json) : Prop where
  declared : d.rules[i]? = some r
  holds : ∀ c ∈ r.criteria, c.HoldsFor request
  named : r.policies.idFor kind = some id
  counts : id.counts = true

/-- Of two equally specific rules the first one wins, or the last one where last lines win. -/
def Outranks (d : Declaration) (i : ℕ) (r : Rule) (j : ℕ) (s : Rule) : Prop :=
  r.MoreSpecific d.priority s ∨
    (r.EquallySpecific d.priority s ∧ if d.lastLineWins then j < i else i < j)

/-- A candidate that outranks every other. -/
structure Best (d : Declaration) (kind : PolicyKind) (request : MatchCriteria) (i : ℕ) (r : Rule)
    (id : Json) : Prop extends Candidate d kind request i r id where
  outranks : ∀ j s id', d.Candidate kind request j s id' → j ≠ i → d.Outranks i r j s

theorem candidate_iff : d.Candidate kind request i r id ↔
    d.rules[i]? = some r ∧ r.idFor kind request = some id := by
  simp only [Rule.idFor, Rule.accepts, List.all_eq_true, Criterion.accepts_iff,
    Option.ite_none_right_eq_some, Assignments.countingIdFor_eq_some_iff]
  constructor
  · rintro ⟨hd, hh, hn, hc⟩
    exact ⟨hd, hh, hn, hc⟩
  · rintro ⟨hd, hh, hn, hc⟩
    exact ⟨hd, hh, hn, hc⟩

theorem Outranks.asymm (h : d.Outranks i r j s) : ¬ d.Outranks j s i r := by
  rcases h with h | ⟨he, ht⟩ <;> rintro (h' | ⟨he', ht'⟩)
  · exact h.asymm h'
  · exact he'.symm.not_moreSpecific h
  · exact he.symm.not_moreSpecific h'
  · by_cases hl : d.lastLineWins = true
    · rw [if_pos hl] at ht ht'
      omega
    · rw [if_neg hl] at ht ht'
      omega

theorem Best.unique (h : d.Best kind request i r id) (h' : d.Best kind request j s id') :
    i = j := by
  by_contra hne
  exact (h.outranks j s id' h'.toCandidate (Ne.symm hne)).asymm
    (h'.outranks i r id h.toCandidate hne)

section Places

/-- The declared rules in the order in which ties are decided. -/
def tieOrder (d : Declaration) : List Rule := if d.lastLineWins then d.rules.reverse else d.rules

/-- The place of a declared rule in that order, and the other way round. -/
def tiePlace (d : Declaration) (i : ℕ) : ℕ :=
  if d.lastLineWins then d.rules.length - 1 - i else i

theorem length_tieOrder (d : Declaration) : d.tieOrder.length = d.rules.length := by
  unfold tieOrder
  split <;> simp

theorem tieOrder_getElem? (hi : i < d.rules.length) :
    d.tieOrder[i]? = d.rules[d.tiePlace i]? := by
  unfold tieOrder tiePlace
  split
  · exact List.getElem?_reverse hi
  · rfl

theorem tiePlace_tiePlace (hi : i < d.rules.length) : d.tiePlace (d.tiePlace i) = i := by
  unfold tiePlace
  split <;> omega

theorem tiePlace_lt (hi : i < d.rules.length) : d.tiePlace i < d.rules.length := by
  unfold tiePlace
  split <;> omega

theorem tiePlace_lt_tiePlace (hi : i < d.rules.length) (hj : j < d.rules.length) :
    d.tiePlace i < d.tiePlace j ↔ if d.lastLineWins then j < i else i < j := by
  unfold tiePlace
  split <;> omega

theorem mem_tieOrder : r ∈ d.tieOrder ↔ r ∈ d.rules := by
  unfold tieOrder
  split <;> simp

end Places

section Order

def notBelow (d : Declaration) (r s : Rule) : Bool :=
  !(r.specificity d.priority).less (s.specificity d.priority)

theorem notBelow_iff : d.notBelow r s = true ↔ ¬ s.MoreSpecific d.priority r := by
  simp [notBelow, ← Rule.less_specificity_iff]

theorem notBelow_iff_key :
    d.notBelow r s = true ↔ (s.specificity d.priority).key ≤ (r.specificity d.priority).key := by
  rw [notBelow_iff, ← Rule.less_specificity_iff, Specificity.less_iff, not_lt]

theorem notBelow_trans (d : Declaration) (q r s : Rule) (h : d.notBelow q r) (h' : d.notBelow r s) :
    d.notBelow q s :=
  notBelow_iff_key.mpr ((notBelow_iff_key.mp h').trans (notBelow_iff_key.mp h))

theorem notBelow_total (d : Declaration) (r s : Rule) : d.notBelow r s || d.notBelow s r := by
  rw [Bool.or_eq_true, notBelow_iff_key, notBelow_iff_key]
  exact le_total _ _

theorem order_eq (d : Declaration) :
    RuleTable.order d.rules d.priority d.lastLineWins = d.tieOrder.mergeSort d.notBelow := rfl

end Order

theorem exists_best_of_candidate {t : RuleTable} (ht : d.table = .ok t)
    (h : d.Candidate kind request i r id) :
    ∃ i r id, d.Best kind request i r id ∧
      t.rules.find? (fun r => (r.idFor kind request).isSome) = some r := by
  obtain ⟨-, rfl⟩ := table_eq_ok_iff.mp ht
  obtain ⟨hr, hid⟩ := candidate_iff.mp h
  have hex : ∃ r ∈ d.tieOrder, (r.idFor kind request).isSome :=
    ⟨r, mem_tieOrder.mpr (List.mem_of_getElem? hr), Option.isSome_iff_exists.mpr ⟨id, hid⟩⟩
  obtain ⟨k, q, hf, hk, hq, hb⟩ := find?_mergeSort d.notBelow_trans d.notBelow_total hex
  rw [← order_eq] at hf
  obtain ⟨qid, hqid⟩ := Option.isSome_iff_exists.mp hq
  have hkl : k < d.rules.length := d.length_tieOrder ▸ (List.getElem?_eq_some_iff.mp hk).1
  rw [tieOrder_getElem? hkl] at hk
  refine ⟨d.tiePlace k, q, qid, ⟨candidate_iff.mpr ⟨hk, hqid⟩, fun j s sid hs hne => ?_⟩, hf⟩
  obtain ⟨hs, hsid⟩ := candidate_iff.mp hs
  have hj : j < d.rules.length := (List.getElem?_eq_some_iff.mp hs).1
  have hplace : d.tieOrder[d.tiePlace j]? = some s := by
    rw [tieOrder_getElem? (tiePlace_lt hj), tiePlace_tiePlace hj, hs]
  have hjk : d.tiePlace j ≠ k := by
    rintro rfl
    exact hne (tiePlace_tiePlace hj).symm
  obtain ⟨hns, htie⟩ := hb _ s hplace (Option.isSome_iff_exists.mpr ⟨sid, hsid⟩) hjk
  rw [notBelow_iff] at hns htie
  rcases Rule.moreSpecific_trichotomy d.priority q s with hm | he | hm
  · exact .inl hm
  · refine .inr ⟨he, ?_⟩
    rw [← tiePlace_lt_tiePlace (tiePlace_lt hkl) hj, tiePlace_tiePlace hkl]
    exact htie he.not_moreSpecific
  · exact absurd hm hns

theorem apply_of_best {t : RuleTable} (ht : d.table = .ok t)
    (h : d.Best kind request i r id) :
    t.apply kind request = {
      kind
      policyId := id
      conditions := (r.criteria.filter (!·.isWildcard)).map fun c => .str c.subject.label } := by
  obtain ⟨j, s, sid, hs, hf⟩ := exists_best_of_candidate ht h.toCandidate
  obtain rfl := h.unique hs
  obtain rfl : r = s := Option.some.inj (h.declared.symm.trans hs.declared)
  have hid : r.idFor kind request = some id := (candidate_iff.mp h.toCandidate).2
  simp [RuleTable.apply, hf, hid, Rule.conditions, Rule.explicit]

theorem apply_of_no_candidate {t : RuleTable} (ht : d.table = .ok t)
    (h : ∀ i r id, ¬ d.Candidate kind request i r id) :
    ∃ id, d.fallback.policies.idFor kind = some id ∧ id.counts = true ∧
      t.apply kind request = { kind, policyId := id, conditions := [] } := by
  have hf : t.rules.find? (fun r => (r.idFor kind request).isSome) = none := by
    rw [List.find?_eq_none]
    intro r hr hs
    obtain ⟨i, hi⟩ := List.mem_iff_getElem?.mp ((rules_perm ht).mem_iff.mp hr)
    obtain ⟨id, hid⟩ := Option.isSome_iff_exists.mp hs
    exact h i r id (candidate_iff.mpr ⟨hi, hid⟩)
  obtain ⟨id, hid, hc⟩ := (table_eq_ok_iff.mp ht).1 kind
  exact ⟨id, hid, hc, by simp [RuleTable.apply, hf, fallback_eq ht, hid]⟩

theorem counts_policyId_apply {t : RuleTable} (ht : d.table = .ok t) (kind : PolicyKind)
    (request : MatchCriteria) : (t.apply kind request).policyId.counts = true := by
  by_cases h : ∃ i r id, d.Candidate kind request i r id
  · obtain ⟨i, r, id, h⟩ := h
    obtain ⟨j, s, sid, hs, -⟩ := exists_best_of_candidate ht h
    rw [apply_of_best ht hs]
    exact hs.counts
  · simp only [not_exists] at h
    obtain ⟨id, -, hc, he⟩ := apply_of_no_candidate ht h
    rw [he]
    exact hc

end Declaration

section Plain

variable {request : MatchCriteria}

theorem criteriaStop_eq_false (h : request.IsPlain) (cs : List Criterion) :
    Rule.criteriaStop request cs = false := by
  induction cs with
  | nil => rfl
  | cons c cs ih => simp [Rule.criteriaStop, Criterion.stops, h c.subject, ih]

theorem rulesStop_eq_false (h : request.IsPlain) (kind : PolicyKind) (rs : List Rule) :
    RuleTable.rulesStop kind request rs = false := by
  induction rs with
  | nil => rfl
  | cons r rs ih => simp [RuleTable.rulesStop, Rule.stops, criteriaStop_eq_false h, ih]

theorem applyTo_of_plain (h : request.IsPlain) (t : RuleTable) (kind : PolicyKind) :
    t.applyTo kind request = .ok (t.apply kind request) := by
  simp [RuleTable.applyTo, rulesStop_eq_false h]

theorem applyAllTo_of_plain (h : request.IsPlain) (t : RuleTable) :
    t.applyAllTo request = .ok (t.applyAll request) := by
  simp [RuleTable.applyAllTo, rulesStop_eq_false h]

end Plain

/-- A declaration whose fallback names every kind has a table, and for every kind of policy and
every request the table's answer is that of the only best candidate, with the labels of its criteria
that are no wildcards, or the fallback's where there is no candidate. -/
theorem table_selects_best (d : Declaration) (hf : d.fallback.NamesAll) :
    ∃ t, d.table = .ok t ∧
      (∀ kind request,
        ((∃ i r id, d.Candidate kind request i r id) → ∃! i, ∃ r id, d.Best kind request i r id) ∧
        (∀ i r id, d.Best kind request i r id → t.apply kind request = {
          kind
          policyId := id
          conditions := (r.criteria.filter (!·.isWildcard)).map fun c => .str c.subject.label }) ∧
        ((∀ i r id, ¬ d.Candidate kind request i r id) →
          ∃ id, d.fallback.policies.idFor kind = some id ∧
            t.apply kind request = { kind, policyId := id, conditions := [] })) ∧
      ∀ request,
        (t.applyAll request).map (·.kind) = PolicyKind.all ∧
        (∀ a ∈ t.applyAll request, a.policyId.counts = true) ∧
        (request.IsPlain → t.applyAllTo request = .ok (t.applyAll request) ∧
          ∀ kind, t.applyTo kind request = .ok (t.apply kind request)) := by
  obtain ⟨t, ht⟩ : ∃ t, d.table = .ok t := ⟨_, Declaration.table_eq_ok_iff.mpr ⟨hf, rfl⟩⟩
  refine ⟨t, ht, fun kind request => ⟨?_, fun _ _ _ => Declaration.apply_of_best ht, ?_⟩,
    fun request => ⟨?_, ?_, ?_⟩⟩
  · rintro ⟨i, r, id, h⟩
    obtain ⟨j, s, sid, hs, -⟩ := Declaration.exists_best_of_candidate ht h
    refine ⟨j, ⟨s, sid, hs⟩, ?_⟩
    rintro k ⟨q, qid, hq⟩
    exact hq.unique hs
  · intro h
    obtain ⟨id, hid, -, he⟩ := Declaration.apply_of_no_candidate ht h
    exact ⟨id, hid, he⟩
  · have hk : ∀ kind, (t.apply kind request).kind = kind := by
      intro kind
      unfold RuleTable.apply
      split <;> rfl
    simp [RuleTable.applyAll, Function.comp_def, hk]
  · simp only [RuleTable.applyAll, List.forall_mem_map]
    exact fun kind _ => Declaration.counts_policyId_apply ht kind request
  · exact fun h => ⟨applyAllTo_of_plain h t, applyTo_of_plain h t⟩

/-- Two rules for books, of which neither is more specific, and a rule that is more specific but for
the books of scholars only; the last line wins. -/
def Declaration.tied : Declaration where
  rules := [
    { criteria := [⟨.materialType, [.str "book"]⟩], policies := [(.loan, .str "week")], line := 3 },
    { criteria := [⟨.materialType, [.str "dvd", .str "book"]⟩, ⟨.patronGroup, [.str "all"]⟩]
      policies := [(.loan, .str "month")]
      line := 4 },
    { criteria := [⟨.materialType, [.str "book"]⟩, ⟨.patronGroup, [.str "scholar"]⟩]
      policies := [(.loan, .str "year")]
      line := 5 }]
  fallback := {
    criteria := []
    policies := PolicyKind.all.map fun kind => (kind, .str "none")
    line := 2 }
  priority := Attribute.all
  lastLineWins := true

theorem table_selects_best_of_tied : Declaration.tied.fallback.NamesAll ∧
    ∃ t, Declaration.tied.table = .ok t ∧
      t.apply .loan { materialType := .str "book", patronGroup := .str "student" } =
        { kind := .loan, policyId := .str "month", conditions := [.str "material-type"] } := by
  have hf : Declaration.tied.fallback.NamesAll := by
    intro kind
    exact ⟨.str "none", by cases kind <;> decide, by decide⟩
  obtain ⟨t, ht, h, -⟩ := table_selects_best Declaration.tied hf
  refine ⟨hf, t, ht, (h .loan _).2.1 1 _ _ ⟨⟨rfl, ?_, rfl, ?_⟩, ?_⟩⟩
  · decide
  · decide
  · rintro (_ | _ | _ | j) s id hs hne
    · obtain rfl := Option.some.inj hs.declared
      exact .inr ⟨by decide, by decide⟩
    · exact absurd rfl hne
    · obtain rfl := Option.some.inj hs.declared
      exact absurd hs.holds (by decide)
    · exact absurd hs.declared (by simp [Declaration.tied])

end Lending
