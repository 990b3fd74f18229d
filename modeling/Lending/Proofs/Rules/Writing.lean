import Lending.Proofs.Rules.Acceptance

/-! # Writing rules texts

A declaration is written as a priority line, a fallback line and a line for every rule. Where its
values and ids can stand in such lines, the parts of a written line say what they were written from.
-/

namespace Lending.RulesText

open Text

section Writing

def spelled : Json → List CodePoint
  | .str t => t.toList
  | _ => []

def writeCriterion (c : Criterion) : List CodePoint :=
  .char c.subject.letter :: .char ' ' ::
    [.char ',', .char ' '].intercalate (c.values.map spelled)

def assignmentWords (a : Assignments) : List (List CodePoint) :=
  a.flatMap fun p => [[.char p.1.letter], spelled p.2]

def writeAssignments (a : Assignments) : List CodePoint :=
  [.char ' '].intercalate (assignmentWords a)

def writeCriteria (cs : List Criterion) : List CodePoint :=
  [.char ' ', .char '+', .char ' '].intercalate (cs.map writeCriterion)

def writeRule (r : Rule) : List CodePoint :=
  writeCriteria r.criteria ++ .char ':' :: .char ' ' :: writeAssignments r.policies

def writeFallback (r : Rule) : List CodePoint :=
  fallbackStart ++ .char ' ' :: writeAssignments r.policies

def priorityWords (order : List Attribute) (lastLineWins : Bool) : List (List CodePoint) :=
  (if lastLineWins then [(Keyword.lastLine.text : Text).toList] else []) ++
    order.map fun a => [.char a.letter]

def writePriority (order : List Attribute) (lastLineWins : Bool) : List CodePoint :=
  priorityStart ++ .char ' ' ::
    [.char ',', .char ' '].intercalate (priorityWords order lastLineWins)

def writtenLines (d : Declaration) : List (List CodePoint) :=
  writePriority d.priority d.lastLineWins :: writeFallback d.fallback :: d.rules.map writeRule

def write (d : Declaration) : Text :=
  .ofList ((writtenLines d).flatMap (· ++ [.char '\n']))

def numberedRules (k : ℕ) (rs : List Rule) : List Rule :=
  (rs.zipIdx k).map fun p => { p.1 with line := p.2 }

/-- A declaration with the numbers of its lines in its rules text. -/
def numberedAsWritten (d : Declaration) : Declaration :=
  { d with
    rules := numberedRules 3 d.rules
    fallback := { d.fallback with line := 2 } }

end Writing

section Writable

/-- A text without gaps, separators and marks of a rule line. -/
def IsValue (v : Json) : Prop :=
  v = .str (.ofList (spelled v)) ∧ spelled v ≠ [] ∧
    ∀ x ∈ spelled v, isSeparator x = false ∧ x ∉ [.char '+', .char ':', .char '#']

/-- A text without gaps and comments that is no letter of a kind. -/
def IsId (id : Json) : Prop :=
  id = .str (.ofList (spelled id)) ∧ spelled id ≠ [] ∧
    (∀ x ∈ spelled id, isGap x = false ∧ x ≠ .char '#') ∧
    ∀ kind ∈ PolicyKind.all, spelled id ≠ [.char kind.letter]

instance : DecidablePred IsValue := fun _ => inferInstanceAs (Decidable (_ ∧ _))

instance : DecidablePred IsId := fun _ => inferInstanceAs (Decidable (_ ∧ _))

structure WritableAssignments (a : Assignments) : Prop where
  distinct : (a.map Prod.fst).Nodup
  ids : ∀ p ∈ a, IsId p.2

structure WritableRule (r : Rule) : Prop where
  criteria : r.criteria ≠ []
  values : ∀ c ∈ r.criteria, c.values ≠ [] ∧ ∀ v ∈ c.values, IsValue v
  policies : r.policies ≠ []
  assignments : WritableAssignments r.policies

structure Writable (d : Declaration) : Prop where
  priority : d.priority.Perm Attribute.all
  unrestricted : d.fallback.criteria = []
  complete : ∀ kind, kind ∈ d.fallback.policies.map Prod.fst
  fallback : WritableAssignments d.fallback.policies
  rules : ∀ r ∈ d.rules, WritableRule r

end Writable

section Parts

variable {a : Assignments} {c : Criterion} {cs : List Criterion} {x : CodePoint}

theorem isGap_of_isSeparator_eq_false (h : isSeparator x = false) : isGap x = false := by
  simp only [isSeparator, Bool.or_eq_false_iff] at h
  exact h.1.1.1

theorem pairs_assignmentWords (h : ∀ p ∈ a, IsId p.2) : Pairs (assignmentWords a) a := by
  induction a with
  | nil => exact .nil
  | cons p a ih =>
    obtain ⟨⟨he, -, -, hk⟩, hs⟩ := List.forall_mem_cons.mp h
    have hp : p = (p.1, .str (.ofList (spelled p.2))) := Prod.ext rfl he
    rw [hp]
    exact .cons (fun kind => hk kind (PolicyKind.mem_all kind)) (ih hs)

theorem isWord_of_mem_assignmentWords (h : ∀ p ∈ a, IsId p.2) {w : List CodePoint}
    (hw : w ∈ assignmentWords a) : w ≠ [] ∧ ∀ x ∈ w, isGap x = false ∧ x ≠ .char '#' := by
  obtain ⟨p, hp, hw⟩ := List.mem_flatMap.mp hw
  obtain ⟨-, hn, hg, -⟩ := h p hp
  obtain rfl | rfl : w = [.char p.1.letter] ∨ w = spelled p.2 := by simpa using hw
  · cases p.1 <;> decide
  · exact ⟨hn, hg⟩

theorem tokens_writeAssignments (h : ∀ p ∈ a, IsId p.2) :
    tokens isGap (.char ' ' :: writeAssignments a) = assignmentWords a := by
  rw [← words_eq_tokens, words_gap_cons (by decide), writeAssignments]
  refine words_intercalate (by simp) (by decide) fun w hw => ?_
  obtain ⟨hn, hg⟩ := isWord_of_mem_assignmentWords h hw
  exact ⟨hn, fun x hx => (hg x hx).1⟩

theorem assigns_writeAssignments (h : WritableAssignments a) :
    Assigns (.char ' ' :: writeAssignments a) a := by
  rw [Assigns, tokens_writeAssignments h.ids]
  exact ⟨pairs_assignmentWords h.ids, h.distinct⟩

theorem words_writeCriterion (hv : ∀ v ∈ c.values, IsValue v) :
    words isSeparator (writeCriterion c) = [.char c.subject.letter] :: c.values.map spelled := by
  have hl : ∀ x ∈ [CodePoint.char c.subject.letter], isSeparator x = false := by
    cases c.subject <;> decide
  have hw : words isSeparator ([.char ',', .char ' '].intercalate (c.values.map spelled)) =
      c.values.map spelled := by
    refine words_intercalate (by simp) (by decide) fun w hw => ?_
    obtain ⟨v, hvm, rfl⟩ := List.mem_map.mp hw
    obtain ⟨-, hn, hs⟩ := hv v hvm
    exact ⟨hn, fun x hx => (hs x hx).1⟩
  have hcons := words_word_append (by simp) hl (c := .char ' ') (by decide)
    ([.char ',', .char ' '].intercalate (c.values.map spelled))
  rw [hw] at hcons
  exact hcons

theorem demands_of_words (hn : c.values ≠ []) (hv : ∀ v ∈ c.values, IsValue v)
    {group : List CodePoint} (h : words isSeparator group = words isSeparator (writeCriterion c)) :
    Demands group c := by
  rw [words_writeCriterion hv, words_eq_tokens] at h
  obtain ⟨v, vs, he⟩ := List.exists_cons_of_ne_nil hn
  refine ⟨spelled v, vs.map spelled, by rw [h, he, List.map_cons], ?_⟩
  rw [← List.map_cons, ← he, List.map_map]
  exact (List.map_id c.values).symm.trans (List.map_congr_left fun v hvm => (hv v hvm).1)

end Parts

section Characters

/-- A character of a written line: its only gap is the space, and it starts no comment. -/
def Plain (x : CodePoint) : Prop := x ≠ .char '#' ∧ (isGap x = true → x = .char ' ')

instance : DecidablePred Plain := fun _ => inferInstanceAs (Decidable (_ ∧ _))

variable {a : Assignments} {c : Criterion} {cs : List Criterion} {x : CodePoint}

theorem plain_of_no_gap (hg : isGap x = false) (hc : x ≠ .char '#') : Plain x :=
  ⟨hc, fun h => absurd h (by simp [hg])⟩

theorem isBlank_of_isLineEnd {c : Char} (h : isLineEnd c = true) : isBlank c = true := by
  simp only [isLineEnd, isBlank, Bool.or_eq_true, Bool.and_eq_true, decide_eq_true_eq,
    beq_iff_eq] at h ⊢
  omega

theorem Plain.endsLine_eq_false (h : Plain x) : endsLine x = false := by
  cases x with
  | half n => rfl
  | char c =>
    by_contra hc
    rw [Bool.not_eq_false] at hc
    have hb : isGap (.char c) = true := isBlank_of_isLineEnd hc
    rw [h.2 hb] at hc
    exact absurd hc (by decide)

theorem Plain.ne_tab (h : Plain x) : x ≠ .char '\t' := by
  rintro rfl
  exact absurd (h.2 (by decide)) (by decide)

theorem plain_of_mem_writeAssignments (h : ∀ p ∈ a, IsId p.2) (hx : x ∈ writeAssignments a) :
    Plain x := by
  obtain hx | ⟨w, hw, hx⟩ := mem_of_mem_intercalate hx
  · obtain rfl : x = .char ' ' := by simpa using hx
    decide
  · obtain ⟨hg, hc⟩ := (isWord_of_mem_assignmentWords h hw).2 x hx
    exact plain_of_no_gap hg hc

theorem plain_of_mem_writeCriterion (hv : ∀ v ∈ c.values, IsValue v)
    (hx : x ∈ writeCriterion c) : Plain x ∧ x ≠ .char '+' ∧ x ≠ .char ':' := by
  rw [writeCriterion, List.mem_cons, List.mem_cons] at hx
  obtain rfl | rfl | hx := hx
  · cases c.subject <;> decide
  · decide
  · obtain hx | ⟨w, hw, hx⟩ := mem_of_mem_intercalate hx
    · obtain rfl | rfl : x = .char ',' ∨ x = .char ' ' := by simpa using hx
      · decide
      · decide
    · obtain ⟨v, hvm, rfl⟩ := List.mem_map.mp hw
      obtain ⟨hs, hm⟩ := (hv v hvm).2.2 x hx
      simp only [List.mem_cons, List.not_mem_nil, or_false, not_or] at hm
      obtain ⟨hplus, hcolon, hmark⟩ := hm
      exact ⟨plain_of_no_gap (isGap_of_isSeparator_eq_false hs) hmark, hplus, hcolon⟩

theorem plain_of_mem_writeCriteria (hv : ∀ c ∈ cs, ∀ v ∈ c.values, IsValue v)
    (hx : x ∈ writeCriteria cs) : Plain x ∧ x ≠ .char ':' := by
  obtain hx | ⟨w, hw, hx⟩ := mem_of_mem_intercalate hx
  · obtain rfl | rfl | rfl : x = .char ' ' ∨ x = .char '+' ∨ x = .char ' ' := by simpa using hx
    · decide
    · decide
    · decide
  · obtain ⟨c, hc, rfl⟩ := List.mem_map.mp hw
    obtain ⟨hp, -, hn⟩ := plain_of_mem_writeCriterion (hv c hc) hx
    exact ⟨hp, hn⟩

theorem forall₂_demands (gaps : List CodePoint) (hn : cs ≠ [])
    (h : ∀ c ∈ cs, c.values ≠ [] ∧ ∀ v ∈ c.values, IsValue v) (hg : ∀ x ∈ gaps, x = .char ' ') :
    List.Forall₂ Demands ((gaps ++ writeCriteria cs).splitOn (.char '+')) cs := by
  have hgs : ∀ x ∈ gaps, isSeparator x := fun x hx => by rw [hg x hx]; decide
  induction cs generalizing gaps with
  | nil => exact absurd rfl hn
  | cons c cs ih =>
    obtain ⟨⟨hvn, hv⟩, hcs⟩ := List.forall_mem_cons.mp h
    have hm : .char '+' ∉ gaps ++ writeCriterion c := by
      rw [List.mem_append, not_or]
      constructor
      · intro hx
        simpa using hg _ hx
      · intro hx
        exact (plain_of_mem_writeCriterion hv hx).2.1 rfl
    -- The space before a plus sign is left to its group, the one after it to the next group.
    cases cs with
    | nil =>
      rw [writeCriteria, List.map_singleton, List.intercalate_singleton,
        List.splitOn_eq_singleton hm]
      exact .cons (demands_of_words hvn hv (words_gaps_append hgs _)) .nil
    | cons c' cs =>
      have he : gaps ++ writeCriteria (c :: c' :: cs) = (gaps ++ writeCriterion c ++ [.char ' ']) ++
          .char '+' :: ([.char ' '] ++ writeCriteria (c' :: cs)) := by
        simp [writeCriteria, List.intercalate_cons_cons]
      have hm' : .char '+' ∉ gaps ++ writeCriterion c ++ [.char ' '] := by
        rw [List.mem_append, not_or]
        exact ⟨hm, by decide⟩
      rw [he, List.splitOn_append_cons_self_of_not_mem hm']
      refine .cons (demands_of_words hvn hv ?_) (ih [.char ' '] (by simp) hcs (by simp) (by decide))
      rw [words_append_gap _ (by decide), words_gaps_append hgs]

theorem states_writeRule {r : Rule} (h : WritableRule r) :
    States (writeRule r) r.criteria r.policies := by
  refine ⟨writeCriteria r.criteria, _, rfl, fun hx => ?_, ?_,
    assigns_writeAssignments h.assignments, h.policies⟩
  · exact (plain_of_mem_writeCriteria (fun c hc => (h.values c hc).2) hx).2 rfl
  · exact forall₂_demands [] h.criteria h.values (by simp)

end Characters

end Lending.RulesText
