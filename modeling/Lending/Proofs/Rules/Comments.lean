import Lending.Proofs.Rules.Entries
import Lending.Proofs.Rules.FirstFault
import Lending.Proofs.Rules.Meaning

/-! # Comments and blank lines

A blank line or a comment between the lines of a rules text moves the numbers of the lines after it
and changes nothing else; at the end of a line it changes nothing at all. Reading only keeps the
numbers of lines, and they decide nothing but the order of references.
-/

namespace Lending

section Numbers

def Rule.mapLine (f : ℤ → ℤ) (r : Rule) : Rule := { r with line := f r.line }

def RuleTable.mapLine (f : ℤ → ℤ) (t : RuleTable) : RuleTable := t.mapRules (Rule.mapLine f)

def RuleTable.Reference.mapLine (f : ℤ → ℤ) (r : RuleTable.Reference) : RuleTable.Reference :=
  { r with line := f r.line }

def RulesError.mapLine (f : ℤ → ℤ) (e : RulesError) : RulesError :=
  { e with line := e.line.map f }

variable {f : ℤ → ℤ}

theorem Rule.keepsMeaning_mapLine (f : ℤ → ℤ) : KeepsMeaning (mapLine f) where
  explicit _ := rfl
  policies _ := rfl

theorem RuleTable.references_mapLine (hf : ∀ a b, f a ≤ f b ↔ a ≤ b) (t : RuleTable) :
    (t.mapLine f).references = t.references.map (·.mapLine f) := by
  have hs : ((t.rules ++ [t.fallback]).map (Rule.mapLine f)).mergeSort
        (fun a b => a.line ≤ b.line) =
      ((t.rules ++ [t.fallback]).mergeSort fun a b => a.line ≤ b.line).map (Rule.mapLine f) := by
    refine (List.map_mergeSort fun r _ s _ => ?_).symm
    simp [Rule.mapLine, hf]
  rw [List.map_append, List.map_singleton] at hs
  rw [references, mapLine, mapRules, hs, List.flatMap_map, references, List.map_flatMap]
  simp [Rule.references, Rule.mapLine, Reference.mapLine, Function.comp_def]

end Numbers

namespace RulesText

open Text

section Renumbering

variable {f : ℤ → ℤ}

def Draft.mapLine (f : ℤ → ℤ) (d : Draft) : Draft :=
  { d with fallback := d.fallback.map (·.mapLine f), rules := d.rules.map (·.mapLine f) }

/-- What reading a text gives, with other numbers of lines. -/
def renumbered (f : ℤ → ℤ) : Except RulesError RuleTable → Except RulesError RuleTable
  | .ok t => .ok (t.mapLine f)
  | .error e => .error (e.mapLine f)

theorem add_mapLine (d : Draft) (n : ℤ) (line : List CodePoint) :
    (d.mapLine f).add (f n) line =
      match d.add n line with
      | .ok d' => .ok (d'.mapLine f)
      | .error fault => .error fault := by
  rw [Draft.add, Draft.add]
  cases checkTabs line with
  | error fault => rfl
  | ok _ =>
    rw [ok_bind, ok_bind]
    cases contentOf line with
    | nothing => rfl
    | priority body =>
      dsimp only
      cases priority body <;> rfl
    | fallback body =>
      cases hf : d.fallback with
      | some r => simp [Draft.mapLine, hf]
      | none =>
        simp only [Draft.mapLine, hf, Option.map_none]
        cases assignments body <;> rfl
    | rule text =>
      dsimp only
      cases ruleParts text with
      | error fault => rfl
      | ok parts => simp [Draft.mapLine, Rule.mapLine]

theorem addLines_mapLine {n : ℤ} (hf : ∀ m, n ≤ m → f (m + 1) = f m + 1) (d : Draft)
    (ls : List (List CodePoint)) :
    (d.mapLine f).addLines (f n) ls =
      match d.addLines n ls with
      | .ok d' => .ok (d'.mapLine f)
      | .error e => .error (e.mapLine f) := by
  induction ls generalizing d n with
  | nil => rfl
  | cons l ls ih =>
    rw [Draft.addLines, Draft.addLines, add_mapLine]
    cases d.add n l with
    | error fault => rfl
    | ok d' =>
      have h := ih (n := n + 1) (fun m hm => hf m (by omega)) d'
      rwa [hf n (Int.le_refl n)] at h

theorem table_mapLine (d : Draft) : (d.mapLine f).table = renumbered f d.table := by
  cases hd : d.fallback with
  | none => simp [Draft.table, Draft.mapLine, hd, renumbered, RulesError.mapLine]
  | some fallback =>
    have hm := RuleTable.make_map (Rule.keepsMeaning_mapLine f) d.rules fallback d.priority.order
      d.priority.lastLineWins
    simp only [Draft.table, Draft.mapLine, hd, Option.map_some, hm]
    cases h : RuleTable.make d.rules fallback d.priority.order d.priority.lastLineWins with
    | ok t => rfl
    | error e =>
      obtain ⟨fault, line⟩ := e
      obtain rfl : line = some fallback.line := RuleTable.line_of_make_eq_error h
      rfl

end Renumbering

section Inert

variable {l tail : List CodePoint}

/-- A line, or the end of one, that says nothing: gaps, or a comment after gaps. -/
structure IsInert (l : List CodePoint) : Prop where
  noTab : .char '\t' ∉ l
  blank : (∀ x ∈ l, isGap x = true) ∨
    ∃ gaps comment, l = gaps ++ .char '#' :: comment ∧ ∀ x ∈ gaps, isGap x = true

theorem ne_mark_of_isGap {x : CodePoint} (h : isGap x = true) : x ≠ .char '#' := by
  rintro rfl
  exact absurd h (by decide)

theorem takeWhile_append_mark {before : List CodePoint} (h : .char '#' ∉ before)
    (after : List CodePoint) :
    (before ++ .char '#' :: after).takeWhile (· ≠ .char '#') = before := by
  rw [List.takeWhile_append_of_pos fun x hx => by simpa using ne_of_mem_of_not_mem hx h]
  simp

theorem IsInert.isGap_of_mem_takeWhile (h : IsInert tail) {x : CodePoint}
    (hx : x ∈ tail.takeWhile (· ≠ .char '#')) : isGap x = true := by
  rcases h.blank with hg | ⟨gaps, comment, rfl, hg⟩
  · exact hg x ((List.takeWhile_sublist _).subset hx)
  · rw [takeWhile_append_mark fun hm => ne_mark_of_isGap (hg _ hm) rfl] at hx
    exact hg x hx

theorem IsInert.content_append (h : IsInert tail) (l : List CodePoint) :
    content (l ++ tail) = content l := by
  by_cases hm : .char '#' ∈ l
  · obtain ⟨before, after, rfl, hb⟩ := List.eq_append_cons_of_mem hm
    rw [List.append_assoc, List.cons_append, content, takeWhile_append_mark hb, content,
      takeWhile_append_mark hb]
  · have hl : ∀ x ∈ l, decide (x ≠ .char '#') = true := fun x hx => by
      simpa using ne_of_mem_of_not_mem hx hm
    rw [content, List.takeWhile_append_of_pos hl, content, List.takeWhile_eq_self_iff.mpr hl,
      ← stripBy_eq_rdropWhile, stripBy_append_gaps fun x => h.isGap_of_mem_takeWhile,
      stripBy_eq_rdropWhile]

theorem IsInert.content_eq (h : IsInert l) : content l = [] := h.content_append []

theorem IsInert.checkTabs_append (h : IsInert tail) (l : List CodePoint) :
    checkTabs (l ++ tail) = checkTabs l := by
  by_cases hm : .char '\t' ∈ l
  · obtain ⟨before, after, rfl, hb⟩ := List.eq_append_cons_of_mem hm
    rw [List.append_assoc, List.cons_append, checkTabs_append_cons hb, checkTabs_append_cons hb]
  · have hn : .char '\t' ∉ l ++ tail := by simp [hm, h.noTab]
    rw [(checkTabs_eq_ok_iff (u := ())).mpr hn, (checkTabs_eq_ok_iff (u := ())).mpr hm]

theorem IsInert.add_append (h : IsInert tail) (d : Draft) (n : ℤ) (l : List CodePoint) :
    d.add n (l ++ tail) = d.add n l := by
  have hc : contentOf (l ++ tail) = contentOf l := by
    simp only [contentOf, uncommented_eq_content, h.content_append]
  rw [Draft.add, h.checkTabs_append, hc, Draft.add]

theorem IsInert.add_eq (h : IsInert l) (d : Draft) (n : ℤ) : d.add n l = .ok d :=
  (add_of_nil h.content_eq).mpr ⟨h.noTab, rfl⟩

end Inert

section Insertion

variable {text other : Text} {before after : List (List CodePoint)} {l tail : List CodePoint}

/-- The number of a line when one more line has been put in behind line `k`. -/
def movedAfter (k : ℕ) (n : ℤ) : ℤ := if n ≤ k then n else n + 1

theorem movedAfter_le_iff (k : ℕ) (m n : ℤ) : movedAfter k m ≤ movedAfter k n ↔ m ≤ n := by
  unfold movedAfter
  split <;> split <;> omega

theorem movedAfter_of_le {k : ℕ} {n : ℤ} (h : n ≤ k) : movedAfter k n = n := if_pos h

theorem movedAfter_of_lt {k : ℕ} {n : ℤ} (h : k < n) : movedAfter k n = n + 1 :=
  if_neg (Int.not_le.mpr h)

theorem Draft.mapLine_eq_self {f : ℤ → ℤ} {d : Draft} (h : ∀ r ∈ d.entries, f r.line = r.line) :
    d.mapLine f = d := by
  have hr : ∀ r ∈ d.entries, r.mapLine f = r := fun r hm => by rw [Rule.mapLine, h r hm]
  have hrules : d.rules.map (·.mapLine f) = d.rules :=
    (List.map_congr_left fun r hm => hr r (List.mem_append_left _ hm)).trans (List.map_id' _)
  have hfallback : d.fallback.map (·.mapLine f) = d.fallback := by
    cases hd : d.fallback with
    | none => rfl
    | some r => exact congrArg some (hr r (List.mem_append_right _ (by simp [hd])))
  rw [mapLine, hrules, hfallback]

theorem mapLine_of_addLines {d : Draft} (h : Draft.addLines {} 1 before = .ok d) :
    d.mapLine (movedAfter before.length) = d := by
  obtain ⟨added, ha, hp⟩ := exists_adds ((addLines_eq_ok_iff (k := 1)).mp h)
  refine Draft.mapLine_eq_self fun r hr => movedAfter_of_le ?_
  have := (line_bounds_of_adds ha r (hp.mem_iff.mp hr)).2
  omega

theorem mapLine_of_addLines_eq_error {e : RulesError}
    (h : Draft.addLines {} 1 before = .error e) : e.mapLine (movedAfter before.length) = e := by
  obtain ⟨start, line, rest, d, rfl, -, -, hline⟩ := addLines_eq_error_iff.mp h
  have hle : (1 : ℤ) + start.length ≤ (start ++ line :: rest).length := by
    rw [List.length_append, List.length_cons]
    omega
  rw [RulesError.mapLine, hline, Option.map_some, movedAfter_of_le hle, ← hline]

theorem addLines_movedAfter {d : Draft} (h : Draft.addLines {} 1 before = .ok d)
    (ls : List (List CodePoint)) :
    d.addLines (1 + before.length + 1) ls =
      match d.addLines (1 + before.length) ls with
      | .ok d' => .ok (d'.mapLine (movedAfter before.length))
      | .error e => .error (e.mapLine (movedAfter before.length)) := by
  have hn : movedAfter before.length (1 + before.length) = 1 + before.length + 1 :=
    movedAfter_of_lt (by omega)
  have hstep : ∀ m, (1 : ℤ) + before.length ≤ m →
      movedAfter before.length (m + 1) = movedAfter before.length m + 1 := fun m hm => by
    rw [movedAfter_of_lt (by omega), movedAfter_of_lt (by omega)]
  have hls := addLines_mapLine hstep d ls
  rwa [mapLine_of_addLines h, hn] at hls

theorem read_insert (ht : lines text.toList = before ++ after)
    (ho : lines other.toList = before ++ l :: after) (hl : IsInert l) :
    read other = renumbered (movedAfter before.length) (read text) := by
  rw [read, read, ofLines, ofLines, ht, ho, addLines_append, addLines_append]
  cases hb : Draft.addLines {} 1 before with
  | error e => exact congrArg Except.error (mapLine_of_addLines_eq_error hb).symm
  | ok d =>
    rw [ok_bind, ok_bind, Draft.addLines, hl.add_eq]
    simp only [addLines_movedAfter hb after]
    cases d.addLines (1 + before.length) after with
    | ok d' => exact table_mapLine d'
    | error e => rfl

theorem read_append (ht : lines text.toList = before ++ l :: after)
    (ho : lines other.toList = before ++ (l ++ tail) :: after) (hl : IsInert tail) :
    read other = read text := by
  rw [read, read, ofLines, ofLines, ht, ho, addLines_append, addLines_append]
  simp only [Draft.addLines, hl.add_append]

/-- A line that says nothing, put in between the lines of a rules text, adds one to the numbers of
the lines after it, in the table and in an error, so that the table decides the same and its
references keep their order. At the end of a line it makes no difference. -/
theorem comments_are_inert (text : Text) :
    (∀ (other : Text) before l after, lines text.toList = before ++ after →
      lines other.toList = before ++ l :: after → IsInert l →
      read other = renumbered (movedAfter before.length) (read text) ∧
      ∀ t t', read text = .ok t → read other = .ok t' →
        t'.apply = t.apply ∧ t'.applyTo = t.applyTo ∧ t'.applyAllTo = t.applyAllTo ∧
        t'.references = t.references.map (·.mapLine (movedAfter before.length))) ∧
    ∀ (other : Text) before l tail after, lines text.toList = before ++ l :: after →
      lines other.toList = before ++ (l ++ tail) :: after → IsInert tail →
      read other = read text := by
  refine ⟨fun other before l after ht ho hl => ?_, fun other before l tail after ht ho hl =>
    read_append ht ho hl⟩
  have hread := read_insert ht ho hl
  refine ⟨hread, fun t t' hr hr' => ?_⟩
  obtain rfl : t.mapLine (movedAfter before.length) = t' := by
    rw [hr, hr'] at hread
    exact (Except.ok.inj hread).symm
  have hk := Rule.keepsMeaning_mapLine (movedAfter before.length)
  refine ⟨?_, RuleTable.applyTo_mapRules hk t, RuleTable.applyAllTo_mapRules hk t,
    RuleTable.references_mapLine (movedAfter_le_iff _) t⟩
  funext kind request
  exact RuleTable.apply_mapRules hk t kind request

def faulty : Text := "m book: l a\nm: l a"

def commented : Text := "m book: l a\r\n  # m x\nm: l a"

def trailed : Text := "m book: l a # m x\nm: l a"

theorem comments_are_inert_of_faulty :
    read commented = .error { fault := .criterionWithoutValues "m", line := some 3 } ∧
      read trailed = .error { fault := .criterionWithoutValues "m", line := some 2 } := by
  have hf : read faulty = .error { fault := .criterionWithoutValues "m", line := some 2 } := by
    decide +kernel
  have hl : IsInert ("  # m x" : Text).toList :=
    ⟨by decide, .inr ⟨("  " : Text).toList, (" m x" : Text).toList, by decide, by decide⟩⟩
  have ht : IsInert (" # m x" : Text).toList :=
    ⟨by decide, .inr ⟨(" " : Text).toList, (" m x" : Text).toList, by decide, by decide⟩⟩
  obtain ⟨hinsert, happend⟩ := comments_are_inert faulty
  constructor
  · have h := (hinsert commented [("m book: l a" : Text).toList] _ [("m: l a" : Text).toList]
      (by decide +kernel) (by decide +kernel) hl).1
    rw [h, hf]
    rfl
  · have h := happend trailed [] ("m book: l a" : Text).toList _ [("m: l a" : Text).toList]
      (by decide +kernel) (by decide +kernel) ht
    rw [h, hf]

end Insertion

end RulesText

end Lending
