import Lending.Proofs.Rules.Writing

/-! # Reading back what is written

The rules text of a declaration is read as the table of the declaration, with the rules numbered by
their lines. Every written line is its own content, so that the lines give what they were written
from.
-/

namespace Lending.RulesText

open Text

section Lines

/-- A line whose content is all of it. -/
structure IsWritten (l : List CodePoint) : Prop where
  plain : ∀ x ∈ l, Plain x
  first : ∀ x ∈ l.head?, isGap x = false
  last : ∀ x ∈ l.getLast?, isGap x = false

variable {a : Assignments} {d : Declaration} {l : List CodePoint}

theorem IsWritten.content_eq (h : IsWritten l) : content l = l := by
  have ht : l.takeWhile (· ≠ .char '#') = l :=
    List.takeWhile_eq_self_iff.mpr fun x hx => decide_eq_true (h.plain x hx).1
  rw [content, ht, ← stripBy_eq_rdropWhile, stripBy_eq_self h.first h.last]

theorem IsWritten.noTab (h : IsWritten l) : .char '\t' ∉ l := fun ht =>
  (h.plain _ ht).ne_tab rfl

theorem last_intercalate (sep : List CodePoint) {ws : List (List CodePoint)} (hn : ws ≠ [])
    (hw : ∀ w ∈ ws, w ≠ [] ∧ ∀ x ∈ w, isGap x = false) (as : List CodePoint) :
    ∀ x ∈ (as ++ sep.intercalate ws).getLast?, isGap x = false := by
  obtain ⟨bs, w, hwm, he⟩ : ∃ bs, ∃ w ∈ ws, sep.intercalate ws = bs ++ w :=
    exists_intercalate_eq_append hn
  obtain ⟨hwn, hwg⟩ := hw w hwm
  rw [he, ← List.append_assoc, List.getLast?_append_of_ne_nil _ hwn]
  exact fun x hx => hwg x (List.mem_of_getLast? hx)

theorem last_writeAssignments (hn : a ≠ []) (h : ∀ p ∈ a, IsId p.2) (as : List CodePoint) :
    ∀ x ∈ (as ++ writeAssignments a).getLast?, isGap x = false := by
  refine last_intercalate _ ?_ (fun w hw => ?_) as
  · obtain ⟨p, a, rfl⟩ := List.exists_cons_of_ne_nil hn
    simp [assignmentWords]
  · obtain ⟨hwn, hg⟩ := isWord_of_mem_assignmentWords h hw
    exact ⟨hwn, fun x hx => (hg x hx).1⟩

theorem exists_writeRule_eq_cons {r : Rule} (h : r.criteria ≠ []) :
    ∃ (a : Attribute) (rest : List CodePoint),
      writeRule r = .char a.letter :: .char ' ' :: rest := by
  obtain ⟨c, cs, he⟩ := List.exists_cons_of_ne_nil h
  rw [writeRule, he, writeCriteria]
  cases cs with
  | nil => exact ⟨c.subject, _, rfl⟩
  | cons c' cs => exact ⟨c.subject, _, rfl⟩

theorem isWritten_writeRule {r : Rule} (h : WritableRule r) : IsWritten (writeRule r) := by
  refine ⟨fun x hx => ?_, fun x hx => ?_, ?_⟩
  · rw [writeRule, List.mem_append, List.mem_cons, List.mem_cons] at hx
    obtain hx | rfl | rfl | hx := hx
    · exact (plain_of_mem_writeCriteria (fun c hc => (h.values c hc).2) hx).1
    · decide
    · decide
    · exact plain_of_mem_writeAssignments h.assignments.ids hx
  · obtain ⟨a, rest, he⟩ := exists_writeRule_eq_cons h.criteria
    rw [he] at hx
    obtain rfl : .char a.letter = x := Option.some.inj hx
    cases a <;> decide
  · have hl := last_writeAssignments h.policies h.assignments.ids
      (writeCriteria r.criteria ++ [.char ':', .char ' '])
    rwa [List.append_assoc] at hl

theorem isRuleContent_writeRule {r : Rule} (h : r.criteria ≠ []) : IsRuleContent (writeRule r) := by
  obtain ⟨a, rest, he⟩ := exists_writeRule_eq_cons h
  rw [he]
  refine ⟨by simp, ?_, ?_⟩
  · simp [priorityStart, Text.ofString, Text.ofChars]
  · simp [fallbackStart, Text.ofString, Text.ofChars]

theorem isWritten_writeFallback {r : Rule} (hn : r.policies ≠ []) (h : ∀ p ∈ r.policies, IsId p.2) :
    IsWritten (writeFallback r) := by
  refine ⟨fun x hx => ?_, fun x hx => ?_, ?_⟩
  · rw [writeFallback, List.mem_append, List.mem_cons] at hx
    obtain hx | rfl | hx := hx
    · exact (by decide : ∀ x ∈ fallbackStart, Plain x) x hx
    · decide
    · exact plain_of_mem_writeAssignments h hx
  · obtain rfl : .char 'f' = x := Option.some.inj hx
    decide
  · have hl := last_writeAssignments hn h (fallbackStart ++ [.char ' '])
    rwa [List.append_assoc] at hl

end Lines

section Priority

variable {order : List Attribute} {last : Bool} {w : List CodePoint}

theorem isWord_of_mem_priorityWords (hw : w ∈ priorityWords order last) :
    w ≠ [] ∧ ∀ x ∈ w, isSeparator x = false ∧ Plain x := by
  rw [priorityWords, List.mem_append] at hw
  obtain hw | hw := hw
  · obtain rfl : w = (Keyword.lastLine.text : Text).toList := by
      cases last <;> simp_all
    decide
  · obtain ⟨a, -, rfl⟩ := List.mem_map.mp hw
    cases a <;> decide

theorem isPriorityWord_of_mem (hw : w ∈ priorityWords order last) : IsPriorityWord w := by
  rw [priorityWords, List.mem_append] at hw
  obtain hw | hw := hw
  · exact .inr ⟨.lastLine, by cases last <;> simp_all⟩
  · obtain ⟨a, -, rfl⟩ := List.mem_map.mp hw
    exact .inl ⟨a, rfl⟩

theorem lettersOf_letters (order : List Attribute) :
    lettersOf (order.map fun a => [.char a.letter]) = order := by
  induction order with
  | nil => rfl
  | cons a order ih => rw [List.map_cons, lettersOf_letter_cons, ih]

theorem saysLastLine_letters (order : List Attribute) :
    saysLastLine (order.map fun a => [.char a.letter]) = false := by
  induction order with
  | nil => rfl
  | cons a order ih => rw [List.map_cons, saysLastLine_letter_cons, ih]

theorem lettersOf_priorityWords : lettersOf (priorityWords order last) = order := by
  cases last with
  | false => exact lettersOf_letters order
  | true => exact (lettersOf_keyword_cons .lastLine _).trans (lettersOf_letters order)

theorem saysLastLine_priorityWords : saysLastLine (priorityWords order last) = last := by
  cases last with
  | false => exact saysLastLine_letters order
  | true => exact saysLastLine_keyword_cons .lastLine _

theorem completed_of_perm (h : order.Perm Attribute.all) : completed order = order := by
  simp [completed, h.mem_iff, Attribute.mem_all]

theorem priority_writePriority (h : order.Perm Attribute.all) :
    priority (.char ' ' :: [.char ',', .char ' '].intercalate (priorityWords order last)) =
      .ok { order, lastLineWins := last } := by
  have ht : tokens isSeparator
      (.char ' ' :: [.char ',', .char ' '].intercalate (priorityWords order last)) =
        priorityWords order last := by
    rw [← words_eq_tokens, words_gap_cons (by decide)]
    refine words_intercalate (by simp) (by decide) fun w hw => ?_
    obtain ⟨hn, hw⟩ := isWord_of_mem_priorityWords hw
    exact ⟨hn, fun x hx => (hw x hx).1⟩
  rw [priority_eq_ok_iff, ht, lettersOf_priorityWords, saysLastLine_priorityWords,
    completed_of_perm h]
  exact ⟨fun w hw => isPriorityWord_of_mem hw, rfl⟩

theorem isWritten_writePriority (h : order ≠ []) : IsWritten (writePriority order last) := by
  refine ⟨fun x hx => ?_, fun x hx => ?_, ?_⟩
  · rw [writePriority, List.mem_append, List.mem_cons] at hx
    obtain hx | rfl | hx := hx
    · exact (by decide : ∀ x ∈ priorityStart, Plain x) x hx
    · decide
    · obtain hx | ⟨w, hw, hx⟩ := mem_of_mem_intercalate hx
      · obtain rfl | rfl : x = .char ',' ∨ x = .char ' ' := by simpa using hx
        · decide
        · decide
      · exact ((isWord_of_mem_priorityWords hw).2 x hx).2
  · obtain rfl : .char 'p' = x := Option.some.inj hx
    decide
  · have hw : ∀ w ∈ priorityWords order last, w ≠ [] ∧ ∀ x ∈ w, isGap x = false := fun w hw => by
      obtain ⟨hn, hs⟩ := isWord_of_mem_priorityWords hw
      exact ⟨hn, fun x hx => isGap_of_isSeparator_eq_false (hs x hx).1⟩
    have hl := last_intercalate [.char ',', .char ' '] (by simp [priorityWords, h]) hw
      (priorityStart ++ [.char ' '])
    rwa [List.append_assoc] at hl

end Priority

section RoundTrip

variable {d : Declaration} {k : ℕ}

theorem numberedRules_cons (k : ℕ) (r : Rule) (rs : List Rule) :
    numberedRules k (r :: rs) = { r with line := k } :: numberedRules (k + 1) rs := rfl

theorem gives_ruleLines {d : Draft} {rs : List Rule} (h : ∀ r ∈ rs, WritableRule r) :
    Gives d k (rs.map writeRule) { d with rules := d.rules ++ numberedRules k rs } := by
  -- The draft grows by a rule with every line, so the induction leaves it open.
  induction rs generalizing d k with
  | nil => exact gives_nil_iff.mpr (by simp [numberedRules])
  | cons r rs ih =>
    obtain ⟨hr, hrs⟩ := List.forall_mem_cons.mp h
    have hw := isWritten_writeRule hr
    have hc : IsRuleContent (content (writeRule r)) :=
      hw.content_eq.symm ▸ isRuleContent_writeRule hr.criteria
    rw [List.map_cons, gives_of_rule hc, hw.content_eq]
    refine ⟨hw.noTab, r.criteria, r.policies, states_writeRule hr, ?_⟩
    simpa [numberedRules_cons] using ih hrs (k := k + 1)
      (d := { d with rules := d.rules ++ [{ r with line := k }] })

theorem Writable.isWritten (h : Writable d) : ∀ l ∈ writtenLines d, IsWritten l := by
  have hp : d.priority ≠ [] := fun hn => by
    have hl := h.priority.length_eq
    rw [hn] at hl
    cases hl
  have hf : d.fallback.policies ≠ [] := fun hn => by
    have hk := h.complete .loan
    rw [hn] at hk
    cases hk
  rw [writtenLines, List.forall_mem_cons, List.forall_mem_cons, List.forall_mem_map]
  exact ⟨isWritten_writePriority hp, isWritten_writeFallback hf h.fallback.ids,
    fun r hr => isWritten_writeRule (h.rules r hr)⟩

theorem gives_writtenLines (h : Writable d) :
    Gives {} 1 (writtenLines d) (draftOf (numberedAsWritten d)) := by
  have hw := h.isWritten
  rw [writtenLines, List.forall_mem_cons, List.forall_mem_cons] at hw
  obtain ⟨hp, hf, -⟩ := hw
  rw [writtenLines, gives_of_priority hp.content_eq]
  refine ⟨hp.noTab, _, priority_writePriority h.priority, ?_⟩
  rw [gives_of_fallback hf.content_eq]
  refine ⟨hf.noTab, rfl, _, assigns_writeAssignments h.fallback, ?_⟩
  have hr := gives_ruleLines (k := 3) (d :=
    { priority := { order := d.priority, lastLineWins := d.lastLineWins }
      fallback := some { criteria := [], policies := d.fallback.policies, line := 2 } }) h.rules
  simpa [draftOf, numberedAsWritten, h.unrestricted] using hr

theorem lines_write (h : Writable d) : lines (write d).toList = writtenLines d :=
  lines_flatMap_newline fun l hl x hx => ((h.isWritten l hl).plain x hx).endsLine_eq_false

theorem Writable.namesAll (h : Writable d) : (numberedAsWritten d).fallback.NamesAll := by
  rw [Rule.namesAll_iff]
  · exact h.complete
  · exact (assigns_writeAssignments h.fallback).counts

/-- The rules text of a declaration is read as the table of the declaration, with the rules numbered
by their lines. -/
theorem read_write (h : Writable d) :
    ∃ t, read (write d) = .ok t ∧ (numberedAsWritten d).table = .ok t := by
  have ht := Declaration.table_eq_ok_iff.mpr ⟨h.namesAll, rfl⟩
  refine ⟨_, read_eq_ok_iff.mpr ⟨numberedAsWritten d, ?_, ht⟩, ht⟩
  rw [lines_write h]
  exact gives_writtenLines h

def punctuated : Declaration :=
  { rules := [
      { criteria := [
          { subject := .materialType, values := [.str "m", .str "last-line"] },
          { subject := .patronGroup, values := [.str "all"] }]
        policies := [(.overdueFine, .str "a:b+(c,d)"), (.loan, .str "priority:")]
        line := 0 }]
    fallback :=
      { criteria := []
        policies := [(.notice, .str "n:1"), (.loan, .str "l,1"), (.request, .str "(r)"),
          (.overdueFine, .str "+"), (.lostItemFee, .str "t")]
        line := 0 }
    priority := Attribute.all.reverse
    lastLineWins := true }

theorem read_write_punctuated : Writable punctuated ∧ ∃ t, read (write punctuated) = .ok t ∧
    (numberedAsWritten punctuated).table = .ok t := by
  have hr : ∀ r ∈ punctuated.rules, WritableRule r :=
    List.forall_mem_singleton.mpr ⟨by decide, by decide, by decide, by decide, by decide⟩
  have h : Writable punctuated :=
    ⟨List.reverse_perm _, rfl, fun kind => by cases kind <;> decide, ⟨by decide, by decide⟩, hr⟩
  exact ⟨h, read_write h⟩

end RoundTrip

end Lending.RulesText
