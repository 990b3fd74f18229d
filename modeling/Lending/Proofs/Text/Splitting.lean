import Lending.Text.Blank
import Mathlib.Data.List.DropRight

/-! # Cutting texts

What the cuts of a text are: its pieces are those of `List.splitOnP`, its words are the pieces that
are not empty, and its lines are what a line end or the end of the text follows. Words do not change
when gaps are added between them.
-/

namespace Lending.Text

variable {α : Type*} {p : α → Bool}

section Pieces

theorem onFirst_eq_modifyHead (c : α) {ls : List (List α)} (h : ls ≠ []) :
    onFirst c ls = ls.modifyHead (c :: ·) := by
  cases ls with
  | nil => exact absurd rfl h
  | cons l ls => rfl

theorem pieces_eq_splitOnP (p : α → Bool) (cs : List α) : pieces p cs = cs.splitOnP p := by
  induction cs with
  | nil => rfl
  | cons c cs ih =>
    rw [pieces, List.splitOnP_cons_eq_if_modifyHead, ih,
      onFirst_eq_modifyHead c (List.splitOnP_ne_nil p cs)]

theorem words_eq_filter (p : α → Bool) (cs : List α) :
    words p cs = (cs.splitOnP p).filter (!·.isEmpty) := by
  rw [words, pieces_eq_splitOnP]

theorem words_append_cons (as bs : List α) {c : α} (hc : p c) :
    words p (as ++ c :: bs) = words p as ++ words p bs := by
  simp only [words_eq_filter, List.splitOnP_append_cons as bs hc, List.filter_append]

@[simp] theorem words_nil : words p [] = [] := rfl

theorem words_gap_cons {c : α} (hc : p c) (cs : List α) : words p (c :: cs) = words p cs := by
  simpa using words_append_cons [] cs hc

theorem words_of_word {w : List α} (hw : w ≠ []) (h : ∀ c ∈ w, p c = false) :
    words p w = [w] := by
  simp [words_eq_filter, List.splitOnP_eq_singleton h, hw]

theorem words_word_append {w : List α} (hw : w ≠ []) (h : ∀ c ∈ w, p c = false) {c : α} (hc : p c)
    (cs : List α) : words p (w ++ c :: cs) = w :: words p cs := by
  rw [words_append_cons w cs hc, words_of_word hw h, List.singleton_append]

theorem words_append_gap (cs : List α) {c : α} (hc : p c) : words p (cs ++ [c]) = words p cs := by
  simpa using words_append_cons cs [] hc

theorem words_gaps_append {gaps : List α} (h : ∀ c ∈ gaps, p c) (cs : List α) :
    words p (gaps ++ cs) = words p cs := by
  induction gaps with
  | nil => rfl
  | cons c gaps ih =>
    obtain ⟨hc, h⟩ := List.forall_mem_cons.mp h
    rw [List.cons_append, words_gap_cons hc, ih h]

theorem words_intercalate {gaps : List α} {ws : List (List α)} (hn : gaps ≠ [])
    (hg : ∀ c ∈ gaps, p c) (hw : ∀ w ∈ ws, w ≠ [] ∧ ∀ c ∈ w, p c = false) :
    words p (gaps.intercalate ws) = ws := by
  obtain ⟨g, gaps, rfl⟩ := List.exists_cons_of_ne_nil hn
  obtain ⟨hg', hgs⟩ := List.forall_mem_cons.mp hg
  induction ws with
  | nil => rfl
  | cons w ws ih =>
    obtain ⟨⟨hwn, hwp⟩, hws⟩ := List.forall_mem_cons.mp hw
    cases ws with
    | nil => rw [List.intercalate_singleton, words_of_word hwn hwp]
    | cons v vs =>
      rw [List.intercalate_cons_cons, List.append_assoc, List.cons_append,
        words_word_append hwn hwp hg', words_gaps_append hgs, ih hws]

theorem ne_nil_of_mem_words {w cs : List α} (h : w ∈ words p cs) : w ≠ [] := by
  simpa using (List.mem_filter.mp h).2

end Pieces

section Joints

variable {sep : List α} {ls : List (List α)}

theorem mem_of_mem_intercalate {x : α} (h : x ∈ sep.intercalate ls) :
    x ∈ sep ∨ ∃ l ∈ ls, x ∈ l := by
  induction ls with
  | nil => cases h
  | cons l ls ih =>
    cases ls with
    | nil => exact .inr ⟨l, by simp, by simpa using h⟩
    | cons l' ls =>
      rw [List.intercalate_cons_cons, List.mem_append, List.mem_append] at h
      rcases h with (h | h) | h
      · exact .inr ⟨l, by simp, h⟩
      · exact .inl h
      · rcases ih h with h | ⟨m, hm, h⟩
        · exact .inl h
        · exact .inr ⟨m, List.mem_cons_of_mem _ hm, h⟩

theorem exists_intercalate_eq_append (hn : ls ≠ []) :
    ∃ as, ∃ l ∈ ls, sep.intercalate ls = as ++ l := by
  induction ls with
  | nil => exact absurd rfl hn
  | cons l ls ih =>
    cases ls with
    | nil => exact ⟨[], l, by simp, by simp⟩
    | cons l' ls =>
      obtain ⟨as, m, hm, h⟩ := ih (by simp)
      refine ⟨l ++ sep ++ as, m, List.mem_cons_of_mem _ hm, ?_⟩
      rw [List.intercalate_cons_cons, h, ← List.append_assoc]

end Joints

section Cuts

theorem fst_cutAt (p : α → Bool) (cs : List α) : (cutAt p cs).1 = cs.takeWhile (!p ·) := by
  induction cs with
  | nil => rfl
  | cons c cs ih =>
    by_cases hc : p c <;> simp [cutAt, hc, ih]

theorem cutAt_eq_none_iff {cs : List α} : (cutAt p cs).2 = none ↔ ∀ c ∈ cs, p c = false := by
  induction cs with
  | nil => simp [cutAt]
  | cons c cs ih =>
    by_cases hc : p c <;> simp [cutAt, hc, ih]

theorem cutAt_append_cons {as : List α} {c : α} (h : ∀ x ∈ as, p x = false) (hc : p c)
    (bs : List α) : cutAt p (as ++ c :: bs) = (as, some bs) := by
  induction as with
  | nil => simp [cutAt, hc]
  | cons a as ih =>
    obtain ⟨ha, hs⟩ := List.forall_mem_cons.mp h
    simp [cutAt, ha, ih hs]

theorem cutAt_eq_some_iff {cs as bs : List α} :
    cutAt p cs = (as, some bs) ↔ ∃ c, p c ∧ cs = as ++ c :: bs ∧ ∀ x ∈ as, p x = false := by
  constructor
  · intro h
    induction cs generalizing as with
    | nil => simp [cutAt] at h
    | cons c cs ih =>
      by_cases hc : p c
      · obtain ⟨rfl, rfl⟩ : [] = as ∧ cs = bs := by simpa [cutAt, hc] using h
        exact ⟨c, hc, rfl, by simp⟩
      · obtain ⟨has, hbs⟩ : c :: (cutAt p cs).1 = as ∧ (cutAt p cs).2 = some bs := by
          simpa [cutAt, hc] using h
        obtain ⟨d, hd, he, hn⟩ := ih (Prod.ext rfl hbs)
        subst has
        exact ⟨d, hd, congrArg (c :: ·) he, by simpa [hc] using hn⟩
  · rintro ⟨c, hc, rfl, h⟩
    exact cutAt_append_cons h hc bs

theorem afterStart_eq_some_iff [DecidableEq α] {start cs rest : List α} :
    afterStart start cs = some rest ↔ cs = start ++ rest := by
  induction start generalizing cs with
  | nil => simp [afterStart]
  | cons a start ih =>
    cases cs with
    | nil => simp [afterStart]
    | cons c cs =>
      by_cases h : a = c <;> simp [afterStart, h, ih, eq_comm]

theorem afterStart_eq_none_iff [DecidableEq α] {start cs : List α} :
    afterStart start cs = none ↔ ¬ start <+: cs := by
  rw [← not_iff_not, not_not, ← ne_eq, Option.ne_none_iff_exists']
  simp only [afterStart_eq_some_iff, List.IsPrefix]
  exact exists_congr fun _ => eq_comm

theorem stripBy_eq_rdropWhile (p : α → Bool) (cs : List α) :
    stripBy p cs = (cs.dropWhile p).rdropWhile p := rfl

theorem stripBy_eq_self {cs : List α} (hf : ∀ c ∈ cs.head?, p c = false)
    (hl : ∀ c ∈ cs.getLast?, p c = false) : stripBy p cs = cs := by
  have hd : cs.dropWhile p = cs := by
    cases cs with
    | nil => rfl
    | cons c cs => simp [hf c rfl]
  rw [stripBy_eq_rdropWhile, hd, List.rdropWhile_eq_self_iff]
  intro hn
  simp [hl _ (List.getLast_mem_getLast? hn)]

theorem stripBy_append_gaps {gaps : List α} (h : ∀ c ∈ gaps, p c) (cs : List α) :
    stripBy p (cs ++ gaps) = stripBy p cs := by
  rw [stripBy, stripBy, List.dropWhile_append]
  split
  next hd => simp [List.isEmpty_iff.mp hd, List.dropWhile_eq_nil_iff.mpr h]
  next =>
    rw [List.reverse_append, List.dropWhile_append_of_pos fun c hc => h c (List.mem_reverse.mp hc)]

theorem stripBy_gaps_append {gaps : List α} (h : ∀ c ∈ gaps, p c) (cs : List α) :
    stripBy p (gaps ++ cs) = stripBy p cs := by
  rw [stripBy, stripBy, List.dropWhile_append_of_pos h]

theorem stripBy_map {β : Type*} (f : β → α) (cs : List β) :
    stripBy p (cs.map f) = (stripBy (p ∘ f) cs).map f := by
  simp only [stripBy, List.dropWhile_map, ← List.map_reverse]

end Cuts

section Lines

def endsLine (c : CodePoint) : Bool := c.is isLineEnd

/-- The lines of a text: a line goes up to a line end, or to the end of the text if it is not empty
there. A carriage return and a line feed after it are one line end. -/
inductive HasLines : List CodePoint → List (List CodePoint) → Prop where
  | nil : HasLines [] []
  | last {line : List CodePoint} : line ≠ [] → (∀ c ∈ line, endsLine c = false) →
      HasLines line [line]
  | ended {line rest : List CodePoint} {c : CodePoint} {ls : List (List CodePoint)} :
      (∀ c ∈ line, endsLine c = false) → endsLine c →
      (c = .char '\r' → rest.head? ≠ some (.char '\n')) → HasLines rest ls →
      HasLines (line ++ c :: rest) (line :: ls)
  | endedByTwo {line rest : List CodePoint} {ls : List (List CodePoint)} :
      (∀ c ∈ line, endsLine c = false) → HasLines rest ls →
      HasLines (line ++ .char '\r' :: .char '\n' :: rest) (line :: ls)

theorem HasLines.onFirst {cs : List CodePoint} {ls : List (List CodePoint)} {c : CodePoint}
    (h : HasLines cs ls) (hc : endsLine c = false) : HasLines (c :: cs) (onFirst c ls) := by
  cases h with
  | nil => exact .last (by simp) (by simpa using hc)
  | last hn hl => exact .last (by simp) (by simpa [hc] using hl)
  | ended hl he hr h =>
    rw [← List.cons_append]
    exact .ended (by simpa [hc] using hl) he hr h
  | endedByTwo hl h =>
    rw [← List.cons_append]
    exact .endedByTwo (by simpa [hc] using hl) h

theorem hasLines_lines (cs : List CodePoint) : HasLines cs (lines cs) := by
  fun_induction lines cs with
  | case1 => exact .nil
  | case2 cs ih => exact @HasLines.endedByTwo [] _ _ (by simp) ih
  | case3 c cs hr hc ih =>
    refine @HasLines.ended [] _ _ _ (by simp) hc (fun h hn => ?_) ih
    obtain ⟨rest, rfl⟩ := List.head?_eq_some_iff.mp hn
    exact hr rest h rfl
  | case4 c cs hr hc ih => exact ih.onFirst (by simpa [endsLine] using hc)

theorem HasLines.endsLine_eq_false {cs : List CodePoint} {ls : List (List CodePoint)}
    (h : HasLines cs ls) : ∀ l ∈ ls, ∀ c ∈ l, endsLine c = false := by
  induction h with
  | nil => simp
  | last _ hl => simpa using hl
  | ended hl _ _ _ ih => exact List.forall_mem_cons.mpr ⟨hl, ih⟩
  | endedByTwo hl _ ih => exact List.forall_mem_cons.mpr ⟨hl, ih⟩

theorem endsLine_of_mem_lines {cs l : List CodePoint} {c : CodePoint} (hl : l ∈ lines cs)
    (hc : c ∈ l) : endsLine c = false := (hasLines_lines cs).endsLine_eq_false l hl c hc

theorem lines_append_newline {line : List CodePoint} (h : ∀ c ∈ line, endsLine c = false)
    (cs : List CodePoint) : lines (line ++ .char '\n' :: cs) = line :: lines cs := by
  induction line with
  | nil => rfl
  | cons c line ih =>
    have hc : c.is isLineEnd = false := h c List.mem_cons_self
    have hr : c ≠ .char '\r' := by
      rintro rfl
      exact absurd hc (by decide)
    rw [List.cons_append, lines, if_neg (by simp [hc]),
      ih fun x hx => h x (List.mem_cons_of_mem _ hx)]
    · rfl
    · exact fun _ h _ => hr h

theorem lines_flatMap_newline {ls : List (List CodePoint)}
    (h : ∀ l ∈ ls, ∀ c ∈ l, endsLine c = false) :
    lines (ls.flatMap (· ++ [.char '\n'])) = ls := by
  induction ls with
  | nil => rfl
  | cons l ls ih =>
    obtain ⟨hl, hls⟩ := List.forall_mem_cons.mp h
    rw [List.flatMap_cons, List.append_assoc, List.singleton_append, lines_append_newline hl,
      ih hls]

theorem exists_lines_eq {ls : List (List CodePoint)} (h : ∀ l ∈ ls, ∀ c ∈ l, endsLine c = false) :
    ∃ text : Text, lines text.toList = ls := ⟨.ofList _, lines_flatMap_newline h⟩

end Lines

end Lending.Text
