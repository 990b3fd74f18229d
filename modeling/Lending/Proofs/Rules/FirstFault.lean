import Lending.Proofs.Rules.Acceptance

/-! # The first fault

The error of a rules text is about the first line that cannot be taken in. Every line before it can
be, and no line after it makes a difference. Only what the fallback lacks is found after all lines.
-/

namespace Lending.RulesText

open Text

section Tabs

variable {line before after : List CodePoint} {fault : RulesFault} {column : ℕ}

theorem checkTabs_append_cons (h : .char '\t' ∉ before) :
    checkTabs (before ++ .char '\t' :: after) = .error (.tab (before.length + 2)) := by
  have hi : (before ++ .char '\t' :: after).idxOf? (.char '\t') = some before.length := by
    rw [List.idxOf?_eq_some_iff]
    refine ⟨by simp, by simp, fun i hi he => h ?_⟩
    rw [List.getElem_append_left hi] at he
    exact he ▸ List.getElem_mem hi
  rw [checkTabs, hi]

theorem checkTabs_eq_error_iff : checkTabs line = .error fault ↔
    ∃ before after, line = before ++ .char '\t' :: after ∧ .char '\t' ∉ before ∧
      fault = .tab (before.length + 2) := by
  constructor
  · intro h
    have hm : .char '\t' ∈ line := by
      by_contra hn
      rw [(checkTabs_eq_ok_iff (u := ())).mpr hn] at h
      cases h
    obtain ⟨before, after, rfl, hb⟩ := List.eq_append_cons_of_mem hm
    rw [checkTabs_append_cons hb] at h
    exact ⟨before, after, rfl, hb, (Except.error.inj h).symm⟩
  · rintro ⟨before, after, rfl, hb, rfl⟩
    exact checkTabs_append_cons hb

theorem attributeOf_ne_tab {w : List CodePoint} : attributeOf w ≠ .error (.tab column) := by
  unfold attributeOf
  split <;> simp

theorem priorityTokens_ne_tab {ws : List (List CodePoint)} :
    priorityTokens ws ≠ .error (.tab column) := by
  induction ws with
  | nil => simp [priorityTokens]
  | cons w ws ih =>
    rw [priorityTokens]
    split
    · exact bind_ne_error ih fun _ => pure_ne_error
    · exact bind_ne_error attributeOf_ne_tab fun _ => bind_ne_error ih fun _ => pure_ne_error

theorem priority_ne_tab {body : List CodePoint} : priority body ≠ .error (.tab column) :=
  bind_ne_error priorityTokens_ne_tab fun _ => pure_ne_error

theorem assignmentTokens_ne_tab {seen : List PolicyKind} {ws : List (List CodePoint)} :
    assignmentTokens seen ws ≠ .error (.tab column) := by
  fun_induction assignmentTokens seen ws with
  | case1 | case2 | case3 | case4 | case5 => simp
  | case6 =>
    rename_i ih
    exact bind_ne_error ih fun _ => pure_ne_error

theorem criterion_ne_tab {group : List CodePoint} : criterion group ≠ .error (.tab column) := by
  unfold criterion
  split
  · simp
  · simp
  · exact bind_ne_error attributeOf_ne_tab fun _ => pure_ne_error

theorem ruleParts_ne_tab {text : List CodePoint} : ruleParts text ≠ .error (.tab column) := by
  unfold ruleParts
  split
  · simp
  · refine bind_ne_error (fun h => ?_) fun cs =>
      bind_ne_error assignmentTokens_ne_tab fun a => ?_
    · obtain ⟨group, -, hg⟩ := exists_of_mapM_eq_error h
      exact criterion_ne_tab hg
    · split <;> simp

theorem checkTabs_of_add {d : Draft} {n : ℤ} (h : d.add n line = .error (.tab column)) :
    checkTabs line = .error (.tab column) := by
  rw [Draft.add, bind_eq_error_iff] at h
  refine h.resolve_right ?_
  rintro ⟨_, -, h⟩
  split at h
  · exact pure_ne_error h
  · exact bind_ne_error priority_ne_tab (fun _ => pure_ne_error) h
  · split at h
    · simp at h
    · exact bind_ne_error assignmentTokens_ne_tab (fun _ => pure_ne_error) h
  · exact bind_ne_error ruleParts_ne_tab (fun _ => pure_ne_error) h

end Tabs

section Lines

variable {d : Draft} {n : ℤ} {ls : List (List CodePoint)} {e : RulesError}

theorem addLines_append (d : Draft) (n : ℤ) (xs ys : List (List CodePoint)) :
    d.addLines n (xs ++ ys) = d.addLines n xs >>= fun d' => d'.addLines (n + xs.length) ys := by
  induction xs generalizing d n with
  | nil => simp [Draft.addLines]
  | cons x xs ih =>
    rw [List.cons_append, Draft.addLines, Draft.addLines]
    cases d.add n x with
    | error fault => rfl
    | ok d' =>
      have hn : n + 1 + xs.length = n + (x :: xs).length := by
        rw [List.length_cons]
        omega
      simp only [ih, hn]

theorem addLines_eq_error_iff : d.addLines n ls = .error e ↔
    ∃ before line after d', ls = before ++ line :: after ∧ d.addLines n before = .ok d' ∧
      d'.add (n + before.length) line = .error e.fault ∧ e.line = some (n + before.length) := by
  constructor
  · intro h
    induction ls generalizing d n with
    | nil => cases h
    | cons l ls ih =>
      rw [Draft.addLines] at h
      cases hl : d.add n l with
      | error fault =>
        rw [hl] at h
        obtain rfl := Except.error.inj h
        exact ⟨[], l, ls, d, rfl, rfl, by simpa using hl, by simp⟩
      | ok d₁ =>
        rw [hl] at h
        obtain ⟨before, line, after, d', rfl, hb, hadd, hline⟩ := ih h
        have hn : n + 1 + before.length = n + (l :: before).length := by
          rw [List.length_cons]
          omega
        rw [hn] at hadd hline
        exact ⟨l :: before, line, after, d', rfl, by simpa [Draft.addLines, hl] using hb, hadd,
          hline⟩
  · rintro ⟨before, line, after, d', rfl, hb, hadd, hline⟩
    rw [addLines_append, hb, ok_bind, Draft.addLines, hadd, ← hline]

end Lines

section Read

variable {text : Text} {e : RulesError}

/-- There is no fallback, or the fallback leaves a kind out. -/
def LacksFallback (fault : RulesFault) : Prop :=
  fault = .fallbackMissing ∨ ∃ kind, fault = .fallbackWithout kind

theorem fallback_of_table_eq_error {d : Draft} (h : d.table = .error e) :
    e = { fault := .fallbackMissing, line := none } ∨ ∃ kind, e.fault = .fallbackWithout kind := by
  unfold Draft.table at h
  split at h
  · exact .inl (Except.error.inj h).symm
  · unfold RuleTable.make at h
    split at h
    · obtain rfl := Except.error.inj h
      exact .inr ⟨_, rfl⟩
    · cases h

theorem lacksFallback_of_table {d : Draft} (h : d.table = .error e) : LacksFallback e.fault := by
  obtain rfl | hk := fallback_of_table_eq_error h
  · exact .inl rfl
  · exact .inr hk

theorem read_eq_error_iff : read text = .error e ↔
    Draft.addLines {} 1 (lines text.toList) = .error e ∨
      ∃ d, Draft.addLines {} 1 (lines text.toList) = .ok d ∧ d.table = .error e := bind_eq_error_iff

/-- An error is about the line at a place of a rules text, counted from zero. -/
structure PointsAt (e : RulesError) (text : Text) (k : ℕ) : Prop where
  number : e.line = some ((k : ℤ) + 1)
  /-- The lines up to this one decide. -/
  decided : ∀ other : Text,
    (lines other.toList).take (k + 1) = (lines text.toList).take (k + 1) → read other = .error e
  /-- The lines before are without fault, though there may be no fallback among them. -/
  faultless : ∀ other : Text, lines other.toList = (lines text.toList).take k →
    (∃ t, read other = .ok t) ∨ ∃ e', read other = .error e' ∧ LacksFallback e'.fault
  separable : ∃ other : Text, lines other.toList = (lines text.toList).take k
  /-- The column after the first tab of the line is reported, counted from one. -/
  tab : ∀ column, e.fault = .tab column →
    (∃ before after, (lines text.toList)[k]? = some (before ++ .char '\t' :: after) ∧
      .char '\t' ∉ before ∧ column = (before.length + 1) + 1) ∧
    ∀ l ∈ (lines text.toList).take k, .char '\t' ∉ l

/-- The error of a rules text with a line number, unless it is about what the fallback leaves out,
points at the first line that cannot be taken in. -/
theorem error_points_at_first_fault {n : ℤ} (h : read text = .error e) (hn : e.line = some n)
    (hf : ∀ kind, e.fault ≠ .fallbackWithout kind) : ∃ k, PointsAt e text k := by
  have hlines : Draft.addLines {} 1 (lines text.toList) = .error e := by
    refine (read_eq_error_iff.mp h).resolve_right ?_
    rintro ⟨d, -, ht⟩
    obtain rfl | ⟨kind, hk⟩ := fallback_of_table_eq_error ht
    · cases hn
    · exact hf kind hk
  obtain ⟨before, line, after, d, hls, hb, hadd, hline⟩ := addLines_eq_error_iff.mp hlines
  have htake : (lines text.toList).take before.length = before := by simp [hls]
  have htake' : (lines text.toList).take (before.length + 1) = before ++ [line] := by
    rw [hls, List.take_length_add_append]
    rfl
  refine ⟨before.length, ?_, fun other ho => ?_, fun other ho => ?_, ?_, fun column hc => ⟨?_, ?_⟩⟩
  · rw [hline, Int.add_comm]
  · refine read_eq_error_iff.mpr (.inl (addLines_eq_error_iff.mpr ?_))
    refine ⟨before, line, (lines other.toList).drop (before.length + 1), d, ?_, hb, hadd, hline⟩
    have hsplit := (List.take_append_drop (before.length + 1) (lines other.toList)).symm
    rwa [ho, htake', List.append_assoc, List.singleton_append] at hsplit
  · rw [htake] at ho
    have hread : read other = d.table := by rw [read, ofLines, ho, hb, ok_bind]
    cases ht : d.table with
    | ok t => exact .inl ⟨t, hread.trans ht⟩
    | error e' => exact .inr ⟨e', hread.trans ht, lacksFallback_of_table ht⟩
  · exact exists_lines_eq fun l hl x hx =>
      endsLine_of_mem_lines (List.mem_of_mem_take hl) hx
  · rw [hc] at hadd
    obtain ⟨start, rest, rfl, hs, he⟩ := checkTabs_eq_error_iff.mp (checkTabs_of_add hadd)
    exact ⟨start, rest, by simp [hls], hs, RulesFault.tab.inj he⟩
  · rw [htake]
    exact ((addLines_eq_ok_iff (k := 1)).mp hb).noTab

def tabbed : Text :=
  ("priority: g # +\n" ++ "m book: l a\n" ++ "m dvd:\tl a\n" ++ "m: x" : String)

theorem error_points_at_first_fault_of_tabbed :
    read tabbed = .error { fault := .tab 8, line := some 3 } ∧
      ∃ k, PointsAt { fault := .tab 8, line := some 3 } tabbed k := by
  have h : read tabbed = .error { fault := .tab 8, line := some 3 } := by decide +kernel
  exact ⟨h, error_points_at_first_fault h rfl (by simp)⟩

end Read

end Lending.RulesText
