import Mathlib
import Lending.Text.LowerCase

/-! # Small letters in ASCII

A small letter is in ASCII only where the letter itself is, or is the Kelvin sign. So what a text
looks like in small letters is a word in ASCII only if that can be read off letter by letter.
-/

namespace Lending.Text

section Letters

variable {c : Char}

theorem isUpper_iff : c.isUpper ↔ 0x41 ≤ c.toNat ∧ c.toNat ≤ 0x5a := by
  rw [Char.isUpper, decide_eq_true_eq]
  exact Iff.rfl

theorem toLower_of_beyond (hc : 128 ≤ c.toNat) : c.toLower = c := by
  refine Char.toLower_eq_of_not_isUpper fun h => ?_
  have hz := (isUpper_iff.mp h).2
  omega

theorem apply_toLower {β : Type*} {f : Char → β}
    (h : ∀ n : Fin 128, f (Char.ofNat n).toLower = f (Char.ofNat n)) (c : Char) :
    f c.toLower = f c := by
  by_cases hc : c.toNat < 128
  · simpa using h ⟨c.toNat, hc⟩
  · rw [toLower_of_beyond (Nat.not_lt.mp hc)]

/-- The capital letters of a stretch are the ASCII ones, or they lie beyond and so do their small
letters, but for the Kelvin sign. -/
theorem capitalRanges_cases : ∀ r ∈ capitalRanges, r = (0x41, 0x5a, 32) ∨
    0x80 ≤ r.1 ∧ (r = (0x212a, 0x212a, -8383) ∨
      0x80 ≤ r.1 + r.2.2 ∧ (r.2.1 + r.2.2 < 0xd800 ∨
        0xe000 ≤ r.1 + r.2.2 ∧ r.2.1 + r.2.2 < 0x110000)) := by
  decide +kernel

theorem alternatingRanges_bounds : ∀ r ∈ alternatingRanges, 0x80 ≤ r.1 ∧ r.2 < 0xd7ff := by
  decide

theorem small_cases (c : Char) :
    (∃ r ∈ capitalRanges, r.1 ≤ c.toNat ∧ c.toNat ≤ r.2.1 ∧
      small c = Char.ofNat (c.toNat + r.2.2).toNat) ∨
    (∀ r ∈ capitalRanges, ¬ (r.1 ≤ c.toNat ∧ c.toNat ≤ r.2.1)) ∧
      ((∃ r ∈ alternatingRanges, r.1 ≤ c.toNat ∧ c.toNat ≤ r.2 ∧
        small c = Char.ofNat (c.toNat + 1)) ∨ small c = c) := by
  unfold small
  dsimp only
  split
  next first last shift h =>
    obtain ⟨hf, hl⟩ : first ≤ c.toNat ∧ c.toNat ≤ last := by simpa using List.find?_some h
    exact .inl ⟨(first, last, shift), List.mem_of_find?_eq_some h, hf, hl, rfl⟩
  next h =>
    refine .inr ⟨by simpa using List.find?_eq_none.mp h, ?_⟩
    split
    next ha =>
      obtain ⟨r, hr, ha⟩ := List.any_eq_true.mp ha
      simp only [Bool.and_eq_true, decide_eq_true_eq] at ha
      exact .inl ⟨r, hr, ha.1.1, ha.1.2, rfl⟩
    next => exact .inr rfl

theorem small_of_ascii (hc : c.toNat < 128) : small c = c.toLower := by
  rcases small_cases c with ⟨r, hr, hf, hl, hs⟩ | ⟨hn, ⟨r, hr, hf, -, -⟩ | hs⟩
  · obtain rfl | ⟨h0, -⟩ := capitalRanges_cases r hr
    · rw [hs, Char.toLower_eq_of_isUpper (isUpper_iff.mpr ⟨hf, hl⟩)]
      rfl
    · omega
  · have h0 := (alternatingRanges_bounds r hr).1
    omega
  · have hu : ¬ c.isUpper := fun hu => hn (0x41, 0x5a, 32) List.mem_cons_self (isUpper_iff.mp hu)
    rw [hs, Char.toLower_eq_of_not_isUpper hu]

theorem small_beyond (hc : 128 ≤ c.toNat) (hk : c ≠ '\u212a') : 128 ≤ (small c).toNat := by
  rcases small_cases c with ⟨r, hr, hf, hl, hs⟩ | ⟨-, ⟨r, hr, -, hl, hs⟩ | hs⟩
  · obtain rfl | ⟨-, rfl | ⟨h0, h⟩⟩ := capitalRanges_cases r hr
    · exact absurd (Nat.le_trans hc hl) (by decide)
    · have hn : c.toNat = '\u212a'.toNat := Nat.le_antisymm hl hf
      exact absurd (Char.toNat_inj.mp hn) hk
    · rw [hs, Char.toNat_ofNat, if_pos (by omega)]
      omega
  · have h := (alternatingRanges_bounds r hr).2
    rw [hs, Char.toNat_ofNat, if_pos (by omega)]
    omega
  · rwa [hs]

end Letters

section Words

variable {cs w : List Char}

/-- A letter has its small letter in its place, or what it has there and its small letter are both
beyond ASCII. -/
theorem lowerFrom_cons (before : List Char) (c : Char) (cs : List Char) :
    lowerFrom before (c :: cs) = small c :: lowerFrom (c :: before) cs ∨
    128 ≤ (small c).toNat ∧ ∃ a ∈ lowerFrom before (c :: cs), 128 ≤ a.toNat := by
  rw [lowerFrom]
  -- Only the dotted I and the sigma at the end of a word have something else.
  split
  next h =>
    subst h
    exact .inr ⟨by decide, '\u0307', by simp, by decide⟩
  next =>
    split
    next h =>
      obtain rfl : c = '\u03a3' := by
        simp only [Bool.and_eq_true, decide_eq_true_eq] at h
        exact h.1.1
      exact .inr ⟨by decide, '\u03c2', by simp, by decide⟩
    next => exact .inl rfl

theorem lowerFrom_eq_iff (hw : ∀ a ∈ w, a.toNat < 128) (before : List Char) :
    lowerFrom before cs = w ↔ cs.map small = w := by
  induction cs generalizing before w with
  | nil => rfl
  | cons c cs ih =>
    rw [List.map_cons]
    rcases lowerFrom_cons before c cs with h | ⟨hs, a, ha, hn⟩
    · rw [h]
      cases w with
      | nil => simp
      | cons a w => rw [List.cons.injEq, List.cons.injEq, ih (List.forall_mem_cons.mp hw).2]
    · refine iff_of_false (fun h => ?_) fun h => ?_
      · exact absurd (hw a (h ▸ ha)) (Nat.not_lt.mpr hn)
      · exact absurd (hw (small c) (h ▸ List.mem_cons_self)) (Nat.not_lt.mpr hs)

/-- A text is a word of ASCII letters in small letters exactly if it is letter by letter. -/
theorem lowerCase_eq_iff (hw : ∀ a ∈ w, a.toNat < 128) : lowerCase cs = w ↔ cs.map small = w :=
  lowerFrom_eq_iff hw []

end Words

end Lending.Text
