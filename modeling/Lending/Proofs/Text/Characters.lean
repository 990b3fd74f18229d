import Lending.Text.Basic
import Mathlib.Data.List.Basic

/-! # Texts made of characters

A text has characters where it holds no half of a surrogate pair, and then these spell it.
-/

namespace Lending.Text

variable {t : Text} {cs : List Char} {xs : List CodePoint}

theorem charsOf?_char_cons (c : Char) (xs : List CodePoint) :
    charsOf? (.char c :: xs) = (charsOf? xs).map (c :: ·) := by
  rw [charsOf?, List.mapM_cons, charsOf?]
  cases xs.mapM CodePoint.char? <;> rfl

theorem charsOf?_half_cons (n : Fin 0x800) (xs : List CodePoint) :
    charsOf? (.half n :: xs) = none := by
  rw [charsOf?, List.mapM_cons]
  rfl

theorem charsOf?_eq_some_iff : charsOf? xs = some cs ↔ xs = cs.map .char := by
  induction xs generalizing cs with
  | nil => cases cs <;> simp [charsOf?]
  | cons x xs ih =>
    cases x with
    | char c => cases cs <;> simp [charsOf?_char_cons, ih, and_comm]
    | half n => cases cs <;> simp [charsOf?_half_cons]

theorem chars?_eq_some_iff : t.chars? = some cs ↔ t = ofChars cs := by
  rw [chars?, charsOf?_eq_some_iff]
  cases t
  simp [ofChars]

theorem chars?_ofChars (cs : List Char) : (ofChars cs).chars? = some cs :=
  chars?_eq_some_iff.mpr rfl

theorem charsOf?_append (xs ys : List CodePoint) :
    charsOf? (xs ++ ys) = (charsOf? xs).bind fun cs => (charsOf? ys).map (cs ++ ·) := by
  induction xs with
  | nil => simp [charsOf?]
  | cons x xs ih =>
    cases x with
    | char c =>
      rw [List.cons_append, charsOf?_char_cons, charsOf?_char_cons, ih]
      cases charsOf? xs <;> simp [Function.comp_def]
    | half n => rfl

theorem chars?_between (before after : List Char) (t : Text) :
    (ofChars before ++ t ++ ofChars after).chars? =
      t.chars?.map fun cs => before ++ cs ++ after := by
  change charsOf? (before.map .char ++ t.toList ++ after.map .char) = (charsOf? t.toList).map _
  rw [charsOf?_append, charsOf?_append, charsOf?_eq_some_iff.mpr rfl, charsOf?_eq_some_iff.mpr rfl]
  cases charsOf? t.toList <;> simp

theorem charsOf?_map_mapChar (f : Char → Char) (xs : List CodePoint) :
    charsOf? (xs.map (·.mapChar f)) = (charsOf? xs).map (·.map f) := by
  induction xs with
  | nil => rfl
  | cons x xs ih =>
    cases x with
    | char c =>
      rw [List.map_cons, CodePoint.mapChar, charsOf?_char_cons, charsOf?_char_cons, ih]
      simp [Function.comp_def]
    | half n =>
      rw [List.map_cons, CodePoint.mapChar, charsOf?_half_cons, charsOf?_half_cons]
      rfl

end Lending.Text
