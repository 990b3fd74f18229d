/-! # Texts

A text is made of characters. Half of a surrogate pair that stands alone may be part of a text too,
though it is no character, and no bytes can be written for it.
-/

namespace Lending

/-- A character, or a lone half of a surrogate pair: the halves are numbered from the first one. -/
inductive CodePoint where
  | char (c : Char)
  | half (n : Fin 0x800)
deriving DecidableEq, Repr, Inhabited

namespace CodePoint

instance : Coe Char CodePoint := ⟨char⟩

def firstHalf : Nat := 0xd800

def toNat : CodePoint → Nat
  | char c => c.toNat
  | half n => firstHalf + n

def ofNat (n : Nat) : CodePoint :=
  if h : firstHalf ≤ n ∧ n - firstHalf < 0x800 then half ⟨n - firstHalf, h.2⟩
  else char (Char.ofNat n)

def char? : CodePoint → Option Char
  | char c => some c
  | half _ => none

/-- Is it a character of a kind? A half is of no kind. -/
def is (x : CodePoint) (kind : Char → Bool) : Bool := x.char?.any kind

def mapChar (f : Char → Char) : CodePoint → CodePoint
  | char c => char (f c)
  | half n => half n

end CodePoint

structure Text where
  ofList ::
  toList : List CodePoint
deriving DecidableEq, Repr, Inhabited

namespace Text

def ofChars (cs : List Char) : Text := ofList (cs.map .char)

def ofString (s : String) : Text := ofChars s.toList

instance : Coe String Text := ⟨ofString⟩

instance : Append Text := ⟨fun s t => ofList (s.toList ++ t.toList)⟩

/-- Code points as characters, where none of them is a half. -/
def charsOf? (xs : List CodePoint) : Option (List Char) := xs.mapM CodePoint.char?

def chars? (t : Text) : Option (List Char) := charsOf? t.toList

def string? (t : Text) : Option String := t.chars?.map String.ofList

def isWhole (t : Text) : Bool := t.toList.all (·.is fun _ => true)

def numbers (t : Text) : List Nat := t.toList.map CodePoint.toNat

end Text

end Lending
