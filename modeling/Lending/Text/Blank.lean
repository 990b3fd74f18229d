import Lending.Text.Basic

/-! # Blank characters, lines and words

Cutting a text at its blanks, at its line ends, or wherever a given test holds.
-/

namespace Lending.Text

/-- The characters that separate words: the Unicode white space and the four information separators.
-/
def isBlank (c : Char) : Bool :=
  let n := c.toNat
  (0x09 ≤ n && n ≤ 0x0d) || (0x1c ≤ n && n ≤ 0x20) || n == 0x85 || n == 0xa0 || n == 0x1680 ||
    (0x2000 ≤ n && n ≤ 0x200a) || n == 0x2028 || n == 0x2029 || n == 0x202f || n == 0x205f ||
    n == 0x3000

/-- The blanks that may stand around an integer; the information separators may not. -/
def isMargin (c : Char) : Bool := isBlank c && !(0x1c ≤ c.toNat && c.toNat ≤ 0x1f)

/-- The characters that end a line; a carriage return takes a line feed after it along. -/
def isLineEnd (c : Char) : Bool :=
  let n := c.toNat
  (0x0a ≤ n && n ≤ 0x0d) || (0x1c ≤ n && n ≤ 0x1e) || n == 0x85 || n == 0x2028 || n == 0x2029

def onFirst (c : α) : List (List α) → List (List α)
  | [] => [[c]]
  | l :: ls => (c :: l) :: ls

/-- The lines of a text, without their ends; nothing follows the last line end. -/
def lines : List CodePoint → List (List CodePoint)
  | [] => []
  | .char '\r' :: .char '\n' :: cs => [] :: lines cs
  | c :: cs => if c.is isLineEnd then [] :: lines cs else onFirst c (lines cs)

def stripBy (p : α → Bool) (cs : List α) : List α :=
  ((cs.dropWhile p).reverse.dropWhile p).reverse

def strip (cs : List Char) : List Char := stripBy isBlank cs

/-- The stretches between the characters that satisfy `p`, empty ones included. -/
def pieces (p : α → Bool) : List α → List (List α)
  | [] => [[]]
  | c :: cs => if p c then [] :: pieces p cs else onFirst c (pieces p cs)

def joinWith (c : α) : List (List α) → List α
  | [] => []
  | [l] => l
  | l :: ls => l ++ c :: joinWith c ls

/-- The stretches between the characters that satisfy `p`, empty ones left out. -/
def words (p : α → Bool) (cs : List α) : List (List α) :=
  (pieces p cs).filter (!·.isEmpty)

/-- The part before the first character that satisfies `p`, and what follows that character. -/
def cutAt (p : α → Bool) : List α → List α × Option (List α)
  | [] => ([], none)
  | c :: cs => if p c then ([], some cs) else let (a, b) := cutAt p cs; (c :: a, b)

/-- What is left of a text after a given beginning, if it begins so. -/
def afterStart [DecidableEq α] : List α → List α → Option (List α)
  | [], cs => some cs
  | _ :: _, [] => none
  | p :: ps, c :: cs => if p = c then afterStart ps cs else none

end Lending.Text
