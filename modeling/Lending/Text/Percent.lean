import Lending.Text.Blank
import Lending.Text.Digit
import Lending.Text.Utf8

/-! # Percent encoding

Characters written as the hexadecimal numbers of their bytes, in paths and in query values.
-/

namespace Lending.Text

def upperHex (n : Nat) : Char := Char.ofNat (if n < 10 then 48 + n else 55 + n)

def percentChar (c : Char) : List Char :=
  (Utf8.bytesOf c).flatMap fun b => ['%', upperHex (b / 16), upperHex (b % 16)]

def percentEncode (safe : Char → Bool) (cs : List Char) : List Char :=
  cs.flatMap fun c => if safe c then [c] else percentChar c

def hexByte? (a b : Char) : Option Nat := do return (← hexValue? a) * 16 + (← hexValue? b)

def percentBytes : List Char → List Nat
  | [] => []
  | '%' :: a :: b :: cs =>
    match hexByte? a b with
    | some n => n :: percentBytes cs
    | none => Utf8.bytesOf '%' ++ percentBytes (a :: b :: cs)
  | c :: cs => Utf8.bytesOf c ++ percentBytes cs

def percentDecode (cs : List Char) : List Char := Utf8.decode (percentBytes cs)

def isPrintableBut (excluded : List Char) (c : Char) : Bool :=
  0x20 ≤ c.toNat && c.toNat < 0x7f && !excluded.contains c

def isPathSafe : Char → Bool :=
  isPrintableBut [' ', '"', '#', '<', '>', '?', '\x60', '\x7b', '\x7d']

def isUserSafe (c : Char) : Bool :=
  isPathSafe c && !(['/', ';', '=', '@', '[', '\\', ']', '^', '|'].contains c)

def isQuerySafe : Char → Bool := isPrintableBut [' ', '"', '#', '<', '>']

def isFragmentSafe : Char → Bool := isPrintableBut [' ', '"', '<', '>', '\x60']

/-- A value in a query: letters, digits and four marks stay, and a space becomes a plus. -/
def queryValue (cs : List Char) : List Char :=
  cs.flatMap fun c =>
    if c = ' ' then ['+']
    else if c.isAlphanum || c == '-' || c == '.' || c == '_' || c == '~' then [c]
    else percentChar c

/-- The names and values of a query, where a plus stands for a space; a value may be left out. -/
def queryPairs (cs : List Char) : List (Text × Text) :=
  let plain := fun (cs : List Char) =>
    Text.ofChars (percentDecode (cs.map fun c => if c = '+' then ' ' else c))
  (words (· == '&') cs).map fun pair =>
    let (name, value) := cutAt (· == '=') pair
    (plain name, plain (value.getD []))

end Lending.Text
