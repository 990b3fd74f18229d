import Lending.Json.Basic
import Lending.Text.Utf8
import Lending.Text.Visible

/-! # Writing JSON

The compact form, without blanks, and the form that a value takes inside a message or a path.
-/

namespace Lending.Json

def hexDigit (n : Nat) : Char := Char.ofNat (if n < 10 then 48 + n else 87 + n)

def hex (width n : Nat) : List Char :=
  let ds := Nat.toDigits 16 n
  List.replicate (width - ds.length) '0' ++ ds

def unit (n : Nat) : List Char := '\\' :: 'u' :: hex 4 n

def escapedChar (c : Char) : List Char :=
  if c = '"' then ['\\', '"']
  else if c = '\\' then ['\\', '\\']
  else if c = '\n' then ['\\', 'n']
  else if c = '\r' then ['\\', 'r']
  else if c = '\t' then ['\\', 't']
  else if c = '\x08' then ['\\', 'b']
  else if c = '\x0c' then ['\\', 'f']
  else if c.toNat < 0x20 then unit c.toNat
  else [c]

def escaped : CodePoint → List Char
  | .char c => escapedChar c
  | .half n => unit (CodePoint.half n).toNat

def quoted (s : Text) : List Char := '"' :: s.toList.flatMap escaped ++ ['"']

def doubleText : Double → String
  | .finite negative m e => (Double.finite negative m e).text
  | .infinite negative => if negative then "-Infinity" else "Infinity"
  | .nan => "NaN"

mutual

/-- A value without blanks; only quotes, backslashes, control characters and lone halves of pairs
are escaped. -/
def compact : Json → List Char
  | null => "null".toList
  | bool b => (if b then "true" else "false").toList
  | int n => (toString n).toList
  | real x => (doubleText x).toList
  | str s => quoted s
  | arr items => '[' :: compactItems items ++ [']']
  | obj members => '\x7b' :: compactMembers members ++ ['\x7d']

def compactItems : List Json → List Char
  | [] => []
  | [x] => compact x
  | x :: xs => compact x ++ ',' :: compactItems xs

def compactMembers : List (Text × Json) → List Char
  | [] => []
  | [(n, x)] => quoted n ++ ':' :: compact x
  | (n, x) :: xs => quoted n ++ ':' :: compact x ++ ',' :: compactMembers xs

end

def bytes (v : Json) : List UInt8 := Text.Utf8.bytes v.compact

def inlineChar (quote c : Char) : List Char :=
  if c = quote ∨ c = '\\' then ['\\', c]
  else if c = '\n' then ['\\', 'n']
  else if c = '\r' then ['\\', 'r']
  else if c = '\t' then ['\\', 't']
  else if Text.isVisible c then [c]
  else if c.toNat < 0x100 then '\\' :: 'x' :: hex 2 c.toNat
  else if c.toNat < 0x10000 then unit c.toNat
  else '\\' :: 'U' :: hex 8 c.toNat

def inlineCodePoint (quote : Char) : CodePoint → List Char
  | .char c => inlineChar quote c
  | .half n => unit (CodePoint.half n).toNat

/-- A string inside a list or an object: in single quotes, unless it holds only such quotes. -/
def inlineQuoted (s : Text) : String :=
  let single := '\x27'
  let double := '"'
  let quote := if s.toList.contains single && !s.toList.contains double then double else single
  String.ofList (quote :: s.toList.flatMap (inlineCodePoint quote) ++ [quote])

mutual

def nested : Json → String
  | null => "None"
  | bool b => if b then "True" else "False"
  | int n => toString n
  | real x => x.text
  | str s => inlineQuoted s
  | arr items => "[" ++ nestedItems items ++ "]"
  | obj members => "\x7b" ++ nestedMembers members ++ "\x7d"

def nestedItems : List Json → String
  | [] => ""
  | [x] => nested x
  | x :: xs => nested x ++ ", " ++ nestedItems xs

def nestedMembers : List (Text × Json) → String
  | [] => ""
  | [(n, x)] => inlineQuoted n ++ ": " ++ nested x
  | (n, x) :: xs => inlineQuoted n ++ ": " ++ nested x ++ ", " ++ nestedMembers xs

end

/-- The text of a value inside a message or a path; a string stands as it is. -/
def inline : Json → Text
  | str s => s
  | v => nested v

end Lending.Json
