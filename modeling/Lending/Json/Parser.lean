import Lending.Json.Basic
import Lending.Text.Blank
import Lending.Text.Digit
import Lending.Text.Wide

/-! # Reading JSON

A JSON text becomes a value, or the first place where it is wrong and why.
-/

namespace Lending.Json

inductive Defect where
  | value
  | nameQuote
  | colon
  | comma
  | extraData
  | unterminated
  | controlCharacter
  | escape
  | unicodeEscape
  | tooManyDigits (count : Nat)
  | tooDeep
deriving DecidableEq, Repr

def Defect.text : Defect → String
  | .value => "Expecting value"
  | .nameQuote => "Expecting property name enclosed in double quotes"
  | .colon => "Expecting ':' delimiter"
  | .comma => "Expecting ',' delimiter"
  | .extraData => "Extra data"
  | .unterminated => "Unterminated string starting at"
  | .controlCharacter => "Invalid control character at"
  | .escape => "Invalid \\escape"
  | .unicodeEscape => "Invalid \\uXXXX escape"
  | .tooManyDigits count => s!"Number of {count} digits"
  | .tooDeep => "Too many lists and objects within each other"

/-- A defect and how many characters were left of the text where it shows. -/
structure Fault where
  defect : Defect
  left : Nat
deriving DecidableEq, Repr

/-- What was read and the text after it. -/
abbrev Reading (α : Type) := α × List CodePoint

def isSpace (c : CodePoint) : Bool := c == ' ' || c == '\t' || c == '\n' || c == '\r'

def skipSpace (cs : List CodePoint) : List CodePoint := cs.dropWhile isSpace

def hexDigit? (c : CodePoint) : Option Nat := c.char?.bind Text.hexValue?

/-- Four hexadecimal digits that do not end the text. -/
def fourHex? : List CodePoint → Option (Nat × List CodePoint)
  | a :: b :: c :: d :: e :: cs => do
    let high := (← hexDigit? a) * 16 + (← hexDigit? b)
    return ((high * 16 + (← hexDigit? c)) * 16 + (← hexDigit? d), e :: cs)
  | _ => none

def simpleEscape? : CodePoint → Option Char
  | .char '"' => some '"'
  | .char '\\' => some '\\'
  | .char '/' => some '/'
  | .char 'b' => some '\x08'
  | .char 'f' => some '\x0c'
  | .char 'n' => some '\n'
  | .char 'r' => some '\r'
  | .char 't' => some '\t'
  | _ => none

def lowSurrogate? : List CodePoint → Option (Nat × List CodePoint)
  | .char '\\' :: .char 'u' :: cs =>
    match fourHex? cs with
    | some (n, rest) => if Text.Wide.isLow n then some (n, rest) else none
    | none => none
  | _ => none

/-- The rest of a string whose first character is that of `start`, its characters so far in reverse.
-/
def stringRest (start : List CodePoint) :
    Nat → List CodePoint → List CodePoint → Except Fault (Reading Text)
  | 0, _, _ => .error ⟨.unterminated, start.length + 1⟩
  | _, _, [] => .error ⟨.unterminated, start.length + 1⟩
  | _ + 1, acc, .char '"' :: cs => .ok (Text.ofList acc.reverse, cs)
  | fuel + 1, acc, .char '\\' :: cs =>
    match cs with
    | [] => .error ⟨.unterminated, start.length + 1⟩
    | .char 'u' :: rest =>
      match fourHex? rest with
      | none => .error ⟨.unicodeEscape, rest.length + 1⟩
      | some (n, rest) =>
        match (if Text.Wide.isHigh n then lowSurrogate? rest else none) with
        | some (m, rest) => stringRest start fuel (Text.Wide.ofPair n m :: acc) rest
        | none => stringRest start fuel (CodePoint.ofNat n :: acc) rest
    | c :: rest =>
      match simpleEscape? c with
      | some e => stringRest start fuel (e :: acc) rest
      | none => .error ⟨.escape, rest.length + 2⟩
  | fuel + 1, acc, c :: cs =>
    if c.toNat < 0x20 then .error ⟨.controlCharacter, cs.length + 1⟩
    else stringRest start fuel (c :: acc) cs

def string (fuel : Nat) (cs : List CodePoint) : Except Fault (Reading Text) :=
  stringRest cs fuel [] cs

def isDigit (c : CodePoint) : Bool := c.is Char.isDigit

def digitsOf (ds : List CodePoint) : Nat :=
  Text.ofDigits (ds.filterMap fun d => d.char?.bind Text.asciiDigit?)

/-- A number as it is written: the digits before and after the point, and the power of ten. -/
structure Numeral where
  negative : Bool
  whole : List CodePoint
  places : List CodePoint
  power : Option Int

def places (cs : List CodePoint) : List CodePoint × List CodePoint :=
  match cs with
  | .char '.' :: rest =>
    let ds := rest.takeWhile isDigit
    if ds.isEmpty then ([], cs) else (ds, rest.dropWhile isDigit)
  | cs => ([], cs)

def power (cs : List CodePoint) : Option Int × List CodePoint :=
  match cs with
  | [] => (none, [])
  | e :: rest =>
    let (minus, rest) := match rest with
      | .char '-' :: ds => (true, ds)
      | .char '+' :: ds => (false, ds)
      | ds => (false, ds)
    let ds := rest.takeWhile isDigit
    if (e = 'e' ∨ e = 'E') ∧ !ds.isEmpty then
      let value : Int := if minus then -(digitsOf ds : Int) else digitsOf ds
      (some value, rest.dropWhile isDigit)
    else (none, cs)

/-- A number after its sign; `none` where no number stands. -/
def numeral? (negative : Bool) (cs : List CodePoint) : Option (Numeral × List CodePoint) :=
  let (whole, rest) : List CodePoint × List CodePoint := match cs with
    | .char '0' :: rest => ([.char '0'], rest)
    | cs => (cs.takeWhile isDigit, cs.dropWhile isDigit)
  if whole.isEmpty then none else
    let (places, rest) := places rest
    let (power, rest) := power rest
    some ({ negative, whole, places, power }, rest)

def Numeral.isInteger (n : Numeral) : Bool := n.places.isEmpty && n.power.isNone

/-- A number without a point and a power of ten is an integer, any other one a double. -/
def Numeral.value (n : Numeral) : Json :=
  if n.isInteger then
    .int (if n.negative then -(digitsOf n.whole : Int) else digitsOf n.whole)
  else
    let power := n.power.getD 0 - n.places.length
    .real (.ofDecimal n.negative (digitsOf (n.whole ++ n.places)) power)

def wordValues : List (String × Json) :=
  [("null", null), ("true", bool true), ("false", bool false), ("NaN", real .nan),
   ("Infinity", real (.infinite false)), ("-Infinity", real (.infinite true))]

def word? (cs : List CodePoint) : Option (Json × List CodePoint) :=
  wordValues.findSome? fun (w, v) =>
    (Text.afterStart (Text.ofString w).toList cs).map fun rest => (v, rest)

def plain (cs : List CodePoint) : Except Fault (Reading Json) :=
  match word? cs with
  | some found => .ok found
  | none =>
    let number := match cs with
      | .char '-' :: rest => numeral? true rest
      | cs => numeral? false cs
    match number with
    | none => .error ⟨.value, cs.length⟩
    | some (n, rest) =>
      if n.isInteger && Text.greatestLength < n.whole.length then
        .error ⟨.tooManyDigits n.whole.length, rest.length⟩
      else .ok (n.value, rest)

/-- The most lists and objects that may stand within each other. Calls may go a thousand deep, and
some fifty of them lead up to the reading of a text. -/
def greatestDepth : Nat := 950

mutual

/-- A value at the start of the text, with room for so many lists and objects within each other. -/
def value : Nat → Nat → List CodePoint → Except Fault (Reading Json)
  | 0, _, cs => .error ⟨.value, cs.length⟩
  | fuel + 1, room, cs =>
    match room, cs with
    | _, .char '"' :: rest => do let (s, rest) ← string (fuel + 1) rest; return (str s, rest)
    | 0, .char '[' :: rest | 0, .char '\x7b' :: rest => .error ⟨.tooDeep, rest.length + 1⟩
    | room + 1, .char '[' :: rest =>
      match skipSpace rest with
      | .char ']' :: rest => .ok (arr [], rest)
      | rest => do let (items, rest) ← itemList fuel room rest; return (arr items, rest)
    | room + 1, .char '\x7b' :: rest =>
      match skipSpace rest with
      | .char '\x7d' :: rest => .ok (obj [], rest)
      | rest => do let (members, rest) ← memberList fuel room rest; return (ofMembers members, rest)
    | _, cs => plain cs

def itemList : Nat → Nat → List CodePoint → Except Fault (Reading (List Json))
  | 0, _, cs => .error ⟨.value, cs.length⟩
  | fuel + 1, room, cs => do
    let (item, rest) ← value fuel room cs
    match skipSpace rest with
    | .char ']' :: rest => return ([item], rest)
    | .char ',' :: rest => do
      let (items, rest) ← itemList fuel room (skipSpace rest)
      return (item :: items, rest)
    | rest => .error ⟨.comma, rest.length⟩

def memberList : Nat → Nat → List CodePoint → Except Fault (Reading (List (Text × Json)))
  | 0, _, cs => .error ⟨.nameQuote, cs.length⟩
  | fuel + 1, room, cs =>
    match cs with
    | .char '"' :: rest => do
      let (name, rest) ← string (fuel + 1) rest
      match skipSpace rest with
      | .char ':' :: rest => do
        let (item, rest) ← value fuel room (skipSpace rest)
        match skipSpace rest with
        | .char '\x7d' :: rest => return ([(name, item)], rest)
        | .char ',' :: rest => do
          let (members, rest) ← memberList fuel room (skipSpace rest)
          return ((name, item) :: members, rest)
        | rest => .error ⟨.comma, rest.length⟩
      | rest => .error ⟨.colon, rest.length⟩
    | cs => .error ⟨.nameQuote, cs.length⟩

end

/-- A defect with its line, column and offset in the text, the first two counted from one. -/
def describe (cs : List CodePoint) (fault : Fault) : String :=
  let offset := cs.length - fault.left
  let before := cs.take offset
  let line := before.count (.char '\n') + 1
  let column := (before.reverse.takeWhile (· != .char '\n')).length + 1
  s!"{fault.defect.text}: line {line} column {column} (char {offset})"

def ofCodePoints (cs : List CodePoint) : Except Fault Json := do
  let (v, rest) ← value (2 * cs.length + 2) greatestDepth (skipSpace cs)
  match skipSpace rest with
  | [] => return v
  | rest => .error ⟨.extraData, rest.length⟩

end Lending.Json
