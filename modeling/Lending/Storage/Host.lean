import Lending.Storage.HostName
import Lending.Text.Digit
import Lending.Text.Percent

/-! # Hosts

The host of an address: four numbers, eight groups of hexadecimal digits in brackets, or a name.
-/

namespace Lending.Host

/-! ## Four numbers -/

/-- Four stretches of digits with points between them. -/
def looksNumbered (cs : List Char) : Bool :=
  let runs := Text.pieces (· == '.') cs
  runs.length == 4 && runs.all fun ds => !ds.isEmpty && ds.all Char.isDigit

/-- A number up to 255 without zeros in front. -/
def isOctet (cs : List Char) : Bool :=
  !cs.isEmpty && cs.all Char.isDigit && cs.length ≤ 3 && (cs == ['0'] || cs.head? != some '0') &&
    Text.ofDigits (cs.filterMap Text.asciiDigit?) ≤ 255

def isNumbered (cs : List Char) : Bool :=
  let octets := Text.pieces (· == '.') cs
  octets.length == 4 && octets.all isOctet

/-! ## Groups in brackets -/

def isGroup (cs : List Char) : Bool :=
  !cs.isEmpty && cs.length ≤ 4 && cs.all fun c => (Text.hexValue? c).isSome

/-- The last two groups may be written as four numbers. -/
def expanded? (groups : List (List Char)) : Option (List (List Char)) :=
  match groups.getLast? with
  | none => none
  | some last =>
    if !last.contains '.' then some groups
    else if isNumbered last then some (groups.dropLast ++ [['0'], ['0']])
    else none

/-- The groups before or after the gap, where an empty one may only stand for their lack. -/
def sideCount? (groups : List (List Char)) : Option Nat :=
  if groups = [[]] then some 0
  else if groups.all isGroup then some groups.length
  else none

/-- Eight groups, or fewer with one gap: an empty group that is neither the first nor the last. -/
def areGroups (groups : List (List Char)) : Bool :=
  let inner := groups.tail.dropLast
  if 9 < groups.length ∨ groups.length < 3 ∨ 1 < inner.count [] then false
  else if !inner.contains [] then groups.length == 8 && groups.all isGroup
  else
    let before := groups.head?.toList ++ inner.takeWhile (· != [])
    let after := (inner.dropWhile (· != [])).tail ++ groups.getLast?.toList
    match sideCount? before, sideCount? after with
    | some m, some n => m + n < 8
    | _, _ => false

def areWritten (cs : List Char) : Bool :=
  let groups := Text.pieces (· == ':') cs
  3 ≤ groups.length && (expanded? groups).any areGroups

/-- What may stand between brackets: groups, and the name of a scope, which may be any text. -/
def isGrouped (xs : List CodePoint) : Bool :=
  let (groups, scope) := Text.cutAt (· == .char '%') xs
  let scopeFits := match scope with
    | none => true
    | some name => !name.isEmpty && !name.contains '%'
  scopeFits && !xs.contains '/' && (Text.charsOf? groups).any areWritten

/-! ## Hosts -/

def isNameSafe (c : Char) : Bool :=
  c.isAlphanum || ['-', '.', '_', '~', '!', '$', '&', '\x27', '(', ')', '*', '+', ',', ';', '=',
    '"', '\x60', '\x7b', '\x7d', '%', '|', '\\'].contains c

/-- A name, or four numbers, in small letters and encoded. -/
def plain? (cs : List Char) : Option (List Char) :=
  if cs.isEmpty then some []
  else if looksNumbered cs then if isNumbered cs then some cs else none
  else if HostName.isAscii cs then some (Text.percentEncode isNameSafe (cs.map Char.toLower))
  else (HostName.encoded cs).toOption

def ofText? (xs : List CodePoint) : Option (List CodePoint) :=
  if xs.head? = some (.char '[') ∧ xs.getLast? = some (.char ']') ∧ 2 ≤ xs.length then
    let inner := xs.tail.dropLast
    if isGrouped inner then some inner else none
  else do return (← plain? (← Text.charsOf? xs)).map .char

def shown (host : List CodePoint) : List CodePoint :=
  if host.contains ':' then .char '[' :: host ++ [.char ']'] else host

end Lending.Host
