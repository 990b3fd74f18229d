import Lending.Text.Composition
import Lending.Text.Direction
import Lending.Text.Joining
import Lending.Text.LowerCase
import Lending.Text.NameLetter
import Lending.Text.Punycode
import Lending.Text.Script

/-! # Host names

The names of hosts, whose parts are written with the letters of any script, and their encoding in
ASCII.
-/

namespace Lending

/-- What can be wrong with a name: its form, one of its letters, a sign that does not go with the
letters around it, or the direction in which its letters are written. -/
inductive NameFault where
  | form
  | letter
  | sign
  | direction
deriving DecidableEq, Repr

namespace HostName

def greatestLength : Nat := 253

def greatestPartLength : Nat := 63

def isAscii (cs : List Char) : Bool := cs.all fun c => c.toNat < 0x80

def require (fits : Bool) (fault : NameFault) : Except NameFault Unit :=
  if fits then .ok () else .error fault

/-! ## Letters -/

def isJoiner (c : Char) : Bool := c == '\u200c' || c == '\u200d'

/-- Does a joiner fit between others? It stands after a mark that silences a vowel. The one that
keeps letters apart may also stand between two letters that would be joined. Nothing is known where
the character before it is unknown. The characters before it come in reverse. -/
def joinerFits? (c : Char) (before after : List Char) : Option Bool :=
  match before.head? with
  | none => some false
  | some d =>
    let parts := c == '\u200c' && (before.dropWhile Text.isTransparent).head?.any Text.joinsNext &&
      (after.dropWhile Text.isTransparent).head?.any Text.joinsPrevious
    if (Text.Direction.of? d).isNone then none
    else some (Text.combiningClass d == Text.silencingClass || parts)

def isArabicDigit (c : Char) : Bool := '\u0660' ≤ c && c ≤ '\u0669'

def isPersianDigit (c : Char) : Bool := '\u06f0' ≤ c && c ≤ '\u06f9'

/-- Does a sign that goes only with certain letters fit between others? A middle dot stands between
two letters l, a Greek sign before Greek, a Hebrew one after Hebrew, the dot between words among
Japanese letters, and there is one kind of Arabic digits. Of other signs nothing is known. -/
def signFits? (c : Char) (before after : List Char) : Option Bool :=
  if c = '\u00b7' then some (before.head? == some 'l' && after.head? == some 'l')
  else if c = '\u0375' then some (after.head?.any Text.greekRanges.has)
  else if c = '\u05f3' ∨ c = '\u05f4' then some (before.head?.any Text.hebrewRanges.has)
  else if c = '\u30fb' then
    some ((before ++ after).any fun d => d != c && Text.japaneseRanges.has d)
  else if isArabicDigit c then some (!(before ++ after).any isPersianDigit)
  else if isPersianDigit c then some (!(before ++ after).any isArabicDigit)
  else none

def checkLetter (c : Char) (before after : List Char) : Except NameFault Unit :=
  if Text.isNameLetter c then .ok ()
  else if isJoiner c then
    match joinerFits? c before after with
    | some fits => require fits .sign
    | none => .error .form
  else
    match signFits? c before after with
    | some fits => require fits .sign
    | none => .error .letter

def checkLetters (before : List Char) : List Char → Except NameFault Unit
  | [] => .ok ()
  | c :: cs => do
    checkLetter c before cs
    checkLetters (c :: before) cs

/-! ## Parts -/

/-- May a part of a name be written so? It is composed, hyphens stand within it, no mark begins it,
and it does not look encoded. -/
def checkPart (cs : List Char) : Except NameFault Unit := do
  require (!cs.isEmpty && cs.length ≤ greatestLength + 1) .form
  require (Text.isComposed cs) .form
  require ((cs.drop 2).take 2 != ['-', '-']) .form
  require (cs.head? != some '-' && cs.getLast? != some '-') .form
  require (!cs.head?.any Text.isMark) .form
  checkLetters [] cs
  match cs.mapM Text.Direction.of? with
  | some ds => require (Text.Direction.fit ds) .direction
  | none => .error .direction

/-- What a part of a name that is not ASCII begins with once it is encoded. -/
def encodedMark : List Char := "xn--".toList

/-- Check a part that is ASCII, and what it encodes, for which there is no other way to write it. -/
def checkAscii (cs : List Char) : Except NameFault Unit :=
  match Text.afterStart encodedMark cs with
  | none => checkPart cs
  | some rest =>
    match if rest.getLast? = some '-' then none else Text.Punycode.decode? rest with
    | none => .error .form
    | some decoded => do
      checkPart decoded
      require (Text.Punycode.encode decoded == rest) .form

def encodedPart (cs : List Char) : Except NameFault (List Char) := do
  let part ← if isAscii cs then do
      checkAscii cs
      pure cs
    else do
      checkPart cs
      pure (encodedMark ++ Text.Punycode.encode cs)
  require (part.length ≤ greatestPartLength) .form
  return part

/-! ## Names -/

def isPoint (c : Char) : Bool := ['.', '\u3002', '\uff0e', '\uff61'].contains c

/-- The parts of a name, and whether it ends with a point. -/
def partsOf (cs : List Char) : List (List Char) × Bool :=
  let parts := Text.pieces isPoint cs
  let endsOpen := parts.getLast? == some []
  (if endsOpen then parts.dropLast else parts, endsOpen)

def encoded (cs : List Char) : Except NameFault (List Char) := do
  let cs := Text.lowerCase cs
  require (cs.length ≤ greatestLength + 1) .form
  let (parts, endsOpen) := partsOf cs
  let name := Text.joinWith '.' (← parts.mapM encodedPart)
  require (name.length ≤ greatestLength) .form
  return if endsOpen then name ++ ['.'] else name

def check (cs : List Char) : Except NameFault Unit := do
  require (cs.length ≤ greatestLength + 1) .form
  (partsOf cs).1.forM checkAscii

def isEncoded (cs : List Char) : Bool := encodedMark.isPrefixOf cs

end HostName

end Lending
