/-! # Digits

Every script's decimal digits read as numbers, and integers written with them. Hexadecimal digits
are those of ASCII.
-/

namespace Lending.Text

/-- The zero of each script that writes numbers with ten consecutive digits. -/
def digitZeros : List Nat :=
  [0x30, 0x660, 0x6f0, 0x7c0, 0x966, 0x9e6, 0xa66, 0xae6, 0xb66, 0xbe6, 0xc66, 0xce6, 0xd66, 0xde6,
   0xe50, 0xed0, 0xf20, 0x1040, 0x1090, 0x17e0, 0x1810, 0x1946, 0x19d0, 0x1a80, 0x1a90, 0x1b50,
   0x1bb0, 0x1c40, 0x1c50, 0xa620, 0xa8d0, 0xa900, 0xa9d0, 0xa9f0, 0xaa50, 0xabf0, 0xff10, 0x104a0,
   0x10d30, 0x11066, 0x110f0, 0x11136, 0x111d0, 0x112f0, 0x11450, 0x114d0, 0x11650, 0x116c0,
   0x11730, 0x118e0, 0x11950, 0x11c50, 0x11d50, 0x11da0, 0x16a60, 0x16ac0, 0x16b50, 0x1d7ce,
   0x1d7d8, 0x1d7e2, 0x1d7ec, 0x1d7f6, 0x1e140, 0x1e2f0, 0x1e950, 0x1fbf0]

/-- The value of a decimal digit of any script. -/
def digit? (c : Char) : Option Nat :=
  (digitZeros.find? fun z => z ≤ c.toNat && c.toNat < z + 10).map (c.toNat - ·)

def asciiDigit? (c : Char) : Option Nat :=
  if '0' ≤ c ∧ c ≤ '9' then some (c.toNat - 48) else none

def hexValue? (c : Char) : Option Nat :=
  if '0' ≤ c ∧ c ≤ '9' then some (c.toNat - 48)
  else if 'a' ≤ c ∧ c ≤ 'f' then some (c.toNat - 87)
  else if 'A' ≤ c ∧ c ≤ 'F' then some (c.toNat - 55)
  else none

def ofDigits (ds : List Nat) : Nat := ds.foldl (10 * · + ·) 0

/-- The number that digits between `0` and `9` write; there has to be one of them. -/
def nat? (cs : List Char) : Option Nat :=
  if cs.isEmpty then none else (cs.mapM asciiDigit?).map ofDigits

/-- Whether a text begins with a minus, and what follows its sign. -/
def cutSign : List Char → Bool × List Char
  | '-' :: cs => (true, cs)
  | '+' :: cs => (false, cs)
  | cs => (false, cs)

/-- The digits after a point as millionths; a seventh digit and later ones do not count. -/
def millionths (ds : List Nat) : Nat := ofDigits ((ds ++ List.replicate 6 0).take 6)

/-- Digits with a single underscore allowed between two of them. -/
def spacedDigits? : List Char → Option (List Nat)
  | [] => none
  | [c] => (digit? c).map ([·])
  | c :: '_' :: cs => do return (← digit? c) :: (← spacedDigits? cs)
  | c :: cs => do return (← digit? c) :: (← spacedDigits? cs)

/-- The most digits that an integer is read from. -/
def greatestLength : Nat := 4300

def natural? (cs : List Char) : Option Nat :=
  ((spacedDigits? cs).filter fun ds => ds.length ≤ greatestLength).map ofDigits

def int? : List Char → Option Int
  | '+' :: cs => (natural? cs).map fun n => (n : Int)
  | '-' :: cs => (natural? cs).map fun n => -(n : Int)
  | cs => (natural? cs).map fun n => (n : Int)

/-- Exactly `n` digits between `0` and `9`, and the text after them. -/
def fixedDigits? : Nat → List Char → Option (Nat × List Char)
  | n, cs => do
    let ds ← (cs.take n).mapM asciiDigit?
    if ds.length = n then some (ofDigits ds, cs.drop n) else none

def dropChar? (x : Char) : List Char → Option (List Char)
  | [] => none
  | c :: cs => if c = x then some cs else none

def padded (width n : Nat) : String :=
  let s := toString n
  String.ofList (List.replicate (width - s.length) '0') ++ s

end Lending.Text
