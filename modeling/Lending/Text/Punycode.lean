import Lending.Text.Blank

/-! # Punycode

A text with letters of any script, written with letters, digits and hyphens. Its ASCII characters
come first; every other one is told by how far its number and place are from those of the one
before, the least numbers first.
-/

namespace Lending.Text.Punycode

/-- A digit to the base of 36: `a` to `z`, then `0` to `9`. -/
def digit (n : Nat) : Char := Char.ofNat (if n < 26 then 97 + n else 22 + n)

/-- The digit at `place`, counted in steps of the base, is the last of its number if it is less than
this. -/
def threshold (bias place : Nat) : Nat := max 1 (min 26 (place - bias))

def digits (bias place n : Nat) : List Char :=
  let t := threshold bias place
  if n < t then [digit n]
  else digit (t + (n - t) % (36 - t)) :: digits bias (place + 36) ((n - t) / (36 - t))
termination_by n
decreasing_by
  have h : 1 ≤ threshold bias place := by unfold threshold; omega
  have := Nat.div_le_self (n - threshold bias place) (36 - threshold bias place)
  omega

/-- How often a number is divided by 35 until it is at most 455, in steps of the base, and what is
left of it. -/
def scaled (n place : Nat) : Nat × Nat :=
  if 455 < n then scaled (n / 35) (place + 36) else (n, place)
termination_by n
decreasing_by exact Nat.div_lt_self (by omega) (by omega)

def adapted (distance count : Nat) (isFirst : Bool) : Nat :=
  let n := if isFirst then distance / 700 else distance / 2
  let (n, place) := scaled (n + n / count) 0
  place + 36 * n / (n + 38)

/-- What has been written, and how many characters it tells. -/
structure State where
  written : List Char
  count : Nat
  basic : Nat
  distance : Nat
  bias : Nat

def State.step (n : Nat) (s : State) (c : Char) : State :=
  if c.toNat < n then { s with distance := s.distance + 1 }
  else if c.toNat = n then
    { s with
      written := s.written ++ digits s.bias 36 s.distance
      count := s.count + 1
      distance := 0
      bias := adapted s.distance (s.count + 1) (s.count == s.basic) }
  else s

def tell (cs : List Char) (next : Nat) (s : State) : List Nat → State
  | [] => s
  | n :: ns =>
    let s := { s with distance := s.distance + (n - next) * (s.count + 1) }
    let s := cs.foldl (State.step n) s
    tell cs (n + 1) { s with distance := s.distance + 1 } ns

/-- The numbers of the characters that are not ASCII, each one once, the least first. -/
def numbers (cs : List Char) : List Nat :=
  ((cs.map Char.toNat).filter (0x80 ≤ ·)).eraseDups.mergeSort

def encode (cs : List Char) : List Char :=
  let basic := cs.filter fun c => c.toNat < 0x80
  let start : State :=
    { written := [], count := basic.length, basic := basic.length, distance := 0, bias := 72 }
  let written := (tell cs 0x80 start (numbers cs)).written
  if basic.isEmpty then written else basic ++ '-' :: written

/-! ## Reading -/

/-- The value of a digit, whose letter may be a capital one. -/
def digitValue? (c : Char) : Option Nat :=
  if 'a' ≤ c ∧ c ≤ 'z' then some (c.toNat - 97)
  else if 'A' ≤ c ∧ c ≤ 'Z' then some (c.toNat - 65)
  else if '0' ≤ c ∧ c ≤ '9' then some (c.toNat - 22)
  else none

/-- The number whose digits are being read: its value so far, and the place and the weight of the
next digit. -/
structure Reading where
  value : Nat := 0
  place : Nat := 36
  weight : Nat := 1

/-- A text to which the characters that are told are added. The search for the place of the next one
goes on at `position` when all numbers below `next` are told. -/
structure Told where
  text : List Char
  next : Nat := 0x80
  position : Nat := 0
  bias : Nat := 72
  isFirst : Bool := true
  reading : Reading := {}

def greatestNumber : Nat := 0x10ffff

/-- Put in the character that is `distance` places away. A number that no character has puts in the
character zero. -/
def Told.insert? (t : Told) (distance : Nat) : Option Told :=
  let count := t.text.length + 1
  let next := t.next + (t.position + distance) / count
  let position := (t.position + distance) % count
  if greatestNumber < next then none
  else some {
    text := t.text.take position ++ Char.ofNat next :: t.text.drop position
    next
    position := position + 1
    bias := adapted distance count t.isFirst
    isFirst := false }

def Told.step? (t : Told) (c : Char) : Option Told := do
  let d ← digitValue? c
  let r := t.reading
  let value := r.value + d * r.weight
  let last := threshold t.bias r.place
  if d < last then t.insert? value
  else some { t with reading := ⟨value, r.place + 36, r.weight * (36 - last)⟩ }

def cutLast (cs : List Char) : List Char × List Char :=
  let (after, before) := cutAt (· == '-') cs.reverse
  ((before.getD []).reverse, after.reverse)

def decode? (cs : List Char) : Option (List Char) := do
  let (basic, digits) := cutLast cs
  let told ← digits.foldlM Told.step? { text := basic }
  if told.reading.weight = 1 then some told.text else none

end Lending.Text.Punycode
