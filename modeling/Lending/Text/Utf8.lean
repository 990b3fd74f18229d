import Lending.Text.Basic

/-! # UTF-8

Characters as bytes, and bytes as characters. Bytes that write no character are a fault of the text,
or are read as replacement characters, one for every stretch that begins a character and does not
finish it.
-/

namespace Lending.Text

inductive DecodingFault.Reason where
  | start
  | continuation
  | ended
  | truncated
  | outOfRange
deriving DecidableEq, Repr

def DecodingFault.Reason.text : Reason → String
  | start => "invalid start byte"
  | continuation => "invalid continuation byte"
  | ended => "unexpected end of data"
  | truncated => "truncated data"
  | outOfRange => "code point not in range(0x110000)"

/-- Bytes that write no character, and how many come before them. -/
structure DecodingFault where
  position : Nat
  bytes : List Nat
  reason : DecodingFault.Reason
deriving DecidableEq, Repr

namespace Utf8

def bytesOf (c : Char) : List Nat :=
  let n := c.toNat
  if n < 0x80 then [n]
  else if n < 0x800 then [0xc0 + n / 64, 0x80 + n % 64]
  else if n < 0x10000 then [0xe0 + n / 4096, 0x80 + n / 64 % 64, 0x80 + n % 64]
  else [0xf0 + n / 262144, 0x80 + n / 4096 % 64, 0x80 + n / 64 % 64, 0x80 + n % 64]

def encode (cs : List Char) : List Nat := cs.flatMap bytesOf

def bytes (cs : List Char) : List UInt8 := (encode cs).map UInt8.ofNat

/-- A character that has begun: how many bytes are still to come, its number so far, and the least
and the greatest byte that may come next. -/
structure Pending where
  left : Nat
  number : Nat
  low : Nat
  high : Nat
deriving DecidableEq, Repr

/-- What a first byte begins. The next byte is bounded so that no number is written too long, half a
surrogate pair or too great. -/
def begin? (b : Nat) : Option Pending :=
  if 0xc2 ≤ b ∧ b ≤ 0xdf then some ⟨1, b - 0xc0, 0x80, 0xbf⟩
  else if 0xe0 ≤ b ∧ b ≤ 0xef then
    some ⟨2, b - 0xe0, if b = 0xe0 then 0xa0 else 0x80, if b = 0xed then 0x9f else 0xbf⟩
  else if 0xf0 ≤ b ∧ b ≤ 0xf4 then
    some ⟨3, b - 0xf0, if b = 0xf0 then 0x90 else 0x80, if b = 0xf4 then 0x8f else 0xbf⟩
  else none

def replacement : Char := '\ufffd'

def fresh (b : Nat) : List Char × Option Pending :=
  if b < 0x80 then ([Char.ofNat b], none)
  else match begin? b with
    | some p => ([], some p)
    | none => ([replacement], none)

/-- A byte after a pending character goes on with it or begins anew. -/
def step (p : Pending) (b : Nat) : List Char × Option Pending :=
  if p.low ≤ b ∧ b ≤ p.high then
    let number := p.number * 64 + (b - 0x80)
    if p.left = 1 then ([Char.ofNat number], none) else ([], some ⟨p.left - 1, number, 0x80, 0xbf⟩)
  else
    let (cs, next) := fresh b
    (replacement :: cs, next)

def decodeFrom : Option Pending → List Nat → List Char
  | none, [] => []
  | some _, [] => [replacement]
  | pending, b :: bs =>
    let (cs, next) := match pending with
      | none => fresh b
      | some p => step p b
    cs ++ decodeFrom next bs

def decode (bs : List Nat) : List Char := decodeFrom none bs

/-! ## Texts without a fault -/

/-- The fault of a character that is not finished. Half of a surrogate pair is at fault by its first
byte, wherever it stops. -/
def unfinished (position : Nat) (bytes : List Nat) (reason : DecodingFault.Reason) :
    DecodingFault :=
  match bytes with
  | 0xed :: b :: _ =>
    if 0xa0 ≤ b then ⟨position, [0xed], .continuation⟩ else ⟨position, bytes, reason⟩
  | _ => ⟨position, bytes, reason⟩

/-- What bytes write from a position on, where a character may be pending with the bytes that it has
so far. Half of a surrogate pair is kept as it is. -/
def readFrom (position : Nat) :
    Option (Pending × List Nat) → List Nat → Except DecodingFault (List CodePoint)
  | none, [] => .ok []
  | some (_, begun), [] => .error (unfinished position begun .ended)
  | none, b :: bs =>
    if b < 0x80 then do return .char (Char.ofNat b) :: (← readFrom (position + 1) none bs)
    else match begin? b with
      | none => .error ⟨position, [b], .start⟩
      | some p =>
        let high := if b = 0xed then 0xbf else p.high
        readFrom position (some ({ p with high }, [b])) bs
  | some (p, begun), b :: bs =>
    if p.low ≤ b ∧ b ≤ p.high then
      let number := p.number * 64 + (b - 0x80)
      if p.left = 1 then do
        return .ofNat number :: (← readFrom (position + begun.length + 1) none bs)
      else readFrom position (some (⟨p.left - 1, number, 0x80, 0xbf⟩, begun ++ [b])) bs
    else .error (unfinished position begun .continuation)

def read (bs : List Nat) : Except DecodingFault (List CodePoint) := readFrom 0 none bs

end Utf8

end Lending.Text
