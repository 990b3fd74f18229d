import Lending.Text.Utf8

/-! # UTF-16 and UTF-32

Characters as units of two or four bytes, the greater part of a unit first or last. A lone half of a
surrogate pair is kept as it is.
-/

namespace Lending.Text.Wide

def isHigh (n : Nat) : Bool := 0xd800 ≤ n && n < 0xdc00

def isLow (n : Nat) : Bool := 0xdc00 ≤ n && n < 0xe000

def ofPair (high low : Nat) : CodePoint :=
  CodePoint.ofNat (0x10000 + (high - 0xd800) * 0x400 + (low - 0xdc00))

def unit (big : Bool) (bs : List Nat) : Nat :=
  (if big then bs else bs.reverse).foldl (256 * · + ·) 0

def units16 (big : Bool) (position : Nat) : List Nat → Except DecodingFault (List Nat)
  | [] => .ok []
  | a :: b :: bs => do return unit big [a, b] :: (← units16 big (position + 2) bs)
  | bs => .error ⟨position, bs, .truncated⟩

def ofUnits16 : List Nat → List CodePoint
  | [] => []
  | [u] => [.ofNat u]
  | u :: v :: us =>
    if isHigh u && isLow v then ofPair u v :: ofUnits16 us else .ofNat u :: ofUnits16 (v :: us)

def decode16 (big : Bool) (position : Nat) (bs : List Nat) :
    Except DecodingFault (List CodePoint) :=
  (units16 big position bs).map ofUnits16

def decode32 (big : Bool) (position : Nat) : List Nat → Except DecodingFault (List CodePoint)
  | [] => .ok []
  | a :: b :: c :: d :: bs =>
    let n := unit big [a, b, c, d]
    if 0x110000 ≤ n then .error ⟨position, [a, b, c, d], .outOfRange⟩
    else do return .ofNat n :: (← decode32 big (position + 4) bs)
  | bs => .error ⟨position, bs, .truncated⟩

end Lending.Text.Wide
