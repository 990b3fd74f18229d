import Lending.Json.Basic

/-! # Agreement of JSON values

Two values agree when they hold the same, however they are written: a number agrees with every
number of its value, true and false count as one and zero, and the order of members does not matter.
-/

namespace Lending

namespace Double

def signed (negative : Bool) (mantissa : Nat) : Int :=
  if negative then -(mantissa : Int) else mantissa

/-- Are `m · 2 ^ e` and `n · 2 ^ k` the same number? -/
def sameValue (m e n k : Int) : Bool :=
  m * (twoTo (e - k).toNat : Int) == n * (twoTo (k - e).toNat : Int)

/-- Two doubles of the same value; a zero has no sign, and what is no number equals nothing. -/
def agrees : Double → Double → Bool
  | finite s m e, finite t n k => sameValue (signed s m) e (signed t n) k
  | infinite s, infinite t => s == t
  | _, _ => false

def agreesWithInt : Double → Int → Bool
  | finite s m e, n => sameValue (signed s m) e n 0
  | _, _ => false

end Double

namespace Json

/-- The integer that a number without a point or a truth value stands for. -/
def integer? : Json → Option Int
  | int n => some n
  | bool b => some (if b then 1 else 0)
  | _ => none

def plainAgrees : Json → Json → Bool
  | null, null => true
  | str s, str t => s == t
  | real x, real y => x.agrees y
  | real x, y => (y.integer?.map x.agreesWithInt).getD false
  | x, real y => (x.integer?.map y.agreesWithInt).getD false
  | x, y => x.integer?.isSome && x.integer? == y.integer?

mutual

def agrees : Json → Json → Bool
  | arr xs, arr ys => agreesItems xs ys
  | obj xs, obj ys => xs.length == ys.length && agreesMembers xs ys
  | x, y => plainAgrees x y

def agreesItems : List Json → List Json → Bool
  | [], [] => true
  | x :: xs, y :: ys => agrees x y && agreesItems xs ys
  | _, _ => false

/-- Does every member have one of its name to agree with? -/
def agreesMembers : List (Text × Json) → List (Text × Json) → Bool
  | [], _ => true
  | (name, x) :: xs, ys =>
    (match ys.find? fun m => m.1 = name with
      | some (_, y) => agrees x y
      | none => false) && agreesMembers xs ys

end

end Json

end Lending
