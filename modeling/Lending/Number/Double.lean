import Lending.Number.Power
import Lending.Text.Digit

/-! # Doubles

Numbers held with 53 binary digits: the nearest one to a fraction, whole parts, and the shortest
decimal text that reads back as the same number.
-/

namespace Lending

/-- A finite double is the mantissa, below 2⁵³, times two to the exponent. -/
inductive Double where
  | finite (negative : Bool) (mantissa : Nat) (exponent : Int)
  | infinite (negative : Bool)
  | nan
deriving DecidableEq, Repr, Inhabited

/-- The natural number nearest to `n / d`; a half goes to the even neighbour. -/
def roundHalfEven (n d : Nat) : Nat :=
  let q := n / d
  let r := n % d
  if 2 * r < d then q else if d < 2 * r then q + 1 else if q % 2 = 0 then q else q + 1

/-- The natural number nearest to `n / d`; a half goes up. -/
def roundHalfUp (n d : Nat) : Nat := (2 * n + d) / (2 * d)

/-- The largest `k` with `2 ^ k ≤ n / d`, for positive `n` and `d`. -/
def floorLog2 (n d : Nat) : Int :=
  let k : Int := (n.log2 : Int) - d.log2
  let reached := if 0 ≤ k then d * twoTo k.toNat ≤ n else d ≤ n * twoTo (-k).toNat
  if reached then k else k - 1

namespace Double

def leastExponent : Int := -1074

def greatestExponent : Int := 971

/-- The double nearest to `n / d`, for positive `d`. -/
def ofRatio (negative : Bool) (n d : Nat) : Double :=
  if n = 0 then .finite negative 0 leastExponent else
    let e := max (floorLog2 n d - 52) leastExponent
    let m :=
      if 0 ≤ e then roundHalfEven n (d * twoTo e.toNat) else roundHalfEven (n * twoTo (-e).toNat) d
    let (m, e) := if m = twoTo 53 then (twoTo 52, e + 1) else (m, e)
    if greatestExponent < e then .infinite negative else .finite negative m e

def ofDecimal (negative : Bool) (digits : Nat) (power : Int) : Double :=
  let top : Int := (Nat.toDigits 10 digits).length + power
  if digits = 0 ∨ top < -330 then .finite negative 0 leastExponent
  else if 310 < top then .infinite negative
  else if 0 ≤ power then ofRatio negative (digits * tenTo power.toNat) 1
  else ofRatio negative digits (tenTo (-power).toNat)

def isZero : Double → Bool
  | .finite _ m _ => m == 0
  | _ => false

def ratio? : Double → Option (Int × Nat)
  | .finite negative m e =>
    let n := m * twoTo e.toNat
    some (if negative then -(n : Int) else n, twoTo (-e).toNat)
  | _ => none

def atMost (x : Double) (n : Int) : Bool :=
  match x.ratio? with
  | some (p, q) => p ≤ n * q
  | none => x == infinite true

def whole? : Double → Option Int
  | .finite negative m e =>
    let n := if 0 ≤ e then m * twoTo e.toNat else m / twoTo (-e).toNat
    some (if negative then -(n : Int) else n)
  | _ => none

/-- The greatest integer that is at most a finite double divided by `k`. -/
def floorDiv (x : Double) (k : Nat) : Int :=
  match x with
  | .finite negative m e =>
    let (n, d) : Nat × Nat := if 0 ≤ e then (m * twoTo e.toNat, k) else (m, k * twoTo (-e).toNat)
    (if negative then -(n : Int) else n) / (d : Int)
  | _ => 0

/-- A position between decimal neighbours: `n / d` is the value, `low / d` and `high / d` are the
ends of the numbers that round to it, which count themselves if `closed`. -/
structure Interval where
  n : Nat
  d : Nat
  low : Nat
  high : Nat
  closed : Bool

/-- The reals nearer to `mantissa · 2 ^ exponent` than to any other double. -/
def interval (m : Nat) (e : Int) : Interval :=
  let up := 4 * twoTo e.toNat
  let d := 4 * twoTo (-e).toNat
  let gap := if m = twoTo 52 ∧ leastExponent < e then 1 else 2
  { n := m * up, d, low := m * up - gap * (up / 4), high := m * up + 2 * (up / 4),
    closed := m % 2 == 0 }

def Interval.holds (i : Interval) (digits : Nat) (power : Int) : Bool :=
  let x := digits * i.d * tenTo power.toNat
  let s := tenTo (-power).toNat
  if i.closed then i.low * s ≤ x && x ≤ i.high * s else i.low * s < x && x < i.high * s

/-- The neighbour of the value on the grid of multiples of `10 ^ power` that lies in the interval,
the nearer one where both do; a tie goes to the even one. -/
def Interval.onGrid (i : Interval) (power : Int) : Option Nat :=
  let n := i.n * tenTo (-power).toNat
  let d := i.d * tenTo power.toNat
  let nearest := roundHalfEven n d
  let other := if nearest = n / d then n / d + 1 else n / d
  if i.holds nearest power then some nearest else if i.holds other power then some other else none

/-- The power of ten of the leading digit of `n / d`. -/
def floorLog10 (n d : Nat) : Int :=
  let k : Int := (Nat.toDigits 10 n).length - (Nat.toDigits 10 d).length
  let reached := if 0 ≤ k then d * tenTo k.toNat ≤ n else d ≤ n * tenTo (-k).toNat
  if reached then k else k - 1

def Interval.search (i : Interval) (top : Int) (count : Nat) : Nat → Nat × Int
  | 0 => (0, 0)
  | fuel + 1 =>
    let power := top - (count : Int) + 1
    match i.onGrid power with
    | some digits => (digits, power)
    | none => i.search top (count + 1) fuel

/-- The fewest decimal digits, with their power of ten, that read back as a positive double. -/
def shortest (m : Nat) (e : Int) : Nat × Int :=
  let i := interval m e
  i.search (floorLog10 i.n i.d) 1 17

def trimZeros (ds : List Char) : List Char × Nat :=
  let kept := (ds.reverse.dropWhile (· == '0')).reverse
  (kept, ds.length - kept.length)

/-- Positional from 10⁻⁴ up to 10¹⁶, always with a point; otherwise one digit before the point and a
signed exponent of at least two digits. -/
def magnitudeText (m : Nat) (e : Int) : String :=
  if m = 0 then "0.0" else
    let (digits, power) := shortest m e
    let (ds, zeros) := trimZeros (Nat.toDigits 10 digits)
    let lead : Int := ds.length + power + zeros - 1
    if -4 ≤ lead ∧ lead < 16 then
      if lead < 0 then
        "0." ++ String.ofList (List.replicate (-lead - 1).toNat '0' ++ ds)
      else
        let k := lead.toNat + 1
        let before := ds.take k ++ List.replicate (k - ds.length) '0'
        let after := ds.drop k
        String.ofList before ++ "." ++ (if after.isEmpty then "0" else String.ofList after)
    else
      let rest := ds.drop 1
      String.ofList (ds.take 1 ++ (if rest.isEmpty then [] else '.' :: rest)) ++ "e" ++
        (if lead < 0 then "-" else "+") ++ Text.padded 2 lead.natAbs

def text : Double → String
  | .finite negative m e => (if negative then "-" else "") ++ magnitudeText m e
  | .infinite negative => if negative then "-inf" else "inf"
  | .nan => "nan"

end Double

end Lending
