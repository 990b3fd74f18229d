import Lending.Number.Double
import Lending.Text.Blank

/-! # Decimals

Amounts of money: a coefficient and a power of ten, with the text they are read from and written as,
and the arithmetic of twenty-eight significant digits.
-/

namespace Lending

/-- An amount; one that is no number may carry a payload of digits, and may be one that signals. -/
inductive Decimal where
  | finite (negative : Bool) (coefficient : Nat) (exponent : Int)
  | infinite (negative : Bool)
  | nan (negative signaling : Bool) (payload : Nat)
deriving DecidableEq, Repr, Inhabited

inductive Decimal.Fault where
  | invalid
  | overflow
deriving DecidableEq, Repr

/-- The number of decimal digits of a number; zero has one. -/
def digitCount (n : Nat) : Nat := (Nat.toDigits 10 n).length

namespace Decimal

def zero : Decimal := .finite false 0 0

def zeroCents : Decimal := .finite false 0 (-2)

def ofNat (n : Nat) : Decimal := .finite false n 0

/-- The significant digits that every result is rounded to. -/
def precision : Nat := 28

/-- The greatest power of ten of the leading digit of a result. -/
def greatestLead : Int := 999999

/-- The limits on the leading digit's power and on the exponent of an amount that is read. -/
def greatestReadLead : Int := 999999999999999999

def leastReadExponent : Int := -1999999999999999997

/-! ## Reading -/

/-- Letters between `A` and `Z` in lower case. -/
def lower (cs : List Char) : List Char := cs.map Char.toLower

/-- Each digit as one of `0` to `9`; other characters beyond ASCII stay. -/
def plainDigit (c : Char) : Char :=
  match Text.digit? c with
  | some d => Char.ofNat (48 + d)
  | none => c

def leadingDigits (cs : List Char) : List Char × List Char :=
  (cs.takeWhile Char.isDigit, cs.dropWhile Char.isDigit)

def digitsValue (ds : List Char) : Nat := Text.ofDigits (ds.filterMap Text.asciiDigit?)

/-- The power of ten after `e`, or zero where the text has ended. -/
def exponentPart? : List Char → Option Int
  | [] => some 0
  | c :: cs =>
    if c = 'e' ∨ c = 'E' then
      let (negative, ds) := match cs with
        | '-' :: ds => (true, ds)
        | '+' :: ds => (false, ds)
        | ds => (false, ds)
      if ds.isEmpty || !ds.all Char.isDigit then none
      else some (if negative then -(digitsValue ds : Int) else digitsValue ds)
    else none

def inReadRange (coefficient : Nat) (exponent : Int) : Bool :=
  let lead := if coefficient = 0 then exponent else exponent + digitCount coefficient - 1
  leastReadExponent ≤ exponent && lead ≤ greatestReadLead

def unsignedNumber? (negative : Bool) (cs : List Char) : Option Decimal :=
  let (whole, rest) := leadingDigits cs
  let (places, rest) := match rest with
    | '.' :: rest => leadingDigits rest
    | rest => ([], rest)
  let digits := whole ++ places
  if digits.isEmpty then none else do
    let power ← exponentPart? rest
    let coefficient := digitsValue digits
    let exponent := power - places.length
    if inReadRange coefficient exponent then some (.finite negative coefficient exponent) else none

def payload? (cs : List Char) : Option Nat :=
  if cs.all Char.isDigit then some (digitsValue cs) else none

def unsigned? (negative : Bool) (cs : List Char) : Option Decimal :=
  let word := lower cs
  if word = "inf".toList ∨ word = "infinity".toList then some (.infinite negative)
  else match Text.afterStart "nan".toList word with
    | some digits => (payload? digits).map (.nan negative false)
    | none =>
      match Text.afterStart "snan".toList word with
      | some digits => (payload? digits).map (.nan negative true)
      | none => unsignedNumber? negative cs

/-- An amount from its text: blanks around it and underscores anywhere do not count, and the digits
may be those of any script. -/
def ofText? (cs : List Char) : Option Decimal :=
  match (Text.strip cs).filter (· != '_') |>.map plainDigit with
  | '-' :: cs => unsigned? true cs
  | '+' :: cs => unsigned? false cs
  | cs => unsigned? false cs

/-! ## Writing -/

/-- The digits with a point before the last `places` of them. -/
def pointed (ds : List Char) (places : Nat) : List Char :=
  let ds := List.replicate (places + 1 - ds.length) '0' ++ ds
  if places = 0 then ds else ds.take (ds.length - places) ++ '.' :: ds.drop (ds.length - places)

/-- Plain for an exponent of at most zero and a leading digit no lower than the sixth place,
otherwise one digit before the point and a signed power of ten. -/
def magnitudeText (coefficient : Nat) (exponent : Int) : String :=
  let ds := Nat.toDigits 10 coefficient
  let lead := exponent + ds.length - 1
  if exponent ≤ 0 ∧ -6 ≤ lead then String.ofList (pointed ds (-exponent).toNat)
  else
    let rest := ds.drop 1
    String.ofList (ds.take 1 ++ (if rest.isEmpty then [] else '.' :: rest)) ++ "E" ++
      (if lead < 0 then "-" else "+") ++ toString lead.natAbs

def text : Decimal → String
  | .finite negative c e => (if negative then "-" else "") ++ magnitudeText c e
  | .infinite negative => (if negative then "-" else "") ++ "Infinity"
  | .nan negative signaling payload =>
    (if negative then "-" else "") ++ (if signaling then "s" else "") ++ "NaN" ++
      (if payload = 0 then "" else toString payload)

/-! ## Arithmetic -/

/-- The power of ten of the leading digit; a zero counts as its exponent. -/
def lead (coefficient : Nat) (exponent : Int) : Int := exponent + digitCount coefficient - 1

/-- A coefficient and exponent rounded to the precision, halves to even. -/
def roundToPrecision (coefficient : Nat) (exponent : Int) : Nat × Int :=
  let drop := digitCount coefficient - precision
  if drop = 0 then (coefficient, exponent) else
    let c := roundHalfEven coefficient (tenTo drop)
    if c = tenTo precision then (tenTo (precision - 1), exponent + drop + 1)
    else (c, exponent + drop)

/-- A payload keeps its last digits. -/
def keepPayload (payload : Nat) : Nat := payload % tenTo precision

def rounded (negative : Bool) (coefficient : Nat) (exponent : Int) : Except Fault Decimal :=
  let (c, e) := roundToPrecision coefficient exponent
  if c ≠ 0 ∧ greatestLead < lead c e then .error .overflow else .ok (.finite negative c e)

def times (x : Decimal) (n : Nat) : Except Fault Decimal :=
  match x with
  | .finite negative c e => rounded negative (c * n) e
  | .infinite negative => .ok (.infinite negative)
  | .nan _ true _ => .error .invalid
  | .nan negative false payload => .ok (.nan negative false (keepPayload payload))

/-- Is one magnitude below another? Two magnitudes with leading digits at one place are compared on
the finer of their grids. -/
def magnitudeLess (c : Nat) (e : Int) (c' : Nat) (e' : Int) : Bool :=
  if c = 0 then c' != 0
  else if c' = 0 then false
  else if lead c e ≠ lead c' e' then lead c e < lead c' e'
  else c * tenTo (e - e').toNat < c' * tenTo (e' - e).toNat

/-- Is one amount below another? There is no answer for one that is no number. -/
def less : Decimal → Decimal → Except Fault Bool
  | .nan .., _ => .error .invalid
  | _, .nan .. => .error .invalid
  | .infinite n, .infinite n' => .ok (n && !n')
  | .infinite n, .finite .. => .ok n
  | .finite .., .infinite n' => .ok !n'
  | .finite n c e, .finite n' c' e' => .ok <|
    match n, n' with
    | false, false => magnitudeLess c e c' e'
    | true, true => magnitudeLess c' e' c e
    | true, false => c != 0 || c' != 0
    | false, true => false

/-- The second of two amounts where it is below the first, else the first. -/
def lower? (x limit : Decimal) : Except Fault Decimal := do
  if ← less limit x then return limit else return x

/-- An amount with two places, halves away from zero; none where that takes more digits than the
precision allows. -/
def toCents : Decimal → Except Fault Decimal
  | .finite negative c e =>
    if c = 0 then .ok (.finite negative 0 (-2))
    else if (precision : Int) < lead c e + 3 then .error .invalid
    else if lead c e < -4 then .ok (.finite negative 0 (-2))
    else
      let cents := if -2 ≤ e then c * tenTo (e + 2).toNat else roundHalfUp c (tenTo (-2 - e).toNat)
      if precision < digitCount cents then .error .invalid else .ok (.finite negative cents (-2))
  | .infinite _ => .error .invalid
  | .nan _ true _ => .error .invalid
  | .nan negative false payload => .ok (.nan negative false (keepPayload payload))

def isFinite : Decimal → Bool
  | .finite .. => true
  | _ => false

end Decimal

end Lending
