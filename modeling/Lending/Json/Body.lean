import Lending.Json.Parser
import Lending.Json.Printer
import Lending.Text.Utf8
import Lending.Text.Wide

/-! # JSON bodies

A body is a JSON text in one of five encodings, which is seen from a byte order mark or from the
zeros among its first bytes: a JSON text begins with two characters of ASCII.
-/

namespace Lending.Json

inductive Encoding where
  | utf8
  | utf16 (big : Bool)
  | utf32 (big : Bool)
deriving DecidableEq, Repr

namespace Encoding

def name : Encoding → String
  | utf8 => "utf-8"
  | utf16 big => if big then "utf-16-be" else "utf-16-le"
  | utf32 big => if big then "utf-32-be" else "utf-32-le"

/-- The encoding of a body by its first four bytes, or by its bytes where it has only two. -/
def ofZeros : List Nat → Encoding
  | [a, b, c, d] =>
    if a = 0 then if b = 0 then utf32 true else utf16 true
    else if b = 0 then if c = 0 ∧ d = 0 then utf32 false else utf16 false
    else utf8
  | [a, b] => if a = 0 then utf16 true else if b = 0 then utf16 false else utf8
  | _ => utf8

def marks : List (List Nat × Encoding) :=
  [([0, 0, 0xfe, 0xff], utf32 true), ([0xff, 0xfe, 0, 0], utf32 false),
   ([0xfe, 0xff], utf16 true), ([0xff, 0xfe], utf16 false), ([0xef, 0xbb, 0xbf], utf8)]

def ofBytes (bs : List Nat) : Encoding × List Nat :=
  match marks.find? fun (mark, _) => mark.isPrefixOf bs with
  | some (mark, encoding) => (encoding, mark)
  | none => (ofZeros (bs.take 4), [])

end Encoding

/-- Why a body has no value: its bytes write no text, or its text writes no value. -/
inductive Unreadable where
  | bytes (encoding : Encoding) (fault : Text.DecodingFault)
  | digits (count : Nat)
  | depth
  | text (place : String)
deriving DecidableEq, Repr

namespace Unreadable

def place (fault : Text.DecodingFault) : String :=
  match fault.bytes with
  | [b] => s!"byte 0x{String.ofList (hex 2 b)} in position {fault.position}"
  | bs => s!"bytes in position {fault.position}-{fault.position + bs.length - 1}"

def message : Unreadable → String
  | bytes encoding fault =>
    s!"'{encoding.name}' codec can't decode {place fault}: {fault.reason.text}"
  | digits count =>
    s!"Exceeds the limit ({Text.greatestLength} digits) for integer string conversion: " ++
      s!"value has {count} digits; use sys.set_int_max_str_digits() to increase the limit"
  | depth => Defect.tooDeep.text
  | text place => place

end Unreadable

/-- The text of a body after its mark. In UTF-8 the mark is not counted where a fault stands. -/
def decode (encoding : Encoding) (mark rest : List Nat) :
    Except Text.DecodingFault (List CodePoint) :=
  match encoding with
  | .utf8 => Text.Utf8.read rest
  | .utf16 big => Text.Wide.decode16 big mark.length rest
  | .utf32 big => Text.Wide.decode32 big mark.length rest

def unreadable (cs : List CodePoint) (fault : Fault) : Unreadable :=
  match fault.defect with
  | .tooManyDigits count => .digits count
  | .tooDeep => .depth
  | _ => .text (describe cs fault)

def ofBody (body : List UInt8) : Except Unreadable Json := do
  let bs := body.map UInt8.toNat
  let (encoding, mark) := Encoding.ofBytes bs
  let cs ← (decode encoding mark (bs.drop mark.length)).mapError fun fault => .bytes encoding fault
  (ofCodePoints cs).mapError fun fault => unreadable cs fault

end Lending.Json
