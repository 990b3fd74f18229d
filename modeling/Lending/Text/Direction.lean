import Lending.Text.Mark

/-! # Direction

The direction in which the characters of a name are written. A part of a name that is written from
right to left has nothing in it that is written the other way.
-/

namespace Lending.Text

inductive Direction where
  | left
  | right
  | number
  | arabicNumber
  | mark
  | neutral
deriving DecidableEq, Repr

namespace Direction

def rightRanges : Ranges :=
  [(0x5d0, 0x5f4), (0x620, 0x64a), (0x66e, 0x66f), (0x671, 0x6d5), (0x6e5, 0x6e6), (0x6ee, 0x6ef),
   (0x6fa, 0x710), (0x712, 0x72f), (0x74d, 0x7a5), (0x7b1, 0x7ea), (0x7f4, 0x7f5), (0x800, 0x815),
   (0x81a, 0x81a), (0x824, 0x824), (0x828, 0x828), (0x840, 0x858), (0x860, 0x88e), (0x8a0, 0x8c9),
   (0xfe73, 0xfe73), (0x10800, 0x10939), (0x10980, 0x10a00), (0x10a10, 0x10a35), (0x10a60, 0x10ae4),
   (0x10b00, 0x10d23), (0x10e80, 0x10ea9), (0x10eb0, 0x10eb1), (0x10f00, 0x10f45),
   (0x10f70, 0x10f81), (0x10fb0, 0x10ff6), (0x1e800, 0x1e8c4), (0x1e922, 0x1e943),
   (0x1e94b, 0x1e959)]

def numberRanges : Ranges :=
  [(0x30, 0x39), (0x6f0, 0x6f9)]

def arabicNumberRanges : Ranges :=
  [(0x660, 0x669), (0x10d30, 0x10d39)]

def neutralRanges : Ranges :=
  [(0x2d, 0x2d), (0xb7, 0xb7), (0x2b9, 0x2ba), (0x2c6, 0x2cf), (0x2ec, 0x2ec), (0x375, 0x375),
   (0x200c, 0x200d), (0x2e2f, 0x2e2f), (0x30fb, 0x30fb), (0xa67f, 0xa67f), (0xa717, 0xa71f),
   (0xa788, 0xa788)]

/-- Marks that are written from left to right all the same. -/
def leftMarks : Ranges :=
  [(0xcbf, 0xcbf), (0xcc6, 0xcc6), (0x11a07, 0x11a08), (0x11c3f, 0x11c3f)]

def unknownRanges : Ranges :=
  [(0x5c8, 0x5c8), (0x88f, 0x897), (0xb53, 0xb54), (0xc5c, 0xc5c), (0xcdc, 0xcdc), (0xcf3, 0xcf3),
   (0xece, 0xece), (0x1acf, 0x1aeb), (0x1c8a, 0x1c8a), (0xa7cd, 0xa7cf), (0xa7db, 0xa7db),
   (0x105c0, 0x105f3), (0x10940, 0x10959), (0x10d40, 0x10d85), (0x10ec2, 0x10eff),
   (0x1123f, 0x11241), (0x11380, 0x113e2), (0x116d0, 0x116e3), (0x11b60, 0x11bf9),
   (0x11db0, 0x11de9), (0x11f00, 0x11f5a), (0x1342f, 0x143fa), (0x16100, 0x16139),
   (0x16d40, 0x16d79), (0x16ebb, 0x16ed3), (0x16ff2, 0x16ff3), (0x187f8, 0x187ff),
   (0x18cff, 0x18cff), (0x18d09, 0x18df2), (0x1b132, 0x1b132), (0x1b155, 0x1b155),
   (0x1df25, 0x1df2a), (0x1e08f, 0x1e08f), (0x1e4d0, 0x1e6ff), (0x2b739, 0x2b73f),
   (0x2cea2, 0x2cead), (0x2ebf0, 0x2ee5d), (0x31350, 0x33479), (0x3d000, 0x3fc3f)]

def of? (c : Char) : Option Direction :=
  if unknownRanges.has c then none
  else if rightRanges.has c then some right
  else if numberRanges.has c then some number
  else if arabicNumberRanges.has c then some arabicNumber
  else if neutralRanges.has c then some neutral
  else if isNonspacing c && !leftMarks.has c then some mark
  else some left

def mayFollow (first : Direction) : Direction → Bool
  | right | arabicNumber => first == right
  | left => first == left
  | _ => true

def mayEnd (first : Direction) : Direction → Bool
  | number => true
  | right | arabicNumber => first == right
  | left => first == left
  | _ => false

/-- Do the directions of the characters of a text go together? Only a text with some that are
written from right to left, or with an Arabic number, can be at fault. It begins with a letter, goes
on in its direction, ends with a letter or a number before any marks, and has one kind of numbers if
it is written from right to left. -/
def fit (ds : List Direction) : Bool :=
  match ds with
  | [] => true
  | first :: _ =>
    if !(ds.contains right || ds.contains arabicNumber) then true
    else (first == left || first == right) && ds.all first.mayFollow &&
      (ds.reverse.dropWhile (· == mark)).head?.any first.mayEnd &&
      !(first == right && ds.contains number && ds.contains arabicNumber)

end Direction

end Lending.Text
