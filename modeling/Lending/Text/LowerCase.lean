import Lending.Text.Mark

/-! # Lower case

Small letters for capital ones, in every script that has both.
-/

namespace Lending.Text

/-- First and last of every stretch of capital letters whose small ones are equally far away, and
how far. -/
def capitalRanges : List (Nat × Nat × Int) :=
  [(0x41, 0x5a, 32), (0xc0, 0xd6, 32), (0xd8, 0xde, 32), (0x178, 0x178, -121), (0x181, 0x181, 210),
   (0x186, 0x186, 206), (0x187, 0x187, 1), (0x189, 0x18a, 205), (0x18b, 0x18b, 1),
   (0x18e, 0x18e, 79), (0x18f, 0x18f, 202), (0x190, 0x190, 203), (0x191, 0x191, 1),
   (0x193, 0x193, 205), (0x194, 0x194, 207), (0x196, 0x196, 211), (0x197, 0x197, 209),
   (0x198, 0x198, 1), (0x19c, 0x19c, 211), (0x19d, 0x19d, 213), (0x19f, 0x19f, 214),
   (0x1a6, 0x1a6, 218), (0x1a7, 0x1a7, 1), (0x1a9, 0x1a9, 218), (0x1ac, 0x1ac, 1),
   (0x1ae, 0x1ae, 218), (0x1af, 0x1af, 1), (0x1b1, 0x1b2, 217), (0x1b7, 0x1b7, 219),
   (0x1b8, 0x1b8, 1), (0x1bc, 0x1bc, 1), (0x1c4, 0x1c4, 2), (0x1c5, 0x1c5, 1), (0x1c7, 0x1c7, 2),
   (0x1c8, 0x1c8, 1), (0x1ca, 0x1ca, 2), (0x1f1, 0x1f1, 2), (0x1f2, 0x1f2, 1), (0x1f4, 0x1f4, 1),
   (0x1f6, 0x1f6, -97), (0x1f7, 0x1f7, -56), (0x220, 0x220, -130), (0x23a, 0x23a, 10795),
   (0x23b, 0x23b, 1), (0x23d, 0x23d, -163), (0x23e, 0x23e, 10792), (0x241, 0x241, 1),
   (0x243, 0x243, -195), (0x244, 0x244, 69), (0x245, 0x245, 71), (0x376, 0x376, 1),
   (0x37f, 0x37f, 116), (0x386, 0x386, 38), (0x388, 0x38a, 37), (0x38c, 0x38c, 64),
   (0x38e, 0x38f, 63), (0x391, 0x3a1, 32), (0x3a3, 0x3ab, 32), (0x3cf, 0x3cf, 8),
   (0x3f4, 0x3f4, -60), (0x3f7, 0x3f7, 1), (0x3f9, 0x3f9, -7), (0x3fa, 0x3fa, 1),
   (0x3fd, 0x3ff, -130), (0x400, 0x40f, 80), (0x410, 0x42f, 32), (0x4c0, 0x4c0, 15),
   (0x531, 0x556, 48), (0x10a0, 0x10c5, 7264), (0x10c7, 0x10c7, 7264), (0x10cd, 0x10cd, 7264),
   (0x13a0, 0x13ef, 38864), (0x13f0, 0x13f5, 8), (0x1c90, 0x1cba, -3008), (0x1cbd, 0x1cbf, -3008),
   (0x1e9e, 0x1e9e, -7615), (0x1f08, 0x1f0f, -8), (0x1f18, 0x1f1d, -8), (0x1f28, 0x1f2f, -8),
   (0x1f38, 0x1f3f, -8), (0x1f48, 0x1f4d, -8), (0x1f59, 0x1f59, -8), (0x1f5b, 0x1f5b, -8),
   (0x1f5d, 0x1f5d, -8), (0x1f5f, 0x1f5f, -8), (0x1f68, 0x1f6f, -8), (0x1f88, 0x1f8f, -8),
   (0x1f98, 0x1f9f, -8), (0x1fa8, 0x1faf, -8), (0x1fb8, 0x1fb9, -8), (0x1fba, 0x1fbb, -74),
   (0x1fbc, 0x1fbc, -9), (0x1fc8, 0x1fcb, -86), (0x1fcc, 0x1fcc, -9), (0x1fd8, 0x1fd9, -8),
   (0x1fda, 0x1fdb, -100), (0x1fe8, 0x1fe9, -8), (0x1fea, 0x1feb, -112), (0x1fec, 0x1fec, -7),
   (0x1ff8, 0x1ff9, -128), (0x1ffa, 0x1ffb, -126), (0x1ffc, 0x1ffc, -9), (0x2126, 0x2126, -7517),
   (0x212a, 0x212a, -8383), (0x212b, 0x212b, -8262), (0x2132, 0x2132, 28), (0x2160, 0x216f, 16),
   (0x2183, 0x2183, 1), (0x24b6, 0x24cf, 26), (0x2c00, 0x2c2f, 48), (0x2c60, 0x2c60, 1),
   (0x2c62, 0x2c62, -10743), (0x2c63, 0x2c63, -3814), (0x2c64, 0x2c64, -10727),
   (0x2c6d, 0x2c6d, -10780), (0x2c6e, 0x2c6e, -10749), (0x2c6f, 0x2c6f, -10783),
   (0x2c70, 0x2c70, -10782), (0x2c72, 0x2c72, 1), (0x2c75, 0x2c75, 1), (0x2c7e, 0x2c7f, -10815),
   (0x2cf2, 0x2cf2, 1), (0xa77d, 0xa77d, -35332), (0xa78b, 0xa78b, 1), (0xa78d, 0xa78d, -42280),
   (0xa7aa, 0xa7aa, -42308), (0xa7ab, 0xa7ab, -42319), (0xa7ac, 0xa7ac, -42315),
   (0xa7ad, 0xa7ad, -42305), (0xa7ae, 0xa7ae, -42308), (0xa7b0, 0xa7b0, -42258),
   (0xa7b1, 0xa7b1, -42282), (0xa7b2, 0xa7b2, -42261), (0xa7b3, 0xa7b3, 928), (0xa7c4, 0xa7c4, -48),
   (0xa7c5, 0xa7c5, -42307), (0xa7c6, 0xa7c6, -35384), (0xa7d0, 0xa7d0, 1), (0xa7f5, 0xa7f5, 1),
   (0xff21, 0xff3a, 32), (0x10400, 0x10427, 40), (0x104b0, 0x104d3, 40), (0x10570, 0x1057a, 39),
   (0x1057c, 0x1058a, 39), (0x1058c, 0x10592, 39), (0x10594, 0x10595, 39), (0x10c80, 0x10cb2, 64),
   (0x118a0, 0x118bf, 32), (0x16e40, 0x16e5f, 32), (0x1e900, 0x1e921, 34)]

/-- First and last capital letter of every stretch in which each one stands before its small letter.
-/
def alternatingRanges : List (Nat × Nat) :=
  [(0x100, 0x12e), (0x132, 0x136), (0x139, 0x147), (0x14a, 0x176), (0x179, 0x17d), (0x182, 0x184),
   (0x1a0, 0x1a4), (0x1b3, 0x1b5), (0x1cb, 0x1db), (0x1de, 0x1ee), (0x1f8, 0x21e), (0x222, 0x232),
   (0x246, 0x24e), (0x370, 0x372), (0x3d8, 0x3ee), (0x460, 0x480), (0x48a, 0x4be), (0x4c1, 0x4cd),
   (0x4d0, 0x52e), (0x1e00, 0x1e94), (0x1ea0, 0x1efe), (0x2c67, 0x2c6b), (0x2c80, 0x2ce2),
   (0x2ceb, 0x2ced), (0xa640, 0xa66c), (0xa680, 0xa69a), (0xa722, 0xa72e), (0xa732, 0xa76e),
   (0xa779, 0xa77b), (0xa77e, 0xa786), (0xa790, 0xa792), (0xa796, 0xa7a8), (0xa7b4, 0xa7c2),
   (0xa7c7, 0xa7c9), (0xa7d6, 0xa7d8)]

def small (c : Char) : Char :=
  let n := c.toNat
  match capitalRanges.find? fun (first, last, _) => first ≤ n && n ≤ last with
  | some (_, _, shift) => Char.ofNat (n + shift).toNat
  | none =>
    if alternatingRanges.any fun (first, last) => first ≤ n && n ≤ last && (n - first) % 2 == 0 then
      Char.ofNat (n + 1)
    else c

/-- Small and capital letters. Marks and signs that stand between them do not end a word. -/
def casedRanges : Ranges :=
  [(0x41, 0x5a), (0x61, 0x7a), (0xaa, 0xaa), (0xb5, 0xb5), (0xba, 0xba), (0xc0, 0xd6), (0xd8, 0xf6),
   (0xf8, 0x1ba), (0x1bc, 0x1bf), (0x1c4, 0x293), (0x295, 0x377), (0x37b, 0x37d), (0x37f, 0x37f),
   (0x386, 0x38a), (0x38c, 0x38c), (0x38e, 0x3a1), (0x3a3, 0x3f5), (0x3f7, 0x481), (0x48a, 0x52f),
   (0x531, 0x556), (0x560, 0x588), (0x10a0, 0x10c5), (0x10c7, 0x10c7), (0x10cd, 0x10cd),
   (0x10d0, 0x10fa), (0x10fd, 0x10ff), (0x13a0, 0x13f5), (0x13f8, 0x13fd), (0x1c80, 0x1c88),
   (0x1c90, 0x1cba), (0x1cbd, 0x1cbf), (0x1d00, 0x1f15), (0x1f18, 0x1f1d), (0x1f20, 0x1f45),
   (0x1f48, 0x1f4d), (0x1f50, 0x1f57), (0x1f59, 0x1f59), (0x1f5b, 0x1f5b), (0x1f5d, 0x1f5d),
   (0x1f5f, 0x1f7d), (0x1f80, 0x1fb4), (0x1fb6, 0x1fc4), (0x1fc6, 0x1fd3), (0x1fd6, 0x1fdb),
   (0x1fe0, 0x1fec), (0x1ff2, 0x1ff4), (0x1ff6, 0x1ffc), (0x2102, 0x2102), (0x2107, 0x2107),
   (0x210a, 0x2113), (0x2115, 0x2115), (0x2119, 0x211d), (0x2124, 0x2124), (0x2126, 0x2126),
   (0x2128, 0x2128), (0x212a, 0x212d), (0x212f, 0x2134), (0x2139, 0x2139), (0x213c, 0x213f),
   (0x2145, 0x2149), (0x214e, 0x214e), (0x2160, 0x217f), (0x2183, 0x2184), (0x24b6, 0x24e9),
   (0x2c00, 0x2ce4), (0x2ceb, 0x2cf3), (0x2d00, 0x2d25), (0x2d27, 0x2d27), (0x2d2d, 0x2d2d),
   (0xa640, 0xa66d), (0xa680, 0xa69b), (0xa722, 0xa78e), (0xa790, 0xa7ca), (0xa7d0, 0xa7d1),
   (0xa7d3, 0xa7d3), (0xa7d5, 0xa7d9), (0xa7f5, 0xa7f6), (0xa7fa, 0xa7fa), (0xab30, 0xab68),
   (0xab70, 0xabbf), (0xfb00, 0xfb06), (0xfb13, 0xfb17), (0xff21, 0xff3a), (0xff41, 0xff5a),
   (0x10400, 0x1044f), (0x104b0, 0x104d3), (0x104d8, 0x104fb), (0x10570, 0x1057a),
   (0x1057c, 0x1058a), (0x1058c, 0x10592), (0x10594, 0x10595), (0x10597, 0x105a1),
   (0x105a3, 0x105b1), (0x105b3, 0x105b9), (0x105bb, 0x105bc), (0x10c80, 0x10cb2),
   (0x10cc0, 0x10cf2), (0x118a0, 0x118df), (0x16e40, 0x16e7f), (0x1d400, 0x1d454),
   (0x1d456, 0x1d49c), (0x1d49e, 0x1d49f), (0x1d4a2, 0x1d4a2), (0x1d4a5, 0x1d4a6),
   (0x1d4a9, 0x1d4ac), (0x1d4ae, 0x1d4b9), (0x1d4bb, 0x1d4bb), (0x1d4bd, 0x1d4c3),
   (0x1d4c5, 0x1d505), (0x1d507, 0x1d50a), (0x1d50d, 0x1d514), (0x1d516, 0x1d51c),
   (0x1d51e, 0x1d539), (0x1d53b, 0x1d53e), (0x1d540, 0x1d544), (0x1d546, 0x1d546),
   (0x1d54a, 0x1d550), (0x1d552, 0x1d6a5), (0x1d6a8, 0x1d6c0), (0x1d6c2, 0x1d6da),
   (0x1d6dc, 0x1d6fa), (0x1d6fc, 0x1d714), (0x1d716, 0x1d734), (0x1d736, 0x1d74e),
   (0x1d750, 0x1d76e), (0x1d770, 0x1d788), (0x1d78a, 0x1d7a8), (0x1d7aa, 0x1d7c2),
   (0x1d7c4, 0x1d7cb), (0x1df00, 0x1df09), (0x1df0b, 0x1df1e), (0x1e900, 0x1e943),
   (0x1f130, 0x1f149), (0x1f150, 0x1f169), (0x1f170, 0x1f189)]

def withinWordRanges : Ranges :=
  [(0x27, 0x27), (0x2e, 0x2e), (0x3a, 0x3a), (0x5e, 0x5e), (0x60, 0x60), (0xa8, 0xa8), (0xad, 0xad),
   (0xaf, 0xaf), (0xb4, 0xb4), (0xb7, 0xb8), (0x2b0, 0x2ff), (0x374, 0x375), (0x37a, 0x37a),
   (0x384, 0x385), (0x387, 0x387), (0x488, 0x489), (0x559, 0x559), (0x55f, 0x55f), (0x5f4, 0x5f4),
   (0x600, 0x605), (0x61c, 0x61c), (0x640, 0x640), (0x6dd, 0x6dd), (0x6e5, 0x6e6), (0x70f, 0x70f),
   (0x7f4, 0x7f5), (0x7fa, 0x7fa), (0x81a, 0x828), (0x888, 0x888), (0x890, 0x891), (0x8c9, 0x8e2),
   (0x971, 0x971), (0xe46, 0xe46), (0xec6, 0xec6), (0x10fc, 0x10fc), (0x17d7, 0x17d7),
   (0x180e, 0x180e), (0x1843, 0x1843), (0x1aa7, 0x1aa7), (0x1abe, 0x1abe), (0x1c78, 0x1c7d),
   (0x1d2c, 0x1d6a), (0x1d78, 0x1d78), (0x1d9b, 0x1dbf), (0x1fbd, 0x1fbd), (0x1fbf, 0x1fc1),
   (0x1fcd, 0x1fcf), (0x1fdd, 0x1fdf), (0x1fed, 0x1fef), (0x1ffd, 0x1ffe), (0x200b, 0x200f),
   (0x2018, 0x2019), (0x2024, 0x2024), (0x2027, 0x2027), (0x202a, 0x202e), (0x2060, 0x2064),
   (0x2066, 0x206f), (0x2071, 0x2071), (0x207f, 0x207f), (0x2090, 0x209c), (0x20dd, 0x20e4),
   (0x2c7c, 0x2c7d), (0x2d6f, 0x2d6f), (0x2e2f, 0x2e2f), (0x3005, 0x3005), (0x3031, 0x3035),
   (0x303b, 0x303b), (0x309b, 0x309e), (0x30fc, 0x30fe), (0xa015, 0xa015), (0xa4f8, 0xa4fd),
   (0xa60c, 0xa60c), (0xa670, 0xa672), (0xa67f, 0xa67f), (0xa69c, 0xa69d), (0xa700, 0xa721),
   (0xa770, 0xa770), (0xa788, 0xa78a), (0xa7f2, 0xa7f4), (0xa7f8, 0xa7f9), (0xa9cf, 0xa9cf),
   (0xa9e6, 0xa9e6), (0xaa70, 0xaa70), (0xaadd, 0xaadd), (0xaaf3, 0xaaf4), (0xab5b, 0xab5f),
   (0xab69, 0xab6b), (0xfbb2, 0xfbc2), (0xfe13, 0xfe13), (0xfe52, 0xfe52), (0xfe55, 0xfe55),
   (0xfeff, 0xfeff), (0xff07, 0xff07), (0xff0e, 0xff0e), (0xff1a, 0xff1a), (0xff3e, 0xff3e),
   (0xff40, 0xff40), (0xff70, 0xff70), (0xff9e, 0xff9f), (0xffe3, 0xffe3), (0xfff9, 0xfffb),
   (0x10780, 0x10785), (0x10787, 0x107b0), (0x107b2, 0x107ba), (0x110bd, 0x110bd),
   (0x110cd, 0x110cd), (0x13430, 0x13438), (0x16b40, 0x16b43), (0x16f93, 0x16f9f),
   (0x16fe0, 0x16fe1), (0x16fe3, 0x16fe3), (0x1aff0, 0x1aff3), (0x1aff5, 0x1affb),
   (0x1affd, 0x1affe), (0x1bca0, 0x1bca3), (0x1d173, 0x1d17a), (0x1e137, 0x1e13d),
   (0x1e94b, 0x1e94b), (0x1f3fb, 0x1f3ff), (0xe0001, 0xe0001), (0xe0020, 0xe007f)]

def isWithinWord (c : Char) : Bool := isNonspacing c || withinWordRanges.has c

/-- Does a letter before or after a place belong to the word there? The nearest character comes
first. -/
def wordGoesOn (cs : List Char) : Bool := (cs.dropWhile isWithinWord).head?.any casedRanges.has

/-- The capital sigma has a small letter of its own at the end of a word. The characters before a
place come in reverse. -/
def lowerFrom (before : List Char) : List Char → List Char
  | [] => []
  | c :: cs =>
    let lowered :=
      if c = '\u0130' then ['i', '\u0307']
      else if c = '\u03a3' && wordGoesOn before && !wordGoesOn cs then ['\u03c2']
      else [small c]
    lowered ++ lowerFrom (c :: before) cs

/-- A text in small letters. The capital I with a dot becomes a small one and a dot above it. -/
def lowerCase (cs : List Char) : List Char := lowerFrom [] cs

end Lending.Text
