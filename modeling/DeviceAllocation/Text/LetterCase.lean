import DeviceAllocation.Text.Printable

/-! Lower case in version 14.0 of the character standard, but for the capital I with a dot and the
capital sigma at the end of a word. -/

namespace DeviceAllocation.Text

/-- Runs in which capital letters take turns with small ones, the lower-case form of each capital
being the next character, from the first to the last capital. -/
def alternating : List (Nat × Nat) := [
  (0x100, 0x12e), (0x132, 0x136), (0x139, 0x147), (0x14a, 0x176), (0x179, 0x17d), (0x182, 0x184),
  (0x187, 0x187), (0x18b, 0x18b), (0x191, 0x191), (0x198, 0x198), (0x1a0, 0x1a4), (0x1a7, 0x1a7),
  (0x1ac, 0x1ac), (0x1af, 0x1af), (0x1b3, 0x1b5), (0x1b8, 0x1b8), (0x1bc, 0x1bc), (0x1c5, 0x1c5),
  (0x1c8, 0x1c8), (0x1cb, 0x1db), (0x1de, 0x1ee), (0x1f2, 0x1f4), (0x1f8, 0x21e), (0x222, 0x232),
  (0x23b, 0x23b), (0x241, 0x241), (0x246, 0x24e), (0x370, 0x372), (0x376, 0x376), (0x3d8, 0x3ee),
  (0x3f7, 0x3f7), (0x3fa, 0x3fa), (0x460, 0x480), (0x48a, 0x4be), (0x4c1, 0x4cd), (0x4d0, 0x52e),
  (0x1e00, 0x1e94), (0x1ea0, 0x1efe), (0x2183, 0x2183), (0x2c60, 0x2c60), (0x2c67, 0x2c6b),
  (0x2c72, 0x2c72), (0x2c75, 0x2c75), (0x2c80, 0x2ce2), (0x2ceb, 0x2ced), (0x2cf2, 0x2cf2),
  (0xa640, 0xa66c), (0xa680, 0xa69a), (0xa722, 0xa72e), (0xa732, 0xa76e), (0xa779, 0xa77b),
  (0xa77e, 0xa786), (0xa78b, 0xa78b), (0xa790, 0xa792), (0xa796, 0xa7a8), (0xa7b4, 0xa7c2),
  (0xa7c7, 0xa7c9), (0xa7d0, 0xa7d0), (0xa7d6, 0xa7d8), (0xa7f5, 0xa7f5)]

/-- Runs of capital letters as first and last code point, with the distance to their lower-case
forms. -/
def shifted : List (Nat × Nat × Int) := [
  (0x41, 0x5a, 32), (0xc0, 0xd6, 32), (0xd8, 0xde, 32), (0x178, 0x178, -121), (0x181, 0x181, 210),
  (0x186, 0x186, 206), (0x189, 0x18a, 205), (0x18e, 0x18e, 79), (0x18f, 0x18f, 202),
  (0x190, 0x190, 203), (0x193, 0x193, 205), (0x194, 0x194, 207), (0x196, 0x196, 211),
  (0x197, 0x197, 209), (0x19c, 0x19c, 211), (0x19d, 0x19d, 213), (0x19f, 0x19f, 214),
  (0x1a6, 0x1a6, 218), (0x1a9, 0x1a9, 218), (0x1ae, 0x1ae, 218), (0x1b1, 0x1b2, 217),
  (0x1b7, 0x1b7, 219), (0x1c4, 0x1c4, 2), (0x1c7, 0x1c7, 2), (0x1ca, 0x1ca, 2), (0x1f1, 0x1f1, 2),
  (0x1f6, 0x1f6, -97), (0x1f7, 0x1f7, -56), (0x220, 0x220, -130), (0x23a, 0x23a, 10795),
  (0x23d, 0x23d, -163), (0x23e, 0x23e, 10792), (0x243, 0x243, -195), (0x244, 0x244, 69),
  (0x245, 0x245, 71), (0x37f, 0x37f, 116), (0x386, 0x386, 38), (0x388, 0x38a, 37),
  (0x38c, 0x38c, 64), (0x38e, 0x38f, 63), (0x391, 0x3a1, 32), (0x3a3, 0x3ab, 32), (0x3cf, 0x3cf, 8),
  (0x3f4, 0x3f4, -60), (0x3f9, 0x3f9, -7), (0x3fd, 0x3ff, -130), (0x400, 0x40f, 80),
  (0x410, 0x42f, 32), (0x4c0, 0x4c0, 15), (0x531, 0x556, 48), (0x10a0, 0x10c5, 7264),
  (0x10c7, 0x10c7, 7264), (0x10cd, 0x10cd, 7264), (0x13a0, 0x13ef, 38864), (0x13f0, 0x13f5, 8),
  (0x1c90, 0x1cba, -3008), (0x1cbd, 0x1cbf, -3008), (0x1e9e, 0x1e9e, -7615), (0x1f08, 0x1f0f, -8),
  (0x1f18, 0x1f1d, -8), (0x1f28, 0x1f2f, -8), (0x1f38, 0x1f3f, -8), (0x1f48, 0x1f4d, -8),
  (0x1f59, 0x1f59, -8), (0x1f5b, 0x1f5b, -8), (0x1f5d, 0x1f5d, -8), (0x1f5f, 0x1f5f, -8),
  (0x1f68, 0x1f6f, -8), (0x1f88, 0x1f8f, -8), (0x1f98, 0x1f9f, -8), (0x1fa8, 0x1faf, -8),
  (0x1fb8, 0x1fb9, -8), (0x1fba, 0x1fbb, -74), (0x1fbc, 0x1fbc, -9), (0x1fc8, 0x1fcb, -86),
  (0x1fcc, 0x1fcc, -9), (0x1fd8, 0x1fd9, -8), (0x1fda, 0x1fdb, -100), (0x1fe8, 0x1fe9, -8),
  (0x1fea, 0x1feb, -112), (0x1fec, 0x1fec, -7), (0x1ff8, 0x1ff9, -128), (0x1ffa, 0x1ffb, -126),
  (0x1ffc, 0x1ffc, -9), (0x2126, 0x2126, -7517), (0x212a, 0x212a, -8383), (0x212b, 0x212b, -8262),
  (0x2132, 0x2132, 28), (0x2160, 0x216f, 16), (0x24b6, 0x24cf, 26), (0x2c00, 0x2c2f, 48),
  (0x2c62, 0x2c62, -10743), (0x2c63, 0x2c63, -3814), (0x2c64, 0x2c64, -10727),
  (0x2c6d, 0x2c6d, -10780), (0x2c6e, 0x2c6e, -10749), (0x2c6f, 0x2c6f, -10783),
  (0x2c70, 0x2c70, -10782), (0x2c7e, 0x2c7f, -10815), (0xa77d, 0xa77d, -35332),
  (0xa78d, 0xa78d, -42280), (0xa7aa, 0xa7aa, -42308), (0xa7ab, 0xa7ab, -42319),
  (0xa7ac, 0xa7ac, -42315), (0xa7ad, 0xa7ad, -42305), (0xa7ae, 0xa7ae, -42308),
  (0xa7b0, 0xa7b0, -42258), (0xa7b1, 0xa7b1, -42282), (0xa7b2, 0xa7b2, -42261),
  (0xa7b3, 0xa7b3, 928), (0xa7c4, 0xa7c4, -48), (0xa7c5, 0xa7c5, -42307), (0xa7c6, 0xa7c6, -35384),
  (0xff21, 0xff3a, 32), (0x10400, 0x10427, 40), (0x104b0, 0x104d3, 40), (0x10570, 0x10570, 39),
  (0x10571, 0x1057a, 39), (0x10572, 0x10572, 39), (0x10574, 0x10574, 39), (0x10576, 0x10576, 39),
  (0x10578, 0x10578, 39), (0x1057a, 0x1057a, 39), (0x1057c, 0x1057c, 39), (0x1057d, 0x1058a, 39),
  (0x1057e, 0x1057e, 39), (0x10580, 0x10580, 39), (0x10582, 0x10582, 39), (0x10584, 0x10584, 39),
  (0x10586, 0x10586, 39), (0x10588, 0x10588, 39), (0x1058a, 0x1058a, 39), (0x1058c, 0x1058c, 39),
  (0x1058d, 0x10592, 39), (0x1058e, 0x1058e, 39), (0x10590, 0x10590, 39), (0x10592, 0x10592, 39),
  (0x10594, 0x10594, 39), (0x10595, 0x10595, 39), (0x10c80, 0x10cb2, 64), (0x118a0, 0x118bf, 32),
  (0x16e40, 0x16e5f, 32), (0x1e900, 0x1e921, 34)]

def lowerPoint (n : Nat) : Nat :=
  if alternating.any fun run => run.1 ≤ n && n ≤ run.2 && (n - run.1) % 2 = 0 then n + 1
  else
    match shifted.find? fun run => run.1 ≤ n && n ≤ run.2.1 with
    | some (_, _, distance) => ((n : Int) + distance).toNat
    | none => n

end DeviceAllocation.Text
