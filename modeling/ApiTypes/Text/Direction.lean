import ApiTypes.Text.Mark

/-!
# Directions of writing

The letters of names have a direction: those of Hebrew and Arabic go from the
right to the left, most others from the left to the right. Digits are numbers
inside either. The tables hold the characters that names may have, by Unicode 14.
-/

set_option autoImplicit false

namespace ApiTypes.Text

inductive Direction where
  | leftToRight | rightToLeft | arabic | arabicNumber | number | neutral | mark
  deriving DecidableEq, Repr

def rightToLeftRanges : Ranges :=
  [(0x5d0, 0x5f4), (0x7c0, 0x7ea), (0x7f4, 0x7f5), (0x800, 0x815), (0x81a, 0x81a), (0x824, 0x824),
   (0x828, 0x828), (0x840, 0x858), (0x10800, 0x10a00), (0x10a10, 0x10a35), (0x10a60, 0x10ae4),
   (0x10b00, 0x10cf2), (0x10e80, 0x10ea9), (0x10eb0, 0x10f27), (0x10f70, 0x10f81),
   (0x10fb0, 0x10ff6), (0x1e800, 0x1e8c4), (0x1e922, 0x1e943), (0x1e94b, 0x1e959)]

def arabicRanges : Ranges :=
  [(0x620, 0x64a), (0x66e, 0x66f), (0x671, 0x6d5), (0x6e5, 0x6e6), (0x6ee, 0x6ef), (0x6fa, 0x710),
   (0x712, 0x72f), (0x74d, 0x7a5), (0x7b1, 0x7b1), (0x860, 0x88e), (0x8a0, 0x8c9), (0xfe73, 0xfe73),
   (0x10d00, 0x10d23), (0x10f30, 0x10f45)]

def arabicNumberRanges : Ranges :=
  [(0x660, 0x669), (0x10d30, 0x10d39)]

def numberRanges : Ranges :=
  [(0x30, 0x39), (0x6f0, 0x6f9)]

def neutralRanges : Ranges :=
  [(0x2d, 0x2d), (0xb7, 0xb7), (0x2b9, 0x2ba), (0x2c6, 0x2cf), (0x2ec, 0x2ec), (0x375, 0x375),
   (0x200c, 0x200d), (0x2e2f, 0x2e2f), (0x30fb, 0x30fb), (0xa67f, 0xa67f), (0xa717, 0xa71f),
   (0xa788, 0xa788)]

def direction (c : Char) : Direction :=
  if numberRanges.contains c then .number
  else if neutralRanges.contains c then .neutral
  else if isLaidOver c then .mark
  else if rightToLeftRanges.contains c then .rightToLeft
  else if arabicRanges.contains c then .arabic
  else if arabicNumberRanges.contains c then .arabicNumber
  else .leftToRight

end ApiTypes.Text
