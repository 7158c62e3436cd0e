import ApiTypes.Text.Capital
import ApiTypes.Text.Mark

/-!
# The small form of a text

Each capital becomes its small letter. The capital sigma has two: one at the end
of a word, where a letter stands in front of it and none behind it, and one for
all other places. Marks and the like do not end a word. The tables hold the
characters that names of hosts may have, by Unicode 14.
-/

set_option autoImplicit false

namespace ApiTypes.Text

def casedRanges : Ranges :=
  [(0x41, 0x7a), (0xc0, 0x1ba), (0x1bc, 0x1bf), (0x1cd, 0x293), (0x295, 0x2af), (0x370, 0x373),
   (0x376, 0x481), (0x48a, 0x556), (0x560, 0x588), (0x10a0, 0x10ff), (0x13a0, 0x13f5),
   (0x1c90, 0x1cbf), (0x1d00, 0x1d2b), (0x1d6b, 0x1d9a), (0x1e00, 0x1ffa), (0x2126, 0x2cee),
   (0x2cf2, 0x2d2d), (0xa640, 0xa66d), (0xa680, 0xa69b), (0xa722, 0xa787), (0xa78b, 0xa78e),
   (0xa790, 0xa7f6), (0xa7fa, 0xa7fa), (0xab30, 0xab68), (0x10400, 0x1044f), (0x104b0, 0x104fb),
   (0x10570, 0x105bc), (0x10c80, 0x10cf2), (0x118a0, 0x118df), (0x16e40, 0x16e7f),
   (0x1df00, 0x1df09), (0x1df0b, 0x1df1e), (0x1e900, 0x1e943)]

/-- The characters but for marks that a word may have in it besides its letters. -/
def wordSignRanges : Ranges :=
  [(0x2e, 0x2e), (0xb7, 0xb7), (0x2b9, 0x2ee), (0x375, 0x375), (0x559, 0x559), (0x5f4, 0x5f4),
   (0x6e5, 0x6e6), (0x7f4, 0x7f5), (0x81a, 0x81a), (0x824, 0x824), (0x828, 0x828), (0x8c9, 0x8c9),
   (0x971, 0x971), (0xcbf, 0xcbf), (0xcc6, 0xcc6), (0xe46, 0xe46), (0xec6, 0xec6), (0x17d7, 0x17d7),
   (0x1843, 0x1843), (0x1aa7, 0x1aa7), (0x1c78, 0x1c7d), (0x1d2f, 0x1d4e), (0x200c, 0x200d),
   (0x2e2f, 0x2e2f), (0x3005, 0x3005), (0x309d, 0x309e), (0x30fc, 0x30fe), (0xa015, 0xa015),
   (0xa4f8, 0xa4fd), (0xa60c, 0xa60c), (0xa67f, 0xa67f), (0xa717, 0xa71f), (0xa788, 0xa788),
   (0xa9cf, 0xa9cf), (0xa9e6, 0xa9e6), (0xaa70, 0xaa70), (0xaadd, 0xaadd), (0xaaf3, 0xaaf4),
   (0xff0e, 0xff0e), (0x10780, 0x10780), (0x11a07, 0x11a08), (0x11c3f, 0x11c3f), (0x16b40, 0x16b43),
   (0x16f93, 0x16fe3), (0x1aff0, 0x1affe), (0x1e137, 0x1e13d), (0x1e94b, 0x1e94b)]

def isWordSign (c : Char) : Bool := isLaidOver c || wordSignRanges.contains c

def goesOn (s : List Char) : Bool :=
  match s.dropWhile isWordSign with
  | c :: _ => casedRanges.contains c
  | [] => false

def capitalSigma : Char := '\u03a3'

def smallSigma : Char := '\u03c3'

def lastSigma : Char := '\u03c2'

def smallBehind : List Char → List Char → List Char
  | _, [] => []
  | before, c :: r =>
    let form :=
      if c = capitalSigma then [if goesOn before && !goesOn r then lastSigma else smallSigma]
      else small c
    form ++ smallBehind (c :: before) r

def smallForm (s : List Char) : List Char := smallBehind [] s

end ApiTypes.Text
