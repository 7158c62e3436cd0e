import ApiTypes.Encoding.Designation

/-!
# Encodings of several bytes a character

The encodings in which the first byte of a character says how many there are, and
those that change their set, each with what it is known for.
-/

set_option autoImplicit false

namespace ApiTypes.Encoding

inductive Several where
  | jisShifted
  | jisShiftedVendor
  | jisShiftedExtended (edition : Edition)
  | jisAbove
  | jisAboveExtended (edition : Edition)
  | ksAbove
  | ksUnified
  | ksCombining
  | gbAbove
  | gbExtended
  | gbFull
  | bigFive
  | bigFiveVendor
  | bigFiveHongKong
  deriving DecidableEq, Repr

def Several.front : Several → UInt8 → List UInt8 → Front
  | .jisShifted => Japanese.shifted
  | .jisShiftedVendor => Japanese.shiftedVendor
  | .jisShiftedExtended edition => Japanese.shiftedExtended edition
  | .jisAbove => Japanese.plain
  | .jisAboveExtended edition => Japanese.extended edition
  | .ksAbove => Korean.plain
  | .ksUnified => Korean.unified
  | .ksCombining => Korean.combining
  | .gbAbove => Chinese.short
  | .gbExtended => Chinese.shortExtended
  | .gbFull => Chinese.shortFull
  | .bigFive => Chinese.full
  | .bigFiveVendor => Chinese.fullVendor
  | .bigFiveHongKong => Chinese.fullHongKong

def severals : List (String × Several) :=
  [("shift_jis", .jisShifted), ("cp932", .jisShiftedVendor),
   ("shift_jisx0213", .jisShiftedExtended .first),
   ("shift_jis_2004", .jisShiftedExtended .second), ("euc_jp", .jisAbove),
   ("euc_jisx0213", .jisAboveExtended .first), ("euc_jis_2004", .jisAboveExtended .second),
   ("euc_kr", .ksAbove), ("cp949", .ksUnified), ("johab", .ksCombining), ("gb2312", .gbAbove),
   ("gbk", .gbExtended), ("gb18030", .gbFull), ("big5", .bigFive), ("cp950", .bigFiveVendor),
   ("big5hkscs", .bigFiveHongKong)]

def EscapeRules.japanese (sets : List (String × Designated)) : EscapeRules :=
  ⟨("$B", .jis) :: sets, false, false, true⟩

def oldSets : List (String × Designated) := [("$@", .jis), ("J", .roman)]

def escapeRules : List (String × EscapeRules) :=
  [("iso2022_jp", .japanese oldSets),
   ("iso2022_jp_1", .japanese (("$D", .supplementary) :: oldSets)),
   ("iso2022_jp_2",
     { EscapeRules.japanese ([("$D", .supplementary), ("$C", .korean), ("$A", .chinese),
         ("A", .latin), ("F", .greek)] ++ oldSets) with hasThird := true }),
   ("iso2022_jp_3", .japanese [("$O", .firstPlane .first), ("$P", .secondPlane)]),
   ("iso2022_jp_2004", .japanese [("$Q", .firstPlane .second), ("$P", .secondPlane)]),
   ("iso2022_jp_ext", .japanese ([("$D", .supplementary), ("I", .kana)] ++ oldSets)),
   ("iso2022_kr", ⟨[("$C", .korean)], true, false, false⟩)]

end ApiTypes.Encoding
