import ApiTypes.Encoding.Set.Ks1001

/-!
# Korean encodings

A Korean syllable has an initial, a vowel, and mostly a final. The set of
characters holds the syllables in use, and encodings spell the others by further
pairs of bytes in the order of their code points, or by their parts.
-/

set_option autoImplicit false

namespace ApiTypes.Encoding.Korean

def initials : List Char := "ㄱㄲㄴㄷㄸㄹㅁㅂㅃㅅㅆㅇㅈㅉㅊㅋㅌㅍㅎ".toList

def vowels : List Char := "ㅏㅐㅑㅒㅓㅔㅕㅖㅗㅘㅙㅚㅛㅜㅝㅞㅟㅠㅡㅢㅣ".toList

def finals : List Char := "ㄱㄲㄳㄴㄵㄶㄷㄹㄺㄻㄼㄽㄾㄿㅀㅁㅂㅄㅅㅆㅇㅈㅊㅋㅌㅍㅎ".toList

def firstSyllable : Nat := 0xAC00

def syllable (initial vowel final : Nat) : Char :=
  Char.ofNat (firstSyllable + (initial * 21 + vowel) * 28 + final)

def filler : Nat := 0xD4

def letterOf (cell : Nat) : Char := Char.ofNat (0x3131 + cell - 0xA1)

def spelled? (initial vowel final : Nat) : Option Char := do
  let i ← initials.idxOf? (letterOf initial)
  let v ← vowels.idxOf? (letterOf vowel)
  let f ← if final = filler then some 0 else (finals.idxOf? (letterOf final)).map (· + 1)
  return syllable i v f

def letterRow : Nat := 0xA4

def cell? (a b : Nat) : Option Char := ks1001.at? (a - 0xA0) (b - 0xA0)

def plain (b : UInt8) (r : List UInt8) : Front :=
  let n := b.toNat
  if n < 0x80 then .chars [Char.ofNat n] 1
  else match r with
    | [] => .cut
    | c :: r' =>
      if n = letterRow && c.toNat = filler then
        match r'.map UInt8.toNat with
        | d :: i :: e :: v :: f :: w :: _ =>
          if [d, e, f].all (· = letterRow) then .ofChar? 8 (spelled? i v w) else .wrong 1
        | _ => .cut
      else .ofChar? 2 (cell? n c.toNat)

def held : Array Bool :=
  ks1001.chars.foldl (fun held c => held.setIfInBounds (c.toNat - firstSyllable) true)
    (Array.replicate (19 * 21 * 28) false)

def otherSyllables : Array Char :=
  ((Array.range held.size).filter fun n => !held.getD n true).map fun n =>
    Char.ofNat (firstSyllable + n)

def trailPlace? (b : Nat) : Option Nat :=
  if 0x41 ≤ b && b ≤ 0x5A then some (b - 0x41)
  else if 0x61 ≤ b && b ≤ 0x7A then some (b - 0x61 + 26)
  else if 0x81 ≤ b && b ≤ 0xFE then some (b - 0x81 + 52)
  else none

def otherSyllable? (a b : Nat) : Option Char := do
  let place ← trailPlace? b
  if 0x81 ≤ a && a ≤ 0xA0 then otherSyllables[(a - 0x81) * 178 + place]?
  else if 0xA1 ≤ a && a ≤ 0xC6 && place < 84 then otherSyllables[32 * 178 + (a - 0xA1) * 84 + place]?
  else none

def unified (b : UInt8) (r : List UInt8) : Front :=
  let n := b.toNat
  if n < 0x80 then .chars [Char.ofNat n] 1
  else match r with
    | [] => .cut
    | c :: _ => .ofChar? 2 ((cell? n c.toNat).or (otherSyllable? n c.toNat))

/-- A part of a syllable: none, or a place in its order. -/
inductive Part where
  | missing
  | place (n : Nat)

def part? (missing : Nat) (ranges : List (Nat × Nat)) (first code : Nat) : Option Part :=
  if code = missing then some .missing
  else (((ranges.flatMap fun (a, b) => List.range' a (b - a + 1)).idxOf? code)).map fun n =>
    .place (n + first)

def ofParts? : Part → Part → Part → Option Char
  | .missing, .missing, .missing => some '\u3000'
  | .place i, .missing, .missing => initials[i]?
  | .missing, .place v, .missing => vowels[v]?
  | .missing, .missing, .place f => finals[f - 1]?
  | .place i, .place v, .missing => some (syllable i v 0)
  | .place i, .place v, .place f => some (syllable i v f)
  | _, _, _ => none

def combined? (n : Nat) : Option Char := do
  let initial ← part? 1 [(2, 20)] 0 (n / 1024 % 32)
  let vowel ← part? 2 [(3, 7), (10, 15), (18, 23), (26, 29)] 0 (n / 32 % 32)
  let final ← part? 1 [(2, 17), (19, 29)] 1 (n % 32)
  ofParts? initial vowel final

def sign? (a b : Nat) : Option Char :=
  let trails := (0x31 ≤ b && b ≤ 0x7E) || (0x91 ≤ b && b ≤ 0xFE)
  if a = 0xDF || 0xF9 < a || !trails || (a = 0xDA && 0xA1 ≤ b && b ≤ 0xD3) then none
  else
    let cell := b - if b < 0x91 then 0x31 else 0x43
    let row := if a < 0xE0 then 2 * (a - 0xD9) else 2 * a - 0x197
    -- the row of user-defined characters comes in front of the first one
    if a < 0xD9 then none else ks1001.at? (row + cell / 94 + 1) (cell % 94 + 1)

def combining (b : UInt8) (r : List UInt8) : Front :=
  let n := b.toNat
  if n < 0x80 then .chars [Char.ofNat n] 1
  else match r with
    | [] => .cut
    | c :: _ =>
      .ofChar? 2 (if n < 0xD8 then combined? (n * 256 + c.toNat) else sign? n c.toNat)

end ApiTypes.Encoding.Korean
