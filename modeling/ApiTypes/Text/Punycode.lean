/-!
# Characters beyond ASCII spelled in ASCII

The ASCII characters of a text stand in front of a hyphen, behind it the others:
in ascending order, each as a distance that says how far to go on, through the
places of the text and then through the code points. Distances are numerals of
digits whose weight adapts to those before them.
-/

set_option autoImplicit false

namespace ApiTypes.Punycode

def digitChar (d : Nat) : Char :=
  if d < 26 then Char.ofNat (0x61 + d) else Char.ofNat (0x30 + d - 26)

def digit? (c : Char) : Option Nat :=
  if c.isLower then some (c.toNat - 0x61)
  else if c.isUpper then some (c.toNat - 0x41)
  else if c.isDigit then some (c.toNat - 0x30 + 26)
  else none

def threshold (place bias : Nat) : Nat := min 26 (max 1 (36 * (place + 1) - bias))

theorem threshold_pos (place bias : Nat) : 0 < threshold place bias := by
  simp only [threshold]
  omega

def shrink (distance : Nat) : Nat × Nat :=
  if 455 < distance then
    let r := shrink (distance / 35)
    (r.1 + 1, r.2)
  else (0, distance)
termination_by distance
decreasing_by omega

def adapt (distance : Nat) (isFirst : Bool) (length : Nat) : Nat :=
  let d := if isFirst then distance / 700 else distance / 2
  let r := shrink (d + d / length)
  36 * r.1 + 36 * r.2 / (r.2 + 38)

def digits (bias place distance : Nat) : List Char :=
  let t := threshold place bias
  if distance < t then [digitChar distance]
  else digitChar (t + (distance - t) % (36 - t)) ::
    digits bias (place + 1) ((distance - t) / (36 - t))
termination_by distance
decreasing_by
  have pos := threshold_pos place bias
  have := Nat.div_le_self (distance - threshold place bias) (36 - threshold place bias)
  omega

/-- A text in the course of its spelling: the numerals, the distance gone since the last of them,
the bias, and how many characters are spelled. -/
structure Spelling where
  numerals : List Char
  distance : Nat
  bias : Nat
  count : Nat

def Spelling.pass (basic code : Nat) (s : Spelling) (c : Char) : Spelling :=
  if c.toNat < code then { s with distance := s.distance + 1 }
  else if c.toNat = code then
    ⟨s.numerals ++ digits s.bias 0 s.distance, 0,
      adapt s.distance (s.count = basic) (s.count + 1), s.count + 1⟩
  else s

def Spelling.run (text : List Char) (basic : Nat) : List Nat → Nat → Spelling → Spelling
  | [], _, s => s
  | code :: codes, start, s =>
    let s := { s with distance := s.distance + (code - start) * (s.count + 1) }
    let s := text.foldl (Spelling.pass basic code) s
    Spelling.run text basic codes (code + 1) { s with distance := s.distance + 1 }

def isBasic (c : Char) : Bool := c.toNat < 0x80

def encode (text : List Char) : List Char :=
  let basic := text.filter isBasic
  let codes := (((text.filter (!isBasic ·)).map Char.toNat).mergeSort (· ≤ ·)).eraseDups
  let spelling := Spelling.run text basic.length codes 0x80 ⟨[], 0, 72, basic.length⟩
  basic ++ (if basic.isEmpty then [] else ['-']) ++ spelling.numerals

def readDistance? (bias : Nat) : Nat → Nat → Nat → List Char → Option (Nat × List Char)
  | _, _, _, [] => none
  | place, weight, sum, c :: r =>
    match digit? c with
    | none => none
    | some d =>
      let t := threshold place bias
      if d < t then some (sum + d * weight, r)
      else readDistance? bias (place + 1) (weight * (36 - t)) (sum + d * weight) r

theorem readDistance?_length {bias place weight sum : Nat} {s r : List Char} {n : Nat}
    (h : readDistance? bias place weight sum s = some (n, r)) : r.length < s.length := by
  induction s generalizing place weight sum with
  | nil => simp [readDistance?] at h
  | cons c s ih =>
    simp only [readDistance?] at h
    split at h
    · simp at h
    · split at h
      · simp only [Option.some.injEq, Prod.mk.injEq] at h
        simp [← h.2]
      · have := ih h
        simp only [List.length_cons]
        omega

def char? (code : Nat) : Option Char := if code.isValidChar then some (Char.ofNat code) else none

/-- Puts the characters of the numerals in their places. The place is the one behind the last
character put in. -/
def insertAll? (text : List Char) (place code bias : Nat) (isFirst : Bool) (s : List Char) :
    Option (List Char) :=
  if s.isEmpty then some text
  else match _h : readDistance? bias 0 1 0 s with
    | none => none
    | some (distance, r) =>
      let room := text.length + 1
      let code := code + (place + distance) / room
      let place := (place + distance) % room
      match char? code with
      | none => none
      | some c =>
        insertAll? (text.take place ++ c :: text.drop place) (place + 1) code
          (adapt distance isFirst room) false r
termination_by s.length
decreasing_by exact readDistance?_length _h

def decode? (spelling : List Char) : Option (List Char) :=
  let numerals := (spelling.reverse.takeWhile (· ≠ '-')).reverse
  let basic := spelling.take (spelling.length - numerals.length - 1)
  insertAll? basic 0 0x80 72 true numerals

end ApiTypes.Punycode
