import ApiTypes.Encoding.Set.Big5
import ApiTypes.Encoding.Set.Gb2312
import ApiTypes.Encoding.Set.Gbk
import ApiTypes.Encoding.Set.HongKong

/-!
# Chinese encodings

The set in short forms has one byte above ASCII for the row and one for the
cell. Its extensions use further pairs of bytes: the remaining ideographs stand
there in the order of their code points, then private characters, and four bytes
spell whatever is left. The set in full forms has an order of its own.
-/

set_option autoImplicit false

namespace ApiTypes.Encoding.Chinese

def inPairs (pair? : Nat → Nat → Option (List Char)) (b : UInt8) (r : List UInt8) : Front :=
  let n := b.toNat
  if n < 0x80 then .chars [Char.ofNat n] 1
  else match r with
    | [] => .cut
    | c :: _ => .ofChars? 2 (pair? n c.toNat)

def cell? (a b : Nat) : Option Char := gb2312.at? (a - 0xA0) (b - 0xA0)

def short : UInt8 → List UInt8 → Front := inPairs fun a b => (cell? a b).map ([·])

def heldOf (chars : Array Char) : Array Bool :=
  chars.foldl (fun held c => held.setIfInBounds c.toNat true) (Array.replicate 0x10000 false)

def notHeld (held : Array Bool) (first count : Nat) : Array Char :=
  ((Array.range' first count).filter fun n => n.isValidChar && !held.getD n true).map Char.ofNat

def firstIdeograph : Nat := 0x4E00

def lastIdeograph : Nat := 0x9FA5

def otherIdeographs : Array Char :=
  notHeld (heldOf gb2312.chars) firstIdeograph (lastIdeograph - firstIdeograph + 1)

def trailPlace? (b : Nat) : Option Nat :=
  if 0x40 ≤ b && b ≤ 0x7E then some (b - 0x40)
  else if 0x80 ≤ b && b ≤ 0xFE then some (b - 0x41)
  else none

def lowTrails : Nat := 96

/-- The ideograph of two bytes, of which the first or the second is no row or cell of the set. -/
def otherIdeograph? (a place : Nat) : Option Char :=
  if 0x81 ≤ a && a ≤ 0xA0 then otherIdeographs[(a - 0x81) * 190 + place]?
  else if 0xAA ≤ a && place < lowTrails then otherIdeographs[32 * 190 + (a - 0xAA) * lowTrails + place]?
  else none

def extended? (a b : Nat) : Option Char := do
  let place ← trailPlace? b
  ((gbkSigns.at? (a - 0x80) (place + 1)).or (cell? a b)).or (otherIdeograph? a place)

def shortExtended : UInt8 → List UInt8 → Front := inPairs fun a b => (extended? a b).map ([·])

def firstPrivate : Nat := 0xE000

def private? (a b : Nat) : Option Nat := do
  let place ← trailPlace? b
  if 0xAA ≤ a && a ≤ 0xAF && lowTrails ≤ place then return (a - 0xAA) * 94 + (place - lowTrails)
  else if 0xF8 ≤ a && a ≤ 0xFE && lowTrails ≤ place then return (a - 0xF8 + 6) * 94 + (place - lowTrails)
  else if 0xA1 ≤ a && a ≤ 0xA7 && place < lowTrails then
    return 13 * 94 + (a - 0xA1) * lowTrails + place
  else none

def allPairs : List (Nat × Nat) :=
  (List.range' 0x81 126).flatMap fun a =>
    (List.range' 0x40 63 ++ List.range' 0x80 127).map fun b => (a, b)

/-- The pairs of bytes that are neither spelled by the first extension nor in the areas of private
characters. -/
def freePairs : List (Nat × Nat) :=
  allPairs.filter fun p => (extended? p.1 p.2).isNone && (private? p.1 p.2).isNone

def privateCount : Nat := 13 * 94 + 7 * lowTrails

def privateChar? (a b : Nat) : Option Char :=
  let number := (private? a b).orElse fun _ => (freePairs.idxOf? (a, b)).map (privateCount + ·)
  number.map fun n => Char.ofNat (firstPrivate + n)

def full? (a b : Nat) : Option Char := do
  let place ← trailPlace? b
  ((extended? a b).or (gb18030Signs.at? (a - 0x80) (place + 1))).orElse fun _ => privateChar? a b

def others : Array Char :=
  notHeld (heldOf (allPairs.filterMap fun p => full? p.1 p.2).toArray) 0x80 (0x10000 - 0x80)

def fourBytes? (n : Nat) : Option Char :=
  let beyond := n - 15 * 12600 + 0x10000
  if n < others.size then others[n]?
  else if 15 * 12600 ≤ n && beyond.isValidChar then some (Char.ofNat beyond)
  else none

def shortFull (b : UInt8) (r : List UInt8) : Front :=
  let n := b.toNat
  let isDigit (k : Nat) : Bool := 0x30 ≤ k && k ≤ 0x39
  let leads (k : Nat) : Bool := 0x81 ≤ k && k ≤ 0xFE
  if n < 0x80 then .chars [Char.ofNat n] 1
  else match r.map UInt8.toNat with
    | [] => .cut
    | c :: r' =>
      if isDigit c then
        match r' with
        | d :: e :: _ =>
          if leads n && leads d && isDigit e then
            .ofChar? 4
              (fourBytes? ((((n - 0x81) * 10 + (c - 0x30)) * 126 + (d - 0x81)) * 10 + (e - 0x30)))
          else .wrong 1
        | _ => .cut
      else .ofChar? 2 (full? n c)

def place? (a b : Nat) : Option (Nat × Nat) :=
  if 0x40 ≤ b && b ≤ 0x7E then some (a - 0x80, b - 0x40 + 1)
  else if 0xA1 ≤ b && b ≤ 0xFE then some (a - 0x80, b - 0xA1 + 64)
  else none

def full (b : UInt8) (r : List UInt8) : Front :=
  inPairs (fun a b => (place? a b).bind fun (row, cell) => (big5.at? row cell).map ([·])) b r

def fullVendor : UInt8 → List UInt8 → Front :=
  inPairs fun a b => (place? a b).bind fun (row, cell) =>
    ((big5Vendor.at? row cell).or (big5.at? row cell)).map ([·])

def isReplaced (a b : Nat) : Bool := 0xC6A1 ≤ a * 256 + b && a * 256 + b ≤ 0xC8FE

def hongKong? (a b : Nat) : Option (List Char) := do
  let (row, cell) ← place? a b
  let plain := if isReplaced a b then none else big5.at? row cell
  (((Encoding.hongKong.at? row cell).or plain).map ([·])).or
    (CharacterSet.pairAt? hongKongPairs row cell)

def fullHongKong : UInt8 → List UInt8 → Front := inPairs hongKong?

end ApiTypes.Encoding.Chinese
