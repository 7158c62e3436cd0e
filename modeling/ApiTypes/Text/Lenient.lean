/-!
# UTF-8 with errors in it

The text that bytes spell in UTF-8. Where they spell none, one replacement
character stands for as many bytes as could have begun a character.
-/

set_option autoImplicit false

namespace ApiTypes.Text

def replacement : Char := '\ufffd'

/-- What the first byte of a character says: how many bytes follow, its own bits, and the range of
the byte behind it. -/
structure Lead where
  more : Nat
  bits : Nat
  low : Nat
  high : Nat

/-- The ranges leave out spellings that are longer than needed, halves of surrogate pairs, and
numbers beyond the last code point. -/
def lead? (b : UInt8) : Option Lead :=
  let n := b.toNat
  if n < 0x80 then some ⟨0, n, 0, 0⟩
  else if n < 0xC2 then none
  else if n < 0xE0 then some ⟨1, n - 0xC0, 0x80, 0xBF⟩
  else if n < 0xF0 then
    some ⟨2, n - 0xE0, if n = 0xE0 then 0xA0 else 0x80, if n = 0xED then 0x9F else 0xBF⟩
  else if n < 0xF5 then
    some ⟨3, n - 0xF0, if n = 0xF0 then 0x90 else 0x80, if n = 0xF4 then 0x8F else 0xBF⟩
  else none

def following (low high : Nat) : Nat → List UInt8 → List UInt8
  | more + 1, b :: r =>
    if low ≤ b.toNat && b.toNat ≤ high then b :: following 0x80 0xBF more r else []
  | _, _ => []

def decodeLenient : List UInt8 → List Char
  | [] => []
  | b :: r =>
    match lead? b with
    | none => replacement :: decodeLenient r
    | some lead =>
      let more := following lead.low lead.high lead.more r
      let c :=
        if more.length = lead.more then
          Char.ofNat (more.foldl (fun n b => 64 * n + (b.toNat - 0x80)) lead.bits)
        else replacement
      c :: decodeLenient (r.drop more.length)
termination_by bytes => bytes.length
decreasing_by
  all_goals
    simp only [List.length_cons, List.length_drop]
    omega

end ApiTypes.Text
