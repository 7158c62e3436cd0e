import ApiTypes.Text.Lenient

/-!
# Character sets in rows of cells

A set of characters that is too large for one byte has its characters in cells.
All rows are of one width, and rows and cells count from one. The replacement
character stands in cells that hold nothing.
-/

set_option autoImplicit false

namespace ApiTypes.Encoding

structure CharacterSet where
  width : Nat
  chars : Array Char

namespace CharacterSet

/-- The set with the given characters, each run of them with its row and first cell, in ascending
order. -/
def ofRuns (width : Nat) (runs : List (Nat × Nat × String)) : CharacterSet where
  width := width
  chars := runs.foldl (fun chars (row, cell, run) =>
    let start := (row - 1) * width + (cell - 1)
    chars ++ Array.replicate (start - chars.size) Text.replacement ++ run.toList.toArray) #[]

def at? (s : CharacterSet) (row cell : Nat) : Option Char :=
  if 1 ≤ row && 1 ≤ cell && cell ≤ s.width then
    (s.chars[(row - 1) * s.width + (cell - 1)]?).filter (· ≠ Text.replacement)
  else none

def pairAt? (pairs : List (Nat × Nat × String)) (row cell : Nat) : Option (List Char) :=
  (pairs.find? fun p => p.1 = row && p.2.1 = cell).map fun p => p.2.2.toList

end CharacterSet

inductive Front where
  /-- Characters, and how many bytes they take. -/
  | chars (s : List Char) (size : Nat)
  /-- Some bytes that spell nothing. -/
  | wrong (size : Nat)
  /-- The beginning of a character, of which the rest is cut off. -/
  | cut

namespace Front

def ofChars? (size : Nat) : Option (List Char) → Front
  | some s => .chars s size
  | none => .wrong 1

def ofChar? (size : Nat) (c : Option Char) : Front := ofChars? size (c.map ([·]))

end Front

def decodeFronts (front : UInt8 → List UInt8 → Front) : List UInt8 → List Char
  | [] => []
  | b :: r =>
    match front b r with
    | .chars s size => s ++ decodeFronts front (r.drop (size - 1))
    | .wrong size => Text.replacement :: decodeFronts front (r.drop (size - 1))
    | .cut => [Text.replacement]
termination_by bytes => bytes.length
decreasing_by
  all_goals
    simp only [List.length_cons, List.length_drop]
    omega

end ApiTypes.Encoding
