import ApiTypes.Text.DecimalDigit
import ApiTypes.Yaml.Cursor

/-!
# Block scalars

A block scalar keeps the lines that are indented at least as far as its first
one. A literal one keeps its line breaks, a folded one joins lines by a space
unless one of them starts with a blank. The header says which of the final line
breaks are kept and may give the indentation.
-/

set_option autoImplicit false

namespace ApiTypes.Yaml.BlockScalar

inductive Chomping where
  | strip | clip | keep
  deriving DecidableEq

structure Header where
  chomping : Chomping
  indent : Option Nat

def chomping? : Option Char → Option Chomping
  | some '+' => some .keep
  | some '-' => some .strip
  | _ => none

def indent? (ch : Option Char) : Option Nat := ch.bind Text.asciiDigit?

def marks (c : Cursor) : Header × Cursor :=
  match chomping? c.peek with
  | some chomping =>
    let c := c.forward
    match indent? c.peek with
    | some n => (⟨chomping, some n⟩, c.forward)
    | none => (⟨chomping, none⟩, c)
  | none =>
    match indent? c.peek with
    | some n =>
      let c := c.forward
      match chomping? c.peek with
      | some chomping => (⟨chomping, some n⟩, c.forward)
      | none => (⟨.clip, some n⟩, c)
    | none => (⟨.clip, none⟩, c)

def header (c : Cursor) : Except Error (Header × Cursor) := do
  let (h, c) := marks c
  if h.indent = some 0 || !Cursor.nameEnds c.peek then throw .malformed
  return (h, ← c.blankLine)

def leading : Nat → List Char → Nat → Cursor → List Char × Nat × Cursor
  | 0, breaks, widest, c => (breaks, widest, c)
  | n + 1, breaks, widest, c =>
    if c.peek = some ' ' then leading n breaks (max widest c.forward.column) c.forward
    else match c.lineBreak? with
      | some (b, c) => leading n (breaks ++ [b]) widest c
      | none => (breaks, widest, c)

def emptyLines (indent : Nat) : Nat → List Char → Cursor → List Char × Cursor
  | 0, breaks, c => (breaks, c)
  | n + 1, breaks, c =>
    let c := c.skipIndent indent
    match c.lineBreak? with
    | some (b, c) => emptyLines indent n (breaks ++ [b]) c
    | none => (breaks, c)

def isLine (indent : Nat) (c : Cursor) : Bool := c.column = indent && !c.atEnd

def startsBlank (c : Cursor) : Bool :=
  match c.peek with
  | some ch => isGap ch
  | none => false

def joint (folded : Bool) (blank nextBlank : Bool) (lineBreak breaks : List Char) : List Char :=
  if folded && lineBreak = ['\n'] && !blank && !nextBlank then
    (if breaks.isEmpty then [' '] else [])
  else lineBreak

def body (folded : Bool) (indent : Nat) :
    Nat → List Char → Cursor → List Char × List Char × List Char × Cursor
  | 0, breaks, c => ([], [], breaks, c)
  | n + 1, breaks, c =>
    if !isLine indent c then ([], [], breaks, c)
    else
      let blank := startsBlank c
      let (line, c) := c.span fun ch => !isBreak ch
      let (lineBreak, c) := match c.lineBreak? with
        | some (b, c) => ([b], c)
        | none => ([], c)
      let (after, c) := emptyLines indent c.limit [] c
      if isLine indent c then
        let between := joint folded blank (startsBlank c) lineBreak after
        let (text, final, behind, c) := body folded indent n after c
        (breaks ++ line ++ between ++ text, final, behind, c)
      else (breaks ++ line, lineBreak, after, c)

def read (folded : Bool) (blockIndent : Int) (c : Cursor) : Except Error (String × Cursor) := do
  let (h, c) ← header c.forward
  let least := max 1 (blockIndent + 1).toNat
  let limit := c.limit
  let (breaks, indent, c) := match h.indent with
    | some n =>
      let indent := least + n - 1
      let (breaks, c) := emptyLines indent limit [] c
      (breaks, indent, c)
    | none =>
      let (breaks, widest, c) := leading limit [] 0 c
      (breaks, max least widest, c)
  let (text, final, behind, c) := body folded indent limit breaks c
  let ending := match h.chomping with
    | .strip => []
    | .clip => final
    | .keep => final ++ behind
  return (String.ofList (text ++ ending), c)

end ApiTypes.Yaml.BlockScalar
