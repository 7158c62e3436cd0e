import ApiTypes.Text.DecimalDigit
import ApiTypes.Yaml.Cursor

/-!
# Quoted and plain scalars

A scalar may go on over several lines: a single line break becomes a space and
further ones are kept. A scalar in single quotes writes a quote twice, one in
double quotes has escapes, and a plain one ends where a key or a comment could
start.
-/

set_option autoImplicit false

namespace ApiTypes.Yaml.FlowScalar

def escaped? : Char → Option Char
  | '0' => some '\x00'
  | 'a' => some '\x07'
  | 'b' => some '\x08'
  | 't' => some '\t'
  | '\t' => some '\t'
  | 'n' => some '\n'
  | 'v' => some '\x0b'
  | 'f' => some '\x0c'
  | 'r' => some '\r'
  | 'e' => some '\x1b'
  | ' ' => some ' '
  | '"' => some '"'
  | '\\' => some '\\'
  | '/' => some '/'
  | 'N' => some '\u0085'
  | '_' => some '\u00a0'
  | 'L' => some '\u2028'
  | 'P' => some '\u2029'
  | _ => none

def escapeWidth? : Char → Option Nat
  | 'x' => some 2
  | 'u' => some 4
  | 'U' => some 8
  | _ => none

def charOfCode (n : Nat) : Except Error Char :=
  if 0x80000000 ≤ n then .error (.fault .codeNumber)
  else if 0x110000 ≤ n then .error (.fault .codePoint)
  else .ok (Text.charOfCode n)

def hexEscape (width : Nat) (c : Cursor) : Except Error (Char × Cursor) := do
  let digits := (c.rest.take width).filterMap Text.hexDigit?
  if digits.length ≠ width then throw .malformed
  return (← charOfCode (Text.digitsValue 16 digits), c.advance width)

def folded (lineBreak : Char) (breaks : List Char) : List Char :=
  if lineBreak ≠ '\n' then lineBreak :: breaks
  else if breaks.isEmpty then [' ']
  else breaks

/-- The empty lines inside quotes. A border between documents may not stand there. -/
def quotedBreaks : Nat → List Char → Cursor → Except Error (List Char × Cursor)
  | 0, breaks, c => .ok (breaks, c)
  | n + 1, breaks, c =>
    if c.isDocumentBorder then .error .malformed
    else
      let c := c.skip isGap
      match c.lineBreak? with
      | some (b, c) => quotedBreaks n (breaks ++ [b]) c
      | none => .ok (breaks, c)

def breaksHere (c : Cursor) : Except Error (List Char × Cursor) :=
  quotedBreaks c.limit [] c

/-- The escape behind a backslash. An escaped line break joins the lines. -/
def escapeHere (c : Cursor) : Except Error (List Char × Cursor) :=
  match c.peek with
  | none => .error .malformed
  | some ch =>
    match escaped? ch, escapeWidth? ch with
    | some r, _ => .ok ([r], c.forward)
    | none, some width => do
      let (r, c) ← hexEscape width c.forward
      return ([r], c)
    | none, none => if isBreak ch then breaksHere c.skipBreak else .error .malformed

def blanks (c : Cursor) : Except Error (List Char × Cursor) := do
  let (spaces, c) := c.span isGap
  match c.lineBreak? with
  | some (b, c) =>
    let (breaks, c) ← breaksHere c
    return (folded b breaks, c)
  | none => return (spaces, c)

def quotedText (double : Bool) : Nat → Cursor → Except Error (List Char × Cursor)
  | 0, _ => .error .malformed
  | n + 1, c =>
    match c.peek with
    | none => .error .malformed
    | some ch => do
      if ch = '\'' && !double then
        if c.peekAt 1 = some '\'' then
          let (text, c) ← quotedText double n (c.advance 2)
          return ('\'' :: text, c)
        else return ([], c.forward)
      else if ch = '"' && double then return ([], c.forward)
      else if ch = '\\' && double then
        let (piece, c) ← escapeHere c.forward
        let (text, c) ← quotedText double n c
        return (piece ++ text, c)
      else if isGap ch || isBreak ch then
        let (piece, c) ← blanks c
        let (text, c) ← quotedText double n c
        return (piece ++ text, c)
      else
        let (text, c) ← quotedText double n c.forward
        return (ch :: text, c)

def readQuoted (double : Bool) (c : Cursor) : Except Error (String × Cursor) := do
  let (text, c) ← quotedText double c.limit c.forward
  return (String.ofList text, c)

def plainEnds (inFlow : Bool) : List Char → Bool
  | [] => true
  | ch :: r =>
    isGap ch || isBreak ch ||
      (ch = ':' && Cursor.endsOr (fun d => isGap d || isBreak d || (inFlow && ",[]\x7b\x7d".contains d)) r.head?) ||
      (inFlow && ",?[]\x7b\x7d".contains ch)

def plainWord (inFlow : Bool) : List Char → List Char
  | [] => []
  | ch :: r => if plainEnds inFlow (ch :: r) then [] else ch :: plainWord inFlow r

def plainBreaks : Nat → List Char → Cursor → Option (List Char × Cursor)
  | 0, breaks, c => some (breaks, c)
  | n + 1, breaks, c =>
    if c.peek = some ' ' then plainBreaks n breaks c.forward
    else match c.lineBreak? with
      | some (b, c) => if c.isDocumentBorder then none else plainBreaks n (breaks ++ [b]) c
      | none => some (breaks, c)

/-- The gap between two words of a plain scalar. -/
structure Gap where
  text : List Char
  newLine : Bool
  cursor : Cursor

/-- The gap behind a word; an empty one ends the scalar. -/
def gap (c : Cursor) : Gap :=
  let (spaces, c) := c.span (· = ' ')
  match c.lineBreak? with
  | none => ⟨spaces, false, c⟩
  | some (b, c) =>
    if c.isDocumentBorder then ⟨[], true, c⟩
    else match plainBreaks c.limit [] c with
      | some (breaks, c) => ⟨folded b breaks, true, c⟩
      | none => ⟨[], true, c⟩

/-- The words of a plain scalar. The result says whether the last thing read was a line break. -/
def plainText (inFlow : Bool) (indent : Nat) :
    Nat → List Char → Bool → Cursor → List Char × Bool × Cursor
  | 0, _, newLine, c => ([], newLine, c)
  | n + 1, before, newLine, c =>
    let word := if c.peek = some '#' then [] else plainWord inFlow c.rest
    if word.isEmpty then ([], newLine, c)
    else
      let g := gap (c.advance word.length)
      let ends := g.text.isEmpty || g.cursor.peek = some '#' ||
        (!inFlow && g.cursor.column < indent)
      if ends then (before ++ word, g.newLine, g.cursor)
      else
        let (text, newLine, c) := plainText inFlow indent n g.text g.newLine g.cursor
        (before ++ word ++ text, newLine, c)

/-- Reads a plain scalar inside a block with the given indentation; the answer says whether a new
line was reached behind it. -/
def readPlain (inFlow : Bool) (blockIndent : Int) (c : Cursor) : String × Bool × Cursor :=
  let (text, newLine, c) :=
    plainText inFlow (blockIndent + 1).toNat c.limit [] false c
  (String.ofList text, newLine, c)

end ApiTypes.Yaml.FlowScalar
