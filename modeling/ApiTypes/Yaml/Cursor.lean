import ApiTypes.Yaml.Token

/-!
# Reading position

The text that is still to be read, and where it starts. Columns count from the
last line break; a byte order mark takes up no column.
-/

set_option autoImplicit false

namespace ApiTypes.Yaml

def isBreak (c : Char) : Bool :=
  c = '\n' || c = '\r' || c = '\u0085' || c = '\u2028' || c = '\u2029'

def isGap (c : Char) : Bool := c = ' ' || c = '\t'

structure Cursor where
  rest : List Char
  /-- the number of characters of the whole text -/
  size : Nat
  index : Nat
  line : Nat
  column : Nat

namespace Cursor

def start (text : List Char) : Cursor := ⟨text, text.length, 0, 0, 0⟩

def limit (c : Cursor) : Nat := c.size - c.index + 1

def peek (c : Cursor) : Option Char := c.rest.head?

def peekAt (n : Nat) (c : Cursor) : Option Char := c.rest[n]?

def endsOr (p : Char → Bool) : Option Char → Bool
  | none => true
  | some ch => p ch

def atEnd (c : Cursor) : Bool := c.rest.isEmpty

def lineEnds : Option Char → Bool := endsOr isBreak

def wordEnds : Option Char → Bool := endsOr fun ch => isGap ch || isBreak ch

def nameEnds : Option Char → Bool := endsOr fun ch => ch = ' ' || isBreak ch

/-- A carriage return is a break of its own unless a line feed follows. -/
def forward (c : Cursor) : Cursor :=
  match c.rest with
  | [] => c
  | ch :: r =>
    if isBreak ch && !(ch = '\r' && r.head? = some '\n') then { c with rest := r, index := c.index + 1, line := c.line + 1, column := 0 }
    else
      let column := if ch = '\ufeff' then c.column else c.column + 1
      { c with rest := r, index := c.index + 1, column := column }

def advance : Nat → Cursor → Cursor
  | 0, c => c
  | n + 1, c => advance n c.forward

def span (p : Char → Bool) (c : Cursor) : List Char × Cursor :=
  let word := c.rest.takeWhile p
  (word, c.advance word.length)

def skip (p : Char → Bool) (c : Cursor) : Cursor := (c.span p).2

def skipSpaces (c : Cursor) : Cursor := c.skip (· = ' ')

def skipIndent (column : Nat) (c : Cursor) : Cursor :=
  let spaces := (c.rest.takeWhile (· = ' ')).length
  c.advance (min spaces (column - c.column))

/-- Passes a line break, if there is one. The two separators stay what they are, any other break
becomes a line feed. -/
def lineBreak? (c : Cursor) : Option (Char × Cursor) :=
  match c.rest with
  | '\r' :: '\n' :: _ => some ('\n', c.advance 2)
  | ch :: _ =>
    if !isBreak ch then none
    else if ch = '\u2028' || ch = '\u2029' then some (ch, c.forward)
    else some ('\n', c.forward)
  | [] => none

def skipBreak (c : Cursor) : Cursor :=
  match c.lineBreak? with
  | some (_, c) => c
  | none => c

def isDocumentMark (mark : Char) (c : Cursor) : Bool :=
  match c.rest with
  | a :: b :: d :: r => a = mark && b = mark && d = mark && wordEnds r.head?
  | _ => false

def isDocumentBorder (c : Cursor) : Bool := c.isDocumentMark '-' || c.isDocumentMark '.'

def skipComment (c : Cursor) : Cursor :=
  if c.peek = some '#' then c.skip fun ch => !isBreak ch else c

def blankLine (c : Cursor) : Except Error Cursor :=
  let c := c.skipSpaces.skipComment
  if lineEnds c.peek then .ok c.skipBreak else .error .malformed

end Cursor

end ApiTypes.Yaml
