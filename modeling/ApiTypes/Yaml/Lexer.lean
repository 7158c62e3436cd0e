import ApiTypes.Yaml.BlockScalar
import ApiTypes.Yaml.FlowScalar
import ApiTypes.Yaml.Properties

/-!
# Reading tokens

Block structure follows from columns: a deeper column opens a block and a
shallower one closes those it leaves. A node can turn out to be a key only when
the colon behind it is reached. Its place among the tokens is therefore
remembered, at most one for each flow level, and the marks that open the key are
put in front of it when all tokens are read. Where a token denotes nothing, the
reading ends in front of it, or in front of the first place that could still
become a key.
-/

set_option autoImplicit false

namespace ApiTypes.Yaml

/-- A place where a key may start. It is required if only a key can stand there. -/
structure PendingKey where
  level : Nat
  place : Nat
  required : Bool
  index : Nat
  line : Nat
  column : Nat

structure Lexer where
  cursor : Cursor
  flowLevel : Nat
  /-- the columns of the open blocks, innermost first -/
  columns : List Nat
  keyAllowed : Bool
  pending : List PendingKey
  tokens : Array Token
  /-- tokens that go in front of the one at a place -/
  insertions : List (Nat × List Token)

namespace Lexer

def keyReach : Nat := 1024

def start (text : List Char) : Lexer where
  cursor := .start (if text.head? = some '\ufeff' then text.drop 1 else text)
  flowLevel := 0
  columns := []
  keyAllowed := true
  pending := []
  tokens := #[]
  insertions := []

def indent (l : Lexer) : Int :=
  match l.columns with
  | [] => -1
  | column :: _ => column

def inFlow (l : Lexer) : Bool := l.flowLevel ≠ 0

def column (l : Lexer) : Nat := l.cursor.column

def push (t : Token) (l : Lexer) : Lexer := { l with tokens := l.tokens.push t }

def pushAt (t : Token) (c : Cursor) (l : Lexer) : Lexer := { l.push t with cursor := c }

def allowKey (allowed : Bool) (l : Lexer) : Lexer := { l with keyAllowed := allowed }

/-- Passes blanks, comments and line breaks. A new line outside flow collections may start a key. -/
def skipToToken : Nat → Lexer → Lexer
  | 0, l => l
  | n + 1, l =>
    let c := l.cursor.skipSpaces.skipComment
    match c.lineBreak? with
    | some (_, c) => skipToToken n { l with cursor := c, keyAllowed := l.keyAllowed || !l.inFlow }
    | none => { l with cursor := c }

def closeTo (column : Int) (l : Lexer) : Lexer :=
  if l.inFlow then l
  else
    let kept := l.columns.dropWhile fun (c : Nat) => column < (c : Int)
    let closed := l.columns.length - kept.length
    { l with columns := kept, tokens := l.tokens ++ Array.replicate closed Token.blockEnd }

/-- Opens a block at a column, unless the innermost one is as deep. -/
def opens (column : Nat) (l : Lexer) : Bool := l.indent < column

def openBlock (column : Nat) (mark : Token) (l : Lexer) : Lexer :=
  if l.opens column then { l.push mark with columns := column :: l.columns } else l

def isStale (l : Lexer) (k : PendingKey) : Bool :=
  k.line ≠ l.cursor.line || keyReach < l.cursor.index - k.index

def dropStale (l : Lexer) : Except Error Lexer :=
  if l.pending.any fun k => l.isStale k && k.required then .error .malformed
  else .ok { l with pending := l.pending.filter fun k => !l.isStale k }

def pendingHere (l : Lexer) : Option PendingKey := l.pending.find? (·.level = l.flowLevel)

def forget (l : Lexer) : Lexer :=
  { l with pending := l.pending.filter (·.level ≠ l.flowLevel) }

def dropPending (l : Lexer) : Except Error Lexer :=
  match l.pendingHere with
  | some k => if k.required then .error .malformed else .ok l.forget
  | none => .ok l

def savePending (l : Lexer) : Except Error Lexer :=
  if !l.keyAllowed then .ok l
  else do
    let l ← l.dropPending
    let k : PendingKey := {
      level := l.flowLevel
      place := l.tokens.size
      required := !l.inFlow && l.indent = l.column
      index := l.cursor.index
      line := l.cursor.line
      column := l.column }
    return { l with pending := k :: l.pending }

def border (t : Token) (c : Cursor) (l : Lexer) : Except Error Lexer := do
  let l ← (l.closeTo (-1)).dropPending
  return (l.allowKey false).pushAt t c

def directive (l : Lexer) : Except Error Lexer := do
  let (d, c) ← Properties.directive l.cursor
  l.border (.directive d) c

def flowStart (t : Token) (l : Lexer) : Except Error Lexer := do
  let l ← l.savePending
  let l := { l with flowLevel := l.flowLevel + 1 }
  return (l.allowKey true).pushAt t l.cursor.forward

def flowEnd (t : Token) (l : Lexer) : Except Error Lexer := do
  if !l.inFlow then throw .malformed
  let l ← l.dropPending
  let l := { l with flowLevel := l.flowLevel - 1 }
  return (l.allowKey false).pushAt t l.cursor.forward

def flowEntry (l : Lexer) : Except Error Lexer := do
  let l ← (l.allowKey true).dropPending
  return l.pushAt .flowEntry l.cursor.forward

def openHere (mark : Token) (l : Lexer) : Except Error Lexer :=
  if l.inFlow then .ok l
  else if !l.keyAllowed then .error .malformed
  else .ok (l.openBlock l.column mark)

def blockEntry (l : Lexer) : Except Error Lexer := do
  let l ← l.openHere .blockSequenceStart
  let l ← (l.allowKey true).dropPending
  return l.pushAt .blockEntry l.cursor.forward

def key (l : Lexer) : Except Error Lexer := do
  let l ← l.openHere .blockMappingStart
  let l ← (l.allowKey (!l.inFlow)).dropPending
  return l.pushAt .key l.cursor.forward

def value (l : Lexer) : Except Error Lexer :=
  match l.pendingHere with
  | some k =>
    let opened := !l.inFlow && l.opens k.column
    let marks := if opened then [.blockMappingStart, .key] else [.key]
    let l := { l.forget with
      insertions := (k.place, marks) :: l.insertions
      columns := if opened then k.column :: l.columns else l.columns }
    .ok ((l.allowKey false).pushAt .value l.cursor.forward)
  | none => do
    let l ← l.openHere .blockMappingStart
    let l ← (l.allowKey (!l.inFlow)).dropPending
    return l.pushAt .value l.cursor.forward

def reference (l : Lexer) : Except Error Lexer := do
  let l ← l.savePending
  let (name, c) ← Properties.anchor l.cursor
  return (l.allowKey false).pushAt (.reference name) c

def anchor (l : Lexer) : Except Error Lexer := do
  let l ← l.savePending
  let (name, c) ← Properties.anchor l.cursor
  return (l.allowKey false).pushAt (.anchor name) c

def tag (l : Lexer) : Except Error Lexer := do
  let l ← l.savePending
  let (t, c) ← Properties.tag l.cursor
  return (l.allowKey false).pushAt (.tag t) c

def blockScalar (folded : Bool) (l : Lexer) : Except Error Lexer := do
  let l ← (l.allowKey true).dropPending
  let (text, c) ← BlockScalar.read folded l.indent l.cursor
  return l.pushAt (.scalar text false) c

def quoted (double : Bool) (l : Lexer) : Except Error Lexer := do
  let l ← l.savePending
  let (text, c) ← FlowScalar.readQuoted double l.cursor
  return (l.allowKey false).pushAt (.scalar text false) c

def plain (l : Lexer) : Except Error Lexer := do
  let l ← l.savePending
  let (text, newLine, c) := FlowScalar.readPlain l.inFlow l.indent l.cursor
  return (l.allowKey newLine).pushAt (.scalar text true) c

def startsPlain (l : Lexer) (ch : Char) : Bool :=
  !("-?:,[]\x7b\x7d#&*!|>'\"%@\x60".contains ch || isGap ch || isBreak ch) ||
    (!Cursor.wordEnds (l.cursor.peekAt 1) && (ch = '-' || (!l.inFlow && (ch = '?' || ch = ':'))))

def wordEndsNext (l : Lexer) : Bool := Cursor.wordEnds (l.cursor.peekAt 1)

def token (ch : Char) (l : Lexer) : Except Error Lexer :=
  let atMargin := l.column == 0
  if ch = '%' && atMargin then l.directive
  else if atMargin && l.cursor.isDocumentMark '-' then l.border .documentStart (l.cursor.advance 3)
  else if atMargin && l.cursor.isDocumentMark '.' then l.border .documentEnd (l.cursor.advance 3)
  else if ch = '[' then l.flowStart .flowSequenceStart
  else if ch = '\x7b' then l.flowStart .flowMappingStart
  else if ch = ']' then l.flowEnd .flowSequenceEnd
  else if ch = '\x7d' then l.flowEnd .flowMappingEnd
  else if ch = ',' then l.flowEntry
  else if ch = '-' && l.wordEndsNext then l.blockEntry
  else if ch = '?' && (l.inFlow || l.wordEndsNext) then l.key
  else if ch = ':' && (l.inFlow || l.wordEndsNext) then l.value
  else if ch = '*' then l.reference
  else if ch = '&' then l.anchor
  else if ch = '!' then l.tag
  else if ch = '|' && !l.inFlow then l.blockScalar false
  else if ch = '>' && !l.inFlow then l.blockScalar true
  else if ch = '\'' then l.quoted false
  else if ch = '"' then l.quoted true
  else if l.startsPlain ch then l.plain
  else .error .malformed

def clusters (l : Lexer) : List (List Token) :=
  let none : Array (List Token) := Array.replicate l.tokens.size []
  let marks := l.insertions.foldr (fun p marks => marks.setIfInBounds p.1 p.2) none
  List.zipWith (fun marks t => marks ++ [t]) marks.toList l.tokens.toList

def arranged (l : Lexer) : List Token := l.clusters.flatten

def settled (l : Lexer) : Nat :=
  ((l.pending.filter fun k => !l.isStale k).map (·.place)).foldl min l.tokens.size

def cutShort (f : Fault) (l : Lexer) : List Token :=
  (l.clusters.take l.settled).flatten ++ [.unreadable f]

/-- Reads tokens to the end of the text. The first argument bounds the number of the characters
that are left. -/
def run : Nat → Lexer → Except Error (List Token)
  | 0, _ => .error .malformed
  | n + 1, before => do
    let l := skipToToken (n + 1) before
    let l ← l.dropStale
    let l := l.closeTo l.column
    match l.cursor.peek with
    | none => return (← (l.closeTo (-1)).dropPending).arranged
    | some ch =>
      match l.token ch with
      | .ok l => run n l
      | .error (.fault f) => return before.cutShort f
      | .error .malformed => throw .malformed

end Lexer

/-- The characters that a document may hold. Halves of surrogate pairs are none of them. -/
def isDocumentChar (c : Char) : Bool :=
  (Text.half? c).isNone && (c = '\t' || c = '\n' || c = '\r' || c = '\u0085' ||
    (0x20 ≤ c.toNat && c.toNat ≤ 0x7E) || (0xA0 ≤ c.toNat && c.toNat ≤ 0xFFFD) || 0x10000 ≤ c.toNat)

/-- The tokens of a text. Each takes at least one character. -/
def Token.ofText (text : String) : Except Error (List Token) := do
  let chars := text.toList
  if !chars.all isDocumentChar then throw .malformed
  Lexer.run (chars.length + 2) (.start chars)

end ApiTypes.Yaml
