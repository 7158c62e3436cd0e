import ApiTypes.Number.Numeral
import ApiTypes.Yaml.Cursor

/-!
# Anchors, tags and directives

The parts of a document that name a node or its type, and the lines in front of
a document that declare its version or a tag handle.
-/

set_option autoImplicit false

namespace ApiTypes.Yaml.Properties

def isNameChar (c : Char) : Bool :=
  c.isAlphanum || c = '-' || c = '_'

def name (c : Cursor) : Except Error (String × Cursor) :=
  let (word, c) := c.span isNameChar
  if word.isEmpty then .error .malformed else .ok (String.ofList word, c)

def anchorEnds : Option Char → Bool :=
  Cursor.endsOr fun ch => isGap ch || isBreak ch || "?:,]\x7d%@\x60".contains ch

def anchor (c : Cursor) : Except Error (String × Cursor) := do
  let (word, c) ← name c.forward
  if anchorEnds c.peek then return (word, c) else throw .malformed

def isUriChar (c : Char) : Bool := c.isAlphanum || "-;/?:@&=+$,_.!~*'()[]%".contains c

def percentBytes : List Char → Except Error (List UInt8 × List Char)
  | '%' :: a :: b :: r =>
    match Text.hexDigit? a, Text.hexDigit? b with
    | some x, some y => do
      let (bytes, rest) ← percentBytes r
      return (UInt8.ofNat (x * 16 + y) :: bytes, rest)
    | _, _ => .error .malformed
  | '%' :: _ => .error .malformed
  | r => .ok ([], r)

def decodeUri : Nat → List Char → Except Error (List Char)
  | 0, _ => .ok []
  | _, [] => .ok []
  | n + 1, c :: r =>
    if c = '%' then do
      let (bytes, rest) ← percentBytes (c :: r)
      match String.fromUTF8? ⟨bytes.toArray⟩ with
      | some text => return text.toList ++ (← decodeUri n rest)
      | none => throw .malformed
    else do return c :: (← decodeUri n r)

def uri (c : Cursor) : Except Error (String × Cursor) := do
  let (word, c) := c.span isUriChar
  if word.isEmpty then throw .malformed
  return (String.ofList (← decodeUri (word.length + 1) word), c)

def handle (c : Cursor) : Except Error (String × Cursor) :=
  if c.peek ≠ some '!' then .error .malformed
  else
    let after := c.forward
    if after.peek = some ' ' then .ok ("!", after)
    else
      let (word, c) := after.span isNameChar
      if c.peek = some '!' then .ok (String.ofList ('!' :: (word ++ ['!'])), c.forward)
      else .error .malformed

def hasHandle (c : Cursor) : Bool :=
  (c.rest.takeWhile fun ch => !(ch = ' ' || isBreak ch)).contains '!'

def tagName (c : Cursor) : Except Error (TagName × Cursor) := do
  let after := c.forward
  if after.peek = some '<' then
    let (suffix, c) ← uri after.forward
    if c.peek = some '>' then return (⟨none, suffix⟩, c.forward) else throw .malformed
  else if Cursor.wordEnds after.peek then return (⟨none, "!"⟩, after)
  else if hasHandle after then
    let (h, c) ← handle c
    let (suffix, c) ← uri c
    return (⟨some h, suffix⟩, c)
  else
    let (suffix, c) ← uri after
    return (⟨some "!", suffix⟩, c)

def tag (c : Cursor) : Except Error (TagName × Cursor) := do
  let (t, c) ← tagName c
  if Cursor.nameEnds c.peek then return (t, c) else throw .malformed

def number (c : Cursor) : Except Error (Nat × Cursor) :=
  let (digits, c) := c.span Char.isDigit
  if digits.isEmpty then .error .malformed
  else if Numeral.maxDigits < digits.length then .error (.fault (.numeralTooLong digits.length))
  else .ok (Text.digitsValue 10 (digits.filterMap Text.asciiDigit?), c)

def version (c : Cursor) : Except Error (Directive × Cursor) := do
  let (major, c) ← number c.skipSpaces
  if c.peek ≠ some '.' then throw .malformed
  let (_, c) ← number c.forward
  if Cursor.nameEnds c.peek then return (.version major, c) else throw .malformed

def shorthand (c : Cursor) : Except Error (Directive × Cursor) := do
  let (h, c) ← handle c.skipSpaces
  if c.peek ≠ some ' ' then throw .malformed
  let (meaning, c) ← uri c.skipSpaces
  if Cursor.nameEnds c.peek then return (.tag h meaning, c) else throw .malformed

def directive (c : Cursor) : Except Error (Directive × Cursor) := do
  let (word, c) ← name c.forward
  if !Cursor.nameEnds c.peek then throw .malformed
  let (d, c) ← match word with
    | "YAML" => version c
    | "TAG" => shorthand c
    | _ => .ok (.other, c.skip fun ch => !isBreak ch)
  return (d, ← c.blankLine)

end ApiTypes.Yaml.Properties
