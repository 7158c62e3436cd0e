import ApiTypes.Encoding.Basic
import ApiTypes.Text.Blank
import ApiTypes.Text.PercentCode

/-!
# Kinds of pages

The kind of a page is a word and parameters behind semicolons. One of them names
the character set, the encoding of the page's text. The value of a parameter may
come in parts, and with an encoding of its own.
-/

set_option autoImplicit false

namespace ApiTypes.MediaType

/-- The pieces between semicolons that do not stand in quotes. A quote behind a backslash does not
count. The first two arguments say whether the text stands in quotes and what is in front of it. -/
def pieces : Bool → Char → List Char → List (List Char)
  | _, _, [] => [[]]
  | inQuotes, before, c :: r =>
    if c = ';' && !inQuotes then [] :: pieces false ';' r
    else
      let turns := c = '"' && before ≠ '\\'
      match pieces (inQuotes != turns) c r with
      | piece :: rest => (c :: piece) :: rest
      | [] => [[c]]

def unquote (s : List Char) : List Char :=
  let inner := (s.drop 1).dropLast
  if s.length < 2 then s
  else if s.head? = some '"' && s.getLast? = some '"' then
    Text.replacePair '\\' '"' ['"'] (Text.replacePair '\\' '\\' ['\\'] inner)
  else if s.head? = some '<' && s.getLast? = some '>' then inner
  else s

def parameter (piece : List Char) : List Char × List Char :=
  match Text.cut '=' piece with
  | (name, some value) => ((Text.strip name).map Char.toLower, unquote (Text.strip value))
  | (name, none) => (Text.strip name, [])

/-- A part of a value. Parts may be numbered, and some have percent codes. -/
structure Part where
  number : Option Nat
  text : List Char
  isCoded : Bool
  deriving DecidableEq, Repr

/-- The parts of one parameter have numbers, but not all of them. -/
structure MixedParts where
  deriving DecidableEq, Repr

namespace Part

def isNamePart (c : Char) : Bool := c.isAlphanum || c = '_'

/-- A part by the name and the value that are written, with the name of the parameter: behind it an
asterisk and the number stand, and one more asterisk if there are percent codes. -/
def of? (name value : List Char) : Option (List Char × Part) :=
  let word := name.takeWhile isNamePart
  match name.dropWhile isNamePart with
  | '*' :: r =>
    let digits := r.takeWhile Char.isDigit
    let behind := r.dropWhile Char.isDigit
    let number := if digits.isEmpty then none else some (digits.foldl (fun n c => 10 * n + (c.toNat - 48)) 0)
    if word.isEmpty || !(behind.isEmpty || (behind = ['*'] && !digits.isEmpty)) then none
    else some (word, ⟨number, value, digits.isEmpty || !behind.isEmpty⟩)
  | _ => none

def precedes (p q : Part) : Bool :=
  let m := p.number.getD 0
  let n := q.number.getD 0
  m < n || (m = n && (p.text < q.text || (p.text = q.text && (!p.isCoded || q.isCoded))))

/-- The characters of a part. A percent code stands for the character of its number. -/
def chars (p : Part) : List Char :=
  if p.isCoded then (Text.percentBytes p.text).map fun b => Char.ofNat b.toNat else p.text

end Part

/-- The text of bytes, given as characters of their numbers, in an encoding with a name. It stays as
it is if it is no such text. -/
def inEncoding (name text : List Char) : List Char :=
  let name := if name.isEmpty then "us-ascii" else String.ofList name
  let bytes := text.map fun c => c.toNat.toUInt8
  ((Encoding.ofName? name).bind fun e => e.decodeWhole? bytes).getD text

/-- The value of all parts. If one has percent codes, the name of an encoding and that of a language
stand in front, with an apostrophe behind each of them. -/
def ofParts (parts : List Part) : Except MixedParts (List Char) :=
  if parts.any (·.number.isSome) && parts.any (·.number.isNone) then .error ⟨⟩
  else
    let text := (parts.mergeSort Part.precedes).flatMap Part.chars
    match Text.cut '\'' text with
    | (name, some rest) =>
      if !parts.any (·.isCoded) then .ok text
      else match Text.cut '\'' rest with
        | (_, some value) => .ok (inEncoding name value)
        | (_, none) => .ok (inEncoding [] text)
    | (_, none) => .ok (if parts.any (·.isCoded) then inEncoding [] text else text)

/-- The value of a parameter. Those that are given as a whole come before those in parts; what stands
in front of the first semicolon is never in parts. -/
def parameter? (name : String) (kind : String) : Except MixedParts (Option (List Char)) := do
  let all := (pieces false ';' kind.toList).map parameter
  let isNamed (n : List Char) : Bool := Text.lower (String.ofList n) = name
  let parts := (all.drop 1).filterMap fun p => Part.of? p.1 p.2
  let whole := all.take 1 ++ (all.drop 1).filter fun p => (Part.of? p.1 p.2).isNone
  let values ← ((parts.map (·.1)).eraseDups).mapM fun n => do
    return (n, ← ofParts ((parts.filter (·.1 = n)).map (·.2)))
  return ((whole ++ values).find? fun p => isNamed p.1).map (·.2)

def charset? (kind : String) : Except MixedParts (Option String) := do
  let value ← parameter? "charset" kind
  return (value.filter fun s => s.all fun c => c.toNat < 0x80).map fun s => Text.lower (String.ofList s)

/-- The encoding of a page of the given kind: UTF-8 unless another one is named. -/
def encoding (kind : String) : Except MixedParts Encoding := do
  return ((← charset? kind).bind Encoding.ofName?).getD .utf8

end ApiTypes.MediaType
