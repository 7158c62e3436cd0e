import ApiTypes.Text.Blank
import ApiTypes.Text.Pieces

/-!
# Files of variables

A file of variables holds one binding to a line: a name, and behind an equals
sign a value, in quotes or up to a comment. A name alone has no value. A line
that is no binding is passed over. Inside a value, a dollar sign and a name in
braces stand for the value of a variable that is bound before or outside of the
file, or for a default where there is none.
-/

set_option autoImplicit false

namespace ApiTypes.VariableFile

/-- What a line binds: a name, if there is one, to a value, if there is one. -/
abbrev Binding := Option String × Option String

def isLineEnd (c : Char) : Bool := c = '\n' || c = '\r'

def isGap (c : Char) : Bool := Text.isBlank c && !isLineEnd c

def skipGap (s : List Char) : List Char := s.dropWhile isGap

def skipExport (s : List Char) : List Char :=
  match Text.dropFront? "export".toList s with
  | some r => if r.head?.any isGap then skipGap r else s
  | none => s

def isNameChar (c : Char) : Bool := c ≠ '=' && c ≠ '#' && !Text.isBlank c

/-- The name in front of a text; a comment has none. -/
def name? (s : List Char) : Option (Option String × List Char) :=
  match s with
  | '#' :: _ => some (none, s)
  | '\'' :: r =>
    let body := r.takeWhile (· ≠ '\'')
    match r.drop body.length with
    | _ :: rest => if body.isEmpty then none else some (some (String.ofList body), rest)
    | [] => none
  | _ =>
    let body := s.takeWhile isNameChar
    if body.isEmpty then none else some (some (String.ofList body), s.drop body.length)

/-- A text up to its closing quote. A quote behind a backslash closes only where no other does. -/
def quotedBody (quote : Char) : List Char → Option (List Char × List Char)
  | [] => none
  | '\\' :: c :: r =>
    if c = quote then
      match quotedBody quote r with
      | some (body, rest) => some ('\\' :: c :: body, rest)
      | none => some (['\\'], r)
    else (quotedBody quote (c :: r)).map fun (body, rest) => ('\\' :: body, rest)
  | c :: r =>
    if c = quote then some ([], r)
    else (quotedBody quote r).map fun (body, rest) => (c :: body, rest)

def escapes (quote : Char) : List (Char × Char) :=
  if quote = '\'' then [('\\', '\\'), ('\'', '\'')]
  else [('\\', '\\'), ('\'', '\''), ('"', '"'), ('a', '\x07'), ('b', '\x08'), ('f', '\x0c'),
    ('n', '\n'), ('r', '\r'), ('t', '\t'), ('v', '\x0b')]

def unescape (known : List (Char × Char)) : List Char → List Char
  | '\\' :: c :: r =>
    match known.lookup c with
    | some d => d :: unescape known r
    | none => '\\' :: unescape known (c :: r)
  | c :: r => c :: unescape known r
  | [] => []

def dropComment : List Char → List Char
  | [] => []
  | c :: r =>
    if Text.isBlank c && (r.dropWhile Text.isBlank).head? = some '#' then [] else c :: dropComment r

def value? (s : List Char) : Option (String × List Char) :=
  match s with
  | [] => some ("", [])
  | c :: r =>
    if c = '\'' || c = '"' then
      (quotedBody c r).map fun (body, rest) => (String.ofList (unescape (escapes c) body), rest)
    else
      let body := s.takeWhile fun d => !isLineEnd d
      some (String.ofList (Text.stripRight (dropComment body)), s.drop body.length)

def lineEnd? (s : List Char) : Option (List Char) :=
  let r := skipGap s
  let r := if r.head? = some '#' then r.dropWhile fun c => !isLineEnd c else r
  match skipGap r with
  | [] => some []
  | '\r' :: '\n' :: rest => some rest
  | c :: rest => if isLineEnd c then some rest else none

def orStop {α : Type} (place : List Char) : Option α → Except (List Char) α
  | some a => .ok a
  | none => .error place

def binding (s : List Char) : Except (List Char) (Binding × List Char) := do
  let s := skipExport s
  let (name, r) ← orStop s (name? s)
  match skipGap r with
  | '=' :: r =>
    let r := skipGap r
    let (value, r) ← orStop r (value? r)
    return ((name, some value), ← orStop r (lineEnd? r))
  | r => return ((name, none), ← orStop r (lineEnd? r))

def dropLine (s : List Char) : List Char :=
  match s.dropWhile fun c => !isLineEnd c with
  | [] => []
  | _ :: r => r

/-- The bindings of a text. The first argument bounds the number of its lines. -/
def bindings : Nat → List Char → List Binding
  | 0, _ => []
  | n + 1, s =>
    match s.dropWhile Text.isBlank with
    | [] => []
    | s =>
      match binding s with
      | .ok (b, rest) => b :: bindings n rest
      | .error place => bindings n (dropLine place)

def embedded? (s : List Char) : Option (String × Option String × List Char) :=
  let isEnd (c : Char) : Bool := c = '\x7d' || c = ':'
  let name := s.takeWhile fun c => !isEnd c
  match s.drop name.length with
  | '\x7d' :: r => some (String.ofList name, none, r)
  | ':' :: '-' :: r =>
    let default := r.takeWhile (· ≠ '\x7d')
    match r.drop default.length with
    | _ :: rest => some (String.ofList name, some (String.ofList default), rest)
    | [] => none
  | _ => none

/-- Puts the values of variables into a text. The first argument bounds its length. -/
def fillIn (known : String → Option (Option String)) : Nat → List Char → String
  | 0, s => String.ofList s
  | _, [] => ""
  | n + 1, '$' :: '\x7b' :: r =>
    match embedded? r with
    | some (name, default, rest) =>
      (match known name with
        | some value => value.getD ""
        | none => default.getD "") ++ fillIn known n rest
    | none => "$" ++ fillIn known n ('\x7b' :: r)
  | n + 1, c :: r => c.toString ++ fillIn known n r

def put (name : String) (value : Option String) :
    List (String × Option String) → List (String × Option String)
  | [] => [(name, value)]
  | (n, old) :: rest => if n = name then (n, value) :: rest else (n, old) :: put name value rest

def resolve (environment : List (String × String)) (known : List (String × Option String)) :
    List Binding → List (String × Option String)
  | [] => known
  | (some name, value) :: rest =>
    let look (n : String) : Option (Option String) :=
      (known.lookup n).orElse fun _ => (environment.reverse.lookup n).map some
    let filled := value.map fun s => fillIn look (s.length + 1) s.toList
    resolve environment (put name filled known) rest
  | (none, _) :: rest => resolve environment known rest

def read (environment : List (String × String)) (text : String) : List (String × Option String) :=
  resolve environment [] (bindings (text.length + 1) text.toList)

end ApiTypes.VariableFile
