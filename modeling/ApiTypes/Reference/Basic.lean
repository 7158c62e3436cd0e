import ApiTypes.Text.Pieces

/-!
# References

A reference that starts with `#` points into the document itself; it is
addressed by the name of a declared interface, which is the first segment of
its path, and an index for each further segment. Any other reference points
into another document, named by the text before the first `#/`, and is
addressed through the `external` type under that document's key.
-/

set_option autoImplicit false

namespace ApiTypes.Reference

def unescape (segment : List Char) : List Char :=
  Text.replacePair '~' '0' ['~'] (Text.replacePair '~' '1' ['/'] segment)

def bracket (name : List Char) : List Char := '[' :: '"' :: (name ++ ['"', ']'])

def index (segments : List (List Char)) : List Char :=
  segments.flatMap fun s => bracket (unescape s)

def suffixes : List (List Char) := [".json".toList, ".yaml".toList, ".yml".toList]

def dropSuffix? (s : List Char) : Option (List Char) :=
  suffixes.findSome? fun suffix => Text.dropEnd? suffix s

/-- The key of a document: its name without the suffix of a schema file, which may also stand
before one final line feed. -/
def documentKeyChars (name : List Char) : List Char :=
  match dropSuffix? name with
  | some key => key
  | none =>
    match Text.dropEnd? ['\n'] name with
    | none => name
    | some line => match dropSuffix? line with
      | some key => key ++ ['\n']
      | none => name

def documentKey (name : String) : String := String.ofList (documentKeyChars name.toList)

inductive Target where
  /-- A path in the document itself. -/
  | inside (path : List Char)
  /-- A path in the document with the given key; the path may be empty. -/
  | outside (key : List Char) (path : List Char)
  deriving DecidableEq, Repr

def Target.ofChars : List Char → Target
  | '#' :: path => .inside (path.dropWhile (· = '/'))
  | s =>
    let (document, path) := Text.cutPair '#' '/' s
    .outside (documentKeyChars document) (path.getD [])

def target (ref : String) : Target := Target.ofChars ref.toList

def address (path : List Char) : List Char :=
  match Text.split '/' path with
  | [] => []
  | head :: rest => head ++ index rest

/-- The expression for a target. The root is put before a path in the document itself. -/
def Target.expression (root : List Char) : Target → List Char
  | .inside path => address (root ++ path)
  | .outside key path =>
    "external".toList ++ bracket key ++ (if path.isEmpty then [] else index (Text.split '/' path))

def Target.key? : Target → Option (List Char)
  | .inside _ => none
  | .outside key _ => some key

def expression (root : String) (ref : String) : String :=
  String.ofList ((target ref).expression root.toList)

def externalKey? (ref : String) : Option String := (target ref).key?.map String.ofList

end ApiTypes.Reference
