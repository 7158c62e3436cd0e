import ApiTypes.Text.Pieces

/-!
# Paths

A path is absolute or relative and names the steps to a file. Writing it drops
repeated separators and steps that stay in place; a step up is kept, because it
depends on the files whether it undoes the step before.
-/

set_option autoImplicit false

namespace ApiTypes

/-- The start of a path: nothing for a relative path, a separator for an absolute one. Exactly two
separators in front are kept apart from one. -/
structure Path where
  root : String
  names : List String
  deriving DecidableEq, Repr

namespace Path

def rootOf (s : List Char) : String :=
  match (s.takeWhile (· = '/')).length with
  | 0 => ""
  | 2 => "//"
  | _ => "/"

def isStep (name : List Char) : Bool := !name.isEmpty && name ≠ ['.']

def ofText (s : String) : Path :=
  ⟨rootOf s.toList, ((Text.split '/' s.toList).filter isStep).map String.ofList⟩

/-- The written form; the path of no steps is a dot. -/
def text (p : Path) : String :=
  if p.root.isEmpty && p.names.isEmpty then "." else p.root ++ Text.join "/" p.names

def isAbsolute (p : Path) : Bool := !p.root.isEmpty

def join (p q : Path) : Path := if q.isAbsolute then q else ⟨p.root, p.names ++ q.names⟩

def parent (p : Path) : Path := ⟨p.root, p.names.dropLast⟩

def name (p : Path) : String := p.names.getLast?.getD ""

/-- The part of a name from its last dot on. A dot at either end of the name begins no suffix. -/
def suffixOf (name : String) : String :=
  let tail := name.toList.reverse.takeWhile (· ≠ '.')
  if tail.isEmpty || name.length ≤ tail.length + 1 then "" else String.ofList ('.' :: tail.reverse)

def suffix (p : Path) : String := suffixOf p.name

end Path

end ApiTypes
