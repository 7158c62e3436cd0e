import ApiTypes.Surroundings.Basic

/-!
# Where declarations go

Declarations are written to files in a directory, behind a banner, or are kept
in memory under their names.
-/

set_option autoImplicit false

namespace ApiTypes

def banner : String :=
  "/**\n * This file was auto-generated by otterts.\n * Do not make direct changes to the file.\n */\n\n"

/-- A directory for declarations, and the names of the files written so far. -/
structure OutputFolder (Target : Type) where
  directory : Target
  hasBanner : Bool
  written : List String
  deriving DecidableEq, Repr

namespace OutputFolder

variable {Tree Target : Type}

def inDirectory (s : Surroundings Tree Target) (directory : String) (hasBanner : Bool) :
    OutputFolder Target :=
  ⟨s.target directory, hasBanner, []⟩

def content (folder : OutputFolder Target) (declarations : String) : String :=
  if folder.hasBanner then banner ++ declarations else declarations

/-- A fault of the system is one of the output; another is passed on. -/
def problemOf (output : String) : WriteFault → Problem
  | .system fault => .output output fault
  | .content fault => .document fault

def emit (s : Surroundings Tree Target) (folder : OutputFolder Target) (declarations name : String)
    (tree : Tree) : Except Problem String × OutputFolder Target × Tree :=
  let p := s.join folder.directory name
  match s.makeAbove p tree with
  | (.error fault, tree) => (.error (problemOf (s.nameOf p) fault), folder, tree)
  | (.ok (), tree) =>
    match s.write p (folder.content declarations) tree with
    | (.error fault, tree) => (.error (problemOf (s.nameOf p) fault), folder, tree)
    | (.ok (), tree) =>
      (.ok (s.nameOf p), { folder with written := folder.written ++ [s.nameOf p] }, tree)

end OutputFolder

/-- Declarations kept in memory, each under its name; the last of a name stays. -/
structure OutputShelf where
  outputs : List (String × String)
  deriving DecidableEq, Repr

namespace OutputShelf

def empty : OutputShelf := ⟨[]⟩

def put (name declarations : String) : List (String × String) → List (String × String)
  | [] => [(name, declarations)]
  | (n, old) :: rest =>
    if n = name then (n, declarations) :: rest else (n, old) :: put name declarations rest

def emit (shelf : OutputShelf) (declarations name : String) : String × OutputShelf :=
  (declarations, ⟨put name declarations shelf.outputs⟩)

end OutputShelf

end ApiTypes
