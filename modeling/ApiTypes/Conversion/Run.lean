import ApiTypes.Conversion.Output
import ApiTypes.Document.Generator
import ApiTypes.Files.Path

/-!
# Making conversions

A conversion finds its mapper, reads its source, generates the declarations and
writes them. Several conversions are made in turn, each on the files that those
before it left, up to the first that fails.
-/

set_option autoImplicit false

namespace ApiTypes.Conversion

variable {Tree Target : Type}

def findMapper (s : Surroundings Tree Target) (c : Conversion) (tree : Tree) :
    Except Problem (Option Mapper.Named) :=
  match c.mapper with
  | none => .ok none
  | some path =>
    if path = "" then .ok none
    else match Mapper.find (fun home => s.importModule home tree) path with
      | .ok mapper => .ok (some mapper)
      | .error fault => .error (.mapper fault)

def problemOf (source : String) : Refusal → Problem
  | .shapeless => .shapeless source
  | .fault f => .document f

/-- The labels of the schemas that a mapper gets: the document itself in raw mode, or else the
schemas among its components. -/
def schemaLabels (raw : Bool) (document : Document) : Option Labels :=
  if raw then document.labels
  else do
    let components ← (← document.labels).under? "components" document.value
    components.under? "schemas" (document.value.inside "components")

def render (s : Surroundings Tree Target) (c : Conversion) (tree : Tree) : Except Problem Output := do
  let mapper ← c.findMapper s tree
  let document ← (s.load c.source tree).mapError (.source c.source)
  let run := mapper.map fun m => m.run (schemaLabels c.raw document)
  (generate ⟨c.raw, run⟩ document.value).mapError (problemOf c.source)

def folder (s : Surroundings Tree Target) (c : Conversion) : OutputFolder Target :=
  .inDirectory s (Path.ofText c.output).parent.text true

def outputName (c : Conversion) : String := (Path.ofText c.output).name

def run (s : Surroundings Tree Target) (c : Conversion) (tree : Tree) : Except Problem String × Tree :=
  match c.render s tree with
  | .error problem => (.error problem, tree)
  | .ok output =>
    let (answer, _, tree) := (c.folder s).emit s output.text c.outputName tree
    (answer, tree)

def runAll (s : Surroundings Tree Target) :
    List Conversion → Tree → Except Problem (List String) × Tree
  | [], tree => (.ok [], tree)
  | c :: rest, tree =>
    match c.run s tree with
    | (.error problem, tree) => (.error problem, tree)
    | (.ok path, tree) =>
      match runAll s rest tree with
      | (.ok paths, tree) => (.ok (path :: paths), tree)
      | (.error problem, tree) => (.error problem, tree)

end ApiTypes.Conversion
