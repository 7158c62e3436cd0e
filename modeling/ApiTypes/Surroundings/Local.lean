import ApiTypes.Config.Search
import ApiTypes.Source.Read
import ApiTypes.Surroundings.Basic

/-!
# The surroundings of a workspace

In a workspace sources are pages and files, the configuration is a file, and
declarations go to files of the tree that the run changes.
-/

set_option autoImplicit false

namespace ApiTypes.Workspace

def makeAbove (w : Workspace) (p : Path) (tree : FileTree) : Except WriteFault Unit × FileTree :=
  match Fault.ofPath? p.parent.text with
  | some fault => (.error (.content fault), tree)
  | none =>
    match tree.ensureAbove w.here p with
    | (tree, none) => (.ok (), tree)
    | (tree, some fault) => (.error (.system (.file fault)), tree)

/-- Writes a text to a file in a directory that is there. A text without an encoded form leaves
the file empty. -/
def writeText (w : Workspace) (p : Path) (text : String) (tree : FileTree) :
    Except WriteFault Unit × FileTree :=
  match Fault.ofPath? p.text with
  | some fault => (.error (.content fault), tree)
  | none =>
    let unwritable := Fault.ofText? text
    let bytes := if unwritable.isSome then .empty else text.toUTF8
    match tree.writeFile w.here p bytes, unwritable with
    | (tree, some fault), _ => (.error (.system (.file fault)), tree)
    | (tree, none), some fault => (.error (.content fault), tree)
    | (tree, none), none => (.ok (), tree)

def surroundings (w : Workspace) : Surroundings FileTree Path where
  configure path tree := Config.find w tree path
  importModule home _ := w.modules home
  load source tree := Source.read w (.startingAt w "" true) tree source
  target := Path.ofText
  join p name := p.join (Path.ofText name)
  nameOf := Path.text
  makeAbove := w.makeAbove
  write := w.writeText
  print := Markup.printed

end ApiTypes.Workspace
