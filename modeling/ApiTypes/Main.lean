import ApiTypes.CommandLine.Needs
import ApiTypes.Surroundings.Local

/-!
# The program

Gathers the files that a command looks at, runs the command on them, and writes
what it left behind.
-/

set_option autoImplicit false

namespace ApiTypes.Program

open FileTree

def gatherNode (place : Place) : IO (Option FileNode) := do
  let path := (← IO.currentDir) / ("/" ++ Text.join "/" place)
  if ← path.isDir then return some .directory
  else if ← path.pathExists then return some (.file (← IO.FS.readBinFile path))
  else return none

def gather (tree : FileTree) : Place → List String → IO FileTree
  | _, [] => return tree
  | place, name :: rest => do
    match tree.step place name with
    | .error _ => return tree
    | .ok next =>
      if (tree.node? next).isSome then gather tree next rest
      else match ← gatherNode next with
        | some node => gather (tree.put next node) next rest
        | none => return tree

def gatherAll (tree : FileTree) (paths : List Path) : IO FileTree :=
  paths.foldlM (fun tree p => gather tree [] p.names) tree

def leave (old new : FileTree) : IO Unit :=
  new.nodes.forM fun (place, node) => do
    if old.node? place ≠ some node then
      let path := "/" ++ Text.join "/" place
      match node with
      | .directory => IO.FS.createDirAll path
      | .file content => IO.FS.writeBinFile path content

def usage : String :=
  "Usage: otterts generate [--config PATH] [--verbose]\n" ++
  "       otterts convert SOURCE [--output PATH] [--raw-schema] [--property-mapper MODULE:NAME]\n" ++
  "       otterts version\n"

def workspace : IO Workspace := do
  let here ← IO.currentDir
  let name := Config.Setup.standardMark ++ Config.listName.toUpper
  let listed ← IO.getEnv name
  return {
    here := Path.ofText here.toString
    network := Network.none
    modules := fun home => .error (.absent ("No module named " ++ Text.quoted home))
    environment := (listed.map fun text => (name, text)).toList }

def runCommand (command : Command) : IO Ending := do
  let w ← workspace
  let tree ← gatherAll .empty (w.here :: command.configPaths w)
  let conversions := command.conversions w tree
  let tree ← gatherAll tree (conversions.flatMap fun c => c.paths w)
  let (ending, left) := command.run w.surroundings tree
  leave tree left
  return ending

def run (arguments : List String) : IO Ending :=
  match Command.ofArguments arguments with
  | .misused => return .misused
  | .help => return .help
  | .command command => runCommand command

end ApiTypes.Program

def main (arguments : List String) : IO UInt32 := do
  let ending ← ApiTypes.Program.run arguments
  match ending with
  | .misused => IO.eprint ApiTypes.Program.usage
  | .help => IO.print ApiTypes.Program.usage
  | .finished _ printed => IO.print printed
  return ending.status.toUInt32
