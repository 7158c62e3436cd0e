import ApiTypes.CommandLine.Command
import ApiTypes.Config.Search

/-!
# The files a command looks at

The paths whose files a command may read or write, so that an outer layer can
gather them beforehand.
-/

set_option autoImplicit false

namespace ApiTypes

namespace Conversion

/-- The paths of the source, unless it is a page, and of the output. -/
def paths (w : Workspace) (c : Conversion) : List Path :=
  let output := w.here.join (Path.ofText c.output)
  if Address.isMeant c.source then [output] else [w.here.join (Path.ofText c.source), output]

end Conversion

namespace Command

def configPaths (w : Workspace) : Command → List Path
  | .generate config =>
    match config.getD "" with
    | "" => (Config.usualNames ++ [Config.projectName]).map fun name => w.here.join (Path.ofText name)
    | path => [w.here.join (Path.ofText path)]
  | _ => []

def conversions (w : Workspace) (tree : FileTree) : Command → List Conversion
  | .generate config =>
    match Config.find w tree config with
    | .ok conversions => conversions
    | .error _ => []
  | .convert c _ => [c]
  | .version => []

end Command

end ApiTypes
