import ApiTypes.Files.Tree
import ApiTypes.Mapper.Import
import ApiTypes.Web.Network

/-!
# Workspaces

What a run finds around it and does not change: the directory it runs in, the
network, the modules that can be imported, and the environment variables. The file
tree, which a run does change, is apart from it.
-/

set_option autoImplicit false

namespace ApiTypes

structure Workspace where
  here : Path
  network : Network
  modules : String → Except Mapper.ImportFault Mapper.Module
  environment : List (String × String)

end ApiTypes
