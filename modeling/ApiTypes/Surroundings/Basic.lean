import ApiTypes.Config.Conversion
import ApiTypes.Markup.Basic
import ApiTypes.Problem.Basic
import ApiTypes.Value.Identity

/-!
# Surroundings

What a run takes from around it: the configuration, the modules of mappers, the
documents, the files that declarations go to, and the printing of marked-up
lines. These are functions, on a tree of files where they read or change one, and
a run knows no more of them than their answers.
-/

set_option autoImplicit false

namespace ApiTypes

/-- Why a text was not written, or no directory made for it. -/
inductive WriteFault where
  | system (fault : SystemFault)
  /-- The text or the path is one that no system takes. -/
  | content (fault : Fault)
  deriving DecidableEq, Repr

structure Surroundings (Tree Target : Type) where
  /-- The conversions of the configuration at a path or, without one, of that which is found. -/
  configure : Option String → Tree → Except Problem (List Conversion)
  importModule : String → Tree → Except Mapper.ImportFault Mapper.Module
  /-- Reads the document at a source. -/
  load : String → Tree → Except SourceFault Document
  target : String → Target
  /-- The target of a name in that of a directory. -/
  join : Target → String → Target
  nameOf : Target → String
  /-- Makes the directories above a target. -/
  makeAbove : Target → Tree → Except WriteFault Unit × Tree
  write : Target → String → Tree → Except WriteFault Unit × Tree
  /-- What a marked-up line looks like. -/
  print : String → Except MarkupFault String

end ApiTypes
