import ApiTypes.Config.Rejection
import ApiTypes.Fault
import ApiTypes.Mapper.Import
import ApiTypes.Problem.Wording
import ApiTypes.Source.Fault

/-!
# Problems

What can keep a run from converting its documents: the configuration, the
mapper, the source, the shape or the content of the document, or the output.
-/

set_option autoImplicit false

namespace ApiTypes

inductive ConfigFault where
  /-- There is a configuration in none of the usual places. -/
  | nowhere
  | noFile (path : String)
  | unreadable (path : String) (fault : TextFault)
  | rejected (path : String) (rejections : List Rejection)
  deriving DecidableEq, Repr

namespace ConfigFault

def heading : ConfigFault → String
  | .nowhere => "Configuration not found"
  | .noFile _ => "Configuration file not found"
  | .unreadable _ _ => "Cannot parse configuration"
  | .rejected _ _ => "Invalid configuration"

def path? : ConfigFault → Option String
  | .nowhere => none
  | .noFile path => some path
  | .unreadable path _ => some path
  | .rejected path _ => some path

def detail? : ConfigFault → Option String
  | .unreadable _ fault => some fault.message
  | .rejected _ rejections => some (Rejection.report "CodegenConfig" rejections)
  | _ => none

def message (f : ConfigFault) : String :=
  Wording.configured (f.heading ++ Wording.caused f.detail?) f.path? none

end ConfigFault

inductive Problem where
  | config (fault : ConfigFault)
  /-- The settings of a single conversion are rejected. -/
  | settings (rejections : List Rejection)
  | mapper (fault : Mapper.NameFault)
  | source (name : String) (fault : SourceFault)
  | shapeless (name : String)
  | document (fault : Fault)
  | output (path : String) (fault : SystemFault)
  /-- A configuration file cannot be read at all. -/
  | file (fault : FileFault)
  | text (fault : TextFault)
  /-- A table document is malformed. -/
  | table
  deriving DecidableEq, Repr

namespace Problem

def mapperSetting : String := "property_mapper"

def mapperMessage (fault : Mapper.NameFault) : String :=
  match fault with
  | .raised _ => fault.message
  | _ => Wording.configured fault.message none (some mapperSetting)

def message : Problem → String
  | .config fault => fault.message
  | .settings rejections => Rejection.report "DocumentConfig" rejections
  | .mapper fault => mapperMessage fault
  | .source name fault => Wording.unread name (some fault.message)
  | .shapeless name => Wording.shapeless (some name)
  | .document fault => fault.message
  | .output path fault => Wording.unwritten path (some fault.message)
  | .file fault => fault.message
  | .text fault => fault.message
  | .table => "the text is no table document"

end Problem

end ApiTypes
