import ApiTypes.Fault
import ApiTypes.Files.Fault
import ApiTypes.Web.Network

/-!
# Faults of sources

Why a source could not be read as a document.
-/

set_option autoImplicit false

namespace ApiTypes

inductive Format where
  | json | yaml
  deriving DecidableEq, Repr

def Format.word : Format → String
  | .json => "JSON"
  | .yaml => "YAML"

/-- Why a text is no document of its format. -/
inductive TextFault where
  /-- The bytes do not spell a text. -/
  | undecodable
  | malformed (format : Format)
  /-- Something in the text denotes nothing. -/
  | content (fault : Fault)
  deriving DecidableEq, Repr

namespace TextFault

def message : TextFault → String
  | .undecodable => "the bytes are no UTF-8 text"
  | .malformed format => "the text is no " ++ format.word ++ " document"
  | .content fault => fault.message

end TextFault

inductive SourceFault where
  /-- There is no file at the path. -/
  | absent (path : String)
  | file (fault : FileFault)
  | text (fault : TextFault)
  | network (fault : NetworkFault)
  deriving DecidableEq, Repr

namespace SourceFault

def networkMessage : NetworkFault → String
  | .badAddress _ => "the address is malformed"
  | .unreachable => "the address cannot be reached"
  | .noKind => "the address has no scheme"
  | .badStatus => "the answer is no page"
  | .badRedirection _ => "the redirection leads nowhere"
  | .tooManyRedirections => "there are too many redirections"
  | .unwritable => "the answer cannot be written in bytes"
  | .garbled => "the answer is not compressed as it says"
  | .mixedKind => "the kind of the page has parts in no order"
  | .encoding _ => "the answer is not in the encoding that it names"

def message : SourceFault → String
  | .absent path => "File not found: " ++ path
  | .file fault => fault.message
  | .text fault => fault.message
  | .network fault => networkMessage fault

end SourceFault

end ApiTypes
