import ApiTypes.Text.Quoted

/-!
# Faults of file operations

Why a file could not be reached, read or written, and at which path.
-/

set_option autoImplicit false

namespace ApiTypes

namespace FileFault

inductive Cause where
  | missing | alreadyThere | notDirectory | isDirectory | nameTooLong
  deriving DecidableEq, Repr

def Cause.number : Cause → Nat
  | .missing => 2
  | .alreadyThere => 17
  | .notDirectory => 20
  | .isDirectory => 21
  | .nameTooLong => 36

def Cause.text : Cause → String
  | .missing => "No such file or directory"
  | .alreadyThere => "File exists"
  | .notDirectory => "Not a directory"
  | .isDirectory => "Is a directory"
  | .nameTooLong => "File name too long"

end FileFault

structure FileFault where
  cause : FileFault.Cause
  path : String
  deriving DecidableEq, Repr

def FileFault.message (f : FileFault) : String :=
  "[Errno " ++ toString f.cause.number ++ "] " ++ f.cause.text ++ ": " ++ Text.quoted f.path

/-- What a system that keeps files reports: a fault at a path, or something in its own words. -/
inductive SystemFault where
  | file (fault : FileFault)
  | other (message : String)
  deriving DecidableEq, Repr

def SystemFault.message : SystemFault → String
  | .file fault => fault.message
  | .other message => message

end ApiTypes
