import ApiTypes.Mapper.Basic
import ApiTypes.Text.Pieces
import ApiTypes.Value.Identity

/-!
# Named mappers

A mapper is named by the module that holds it and its own name, with a colon
between them. How a name leads to a module is not said here: it is a function,
which may know modules inside of others or none at all.
-/

set_option autoImplicit false

namespace ApiTypes.Mapper

/-- A mapper under its name. What it does may depend on which schemas are in several places. -/
structure Named where
  name : String
  run : Option Labels → Mapper

abbrev Module := String → Option Named

inductive ImportFault where
  | absent (reason : String)
  /-- Something else was raised on the way. -/
  | raised (message : String)
  deriving DecidableEq, Repr

inductive NameFault where
  /-- The path does not name a module and a function. -/
  | malformed (path : String)
  | absent (home reason : String)
  | raised (message : String)
  | notCallable (path : String)
  deriving DecidableEq, Repr

def halves (path : String) : Option (String × String) :=
  match Text.cut ':' path.toList with
  | (_, none) => none
  | (home, some name) =>
    if home.isEmpty || name.isEmpty then none else some (String.ofList home, String.ofList name)

def find (modules : String → Except ImportFault Module) (path : String) : Except NameFault Named :=
  match halves path with
  | none => .error (.malformed path)
  | some (home, name) =>
    match modules home with
    | .error (.absent reason) => .error (.absent home reason)
    | .error (.raised message) => .error (.raised message)
    | .ok functions =>
      match functions name with
      | some mapper => .ok mapper
      | none => .error (.notCallable path)

def NameFault.message : NameFault → String
  | .malformed path => "Invalid property mapper '" ++ path ++ "', expected 'module:function'"
  | .absent home reason => "Cannot import property mapper module '" ++ home ++ "': " ++ reason
  | .raised message => message
  | .notCallable path => "Property mapper '" ++ path ++ "' is not callable"

end ApiTypes.Mapper
