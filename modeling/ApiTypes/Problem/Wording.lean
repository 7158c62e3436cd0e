/-!
# Wording of problems

The texts that report a problem, built from the places and causes that they
name. An empty place is not named.
-/

set_option autoImplicit false

namespace ApiTypes.Wording

def placed (words : String) : Option String → String
  | some place => if place = "" then "" else words ++ "'" ++ place ++ "'"
  | none => ""

def shapeless (source : Option String) : String :=
  "No components or paths found" ++ placed " in " source ++
    ". Specify --raw-schema to load a raw schema."

def caused (cause : Option String) : String :=
  match cause with
  | some text => ": " ++ text
  | none => ""

def unread (source : String) (cause : Option String) : String :=
  "Failed to load schema from '" ++ source ++ "'" ++ caused cause

def unwritten (path : String) (cause : Option String) : String :=
  "Failed to write output to '" ++ path ++ "'" ++ caused cause

def configured (message : String) (path setting : Option String) : String :=
  message ++ placed " in " path ++
    (match setting with
      | some name => if name = "" then "" else " (field: " ++ name ++ ")"
      | none => "")

end ApiTypes.Wording
