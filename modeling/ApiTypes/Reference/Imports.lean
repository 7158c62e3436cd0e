import ApiTypes.Text.Pieces

/-!
# Imports of other documents

Each document that is referred to is imported under an alias made of its place
in the list of keys, so that equal names in two documents cannot clash, and the
`external` type maps its key to that alias.
-/

set_option autoImplicit false

namespace ApiTypes.Imports

def aliasOf (i : Nat) : String := "external$" ++ toString i

def importLine (i : Nat) (key : String) : String :=
  "import \x7b schemas as " ++ aliasOf i ++ " \x7d from \"./" ++ key ++ "\";"

def mappingLine (i : Nat) (key : String) : String := "\"" ++ key ++ "\": " ++ aliasOf i ++ ";"

def numbered (line : Nat → String → String) : Nat → List String → List String
  | _, [] => []
  | i, key :: rest => line i key :: numbered line (i + 1) rest

/-- The import block for keys of which no two are equal; there is none without keys. -/
def block (keys : List String) : String :=
  if keys.isEmpty then ""
  else
    Text.join "\n" (numbered importLine 0 keys) ++ "\n\n" ++
      Text.join "\n" ("export type external = \x7b" :: (numbered mappingLine 0 keys ++ ["\x7d"])) ++
      "\n\n"

end ApiTypes.Imports
