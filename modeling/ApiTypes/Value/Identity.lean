import ApiTypes.Value.Basic

/-!
# Mappings in several places

A document can put one and the same mapping in several places. Labels tell
which: they have the shape of the value, and two mappings with one label are
the same mapping.
-/

set_option autoImplicit false

namespace ApiTypes

inductive Labels where
  /-- A scalar, or a collection that is not gone through. -/
  | leaf
  | list (items : List Labels)
  | map (label : Nat) (entries : List Labels)
  deriving Inhabited

/-- A value, with labels where a mapping may be in several places. -/
structure Document where
  value : Value
  labels : Option Labels

namespace Document

def ofValue (v : Value) : Document := ⟨v, none⟩

end Document

namespace Labels

def under? (name : String) : Labels → Value → Option Labels
  | .map _ labels, .map entries =>
    ((entries.zip labels).find? fun e => e.1.1.same (.text name)).map (·.2)
  | _, _ => none

end Labels

end ApiTypes
