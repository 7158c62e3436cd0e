import ApiTypes.Fault

/-!
# Mappers of schema maps

A mapper is a function from the map of named schemas to a value that takes its
place. Without a mapper the map is taken as it is, whatever it is; a mapper gets
the entries that the map is made of.
-/

set_option autoImplicit false

namespace ApiTypes

abbrev Mapper := Entries → Except Fault Value

namespace Mapper

def pair (index : Nat) (item : Value) : Except Fault (Scalar × Value) :=
  match item.elements? with
  | none => .error (.pairKind index)
  | some [key, value] => do return (← key.asKey, value)
  | some parts => .error (.pairLength index parts.length)

def pairs : Nat → List Value → Except Fault Entries
  | _, [] => .ok []
  | i, item :: rest => do
    let first ← pair i item
    let others ← pairs (i + 1) rest
    return first :: others

def entriesOf (v : Value) : Except Fault Entries :=
  match v.opened with
  | .map entries => .ok entries
  | v => do
    let items ← v.elements
    return Entries.ofPairs (← pairs 0 items)

def apply (schemas : Value) : Option Mapper → Except Fault Value
  | none => .ok schemas
  | some mapper => do mapper (← entriesOf schemas)

end Mapper

end ApiTypes
