import ApiTypes.Fault
import ApiTypes.Number.Numeral
import ApiTypes.Number.Shortest
import ApiTypes.Text.Pieces

/-!
# The text of a value

A text stands for itself at the top and is quoted inside a list or a mapping.
Integers with too many digits have no text.
-/

set_option autoImplicit false

namespace ApiTypes

namespace Scalar

def inner : Scalar → Except Fault String
  | .null => .ok "None"
  | .bool b => .ok (if b then "True" else "False")
  | .int n => match Numeral.write? n with
    | some s => .ok s
    | none => .error .integerTooLong
  | .float x => .ok x.text
  | .text s => .ok (Text.quoted s)
  | .date d => .ok ("datetime.date(" ++ Text.join ", " d.arguments ++ ")")
  | .moment m => .ok ("datetime.datetime(" ++ Text.join ", " m.arguments ++ ")")

def plain : Scalar → Except Fault String
  | .text s => .ok s
  | .date d => .ok d.text
  | .moment m => .ok m.text
  | s => s.inner

end Scalar

namespace Value

def ellipsis (isMap : Bool) : String := if isMap then "\x7b...\x7d" else "[...]"

mutual

def innerAt (depth : Nat) : Value → Except Fault String
  | .scalar s => s.inner
  | .list items => do return "[" ++ Text.join ", " (← innerItems (depth + 1) items) ++ "]"
  | .map entries => do
    return "\x7b" ++ Text.join ", " (← innerEntries (depth + 1) entries) ++ "\x7d"
  | .again isMap forms _ => .ok (forms.getD depth (ellipsis isMap))

def innerItems (depth : Nat) : List Value → Except Fault (List String)
  | [] => .ok []
  | v :: rest => do
    let first ← innerAt depth v
    let others ← innerItems depth rest
    return first :: others

def innerEntries (depth : Nat) : List (Scalar × Value) → Except Fault (List String)
  | [] => .ok []
  | (k, v) :: rest => do
    let key ← k.inner
    let first ← innerAt depth v
    let others ← innerEntries depth rest
    return (key ++ ": " ++ first) :: others

end

def plain : Value → Except Fault String
  | .scalar s => s.plain
  | v => v.innerAt 0

end Value

end ApiTypes
