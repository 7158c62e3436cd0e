import ApiTypes.Compose.Ledger
import ApiTypes.Declaration.DocComment
import ApiTypes.Declaration.Expression
import ApiTypes.Schema.Basic

/-!
# The type expression of a schema

References inside the document are addressed from the given root. A field whose
type text is empty is kept and reported by a warning, behind the warnings of
the schemas inside it.
-/

set_option autoImplicit false

namespace ApiTypes

namespace Property

def warning (name : String) : String := "Field '" ++ name ++ "' has no recognised type"

def declare (p : Property) (comment name type : String) : String :=
  comment ++ Expression.fieldHead name p.required ++
    (if p.nullable then Expression.orNull type else type) ++ ";\n"

end Property

namespace Expression

def record (fields : String) : String := braced (" " ++ fields ++ " ")

def recordOf (isEmpty : Bool) (fields : String) : List String :=
  if isEmpty then [] else [record fields]

def openObject : String := openMap anything

end Expression

namespace Schema

mutual

def compose (root : String) : Schema → Compose String
  | .unrecognised => pure Expression.unconstrained
  | .reference ref => Compose.refer root ref
  | .primitive kind => pure kind.word
  | .enumeration values => do
    let literals ← Expression.literals values
    return Expression.union literals
  | .oneOf members => do
    let types ← composeAll root members
    return Expression.union types
  | .anyOf members => do
    let types ← composeAll root members
    return Expression.intersection (types.map Expression.partialOf)
  | .object bases properties additional =>
    if bases.isEmpty && properties.isEmpty && additional.isNone then pure Expression.openObject
    else do
      let types ← composeAll root bases
      let fields ← composeFields root properties
      let rest ← composeAdditional root additional
      return Expression.intersection (types ++ Expression.recordOf properties.isEmpty fields ++ rest)
  | .tuple items => do
    let types ← composeAll root items
    return Expression.tuple types
  | .array item => do
    let type ← compose root item
    return Expression.array (Expression.orAnything type)
  | .malformed bases fault => do
    let _ ← composeAll root bases
    throw fault

def composeAll (root : String) : List Schema → Compose (List String)
  | [] => pure []
  | s :: rest => do
    let type ← compose root s
    let types ← composeAll root rest
    return type :: types

def composeFields (root : String) : List (Property × Schema) → Compose String
  | [] => pure ""
  | (p, s) :: rest => do
    let comment ← DocComment.ofValue p.description
    let name ← p.name.plain
    let type ← compose root s
    Compose.warnIf (type = Expression.unconstrained) (Property.warning name)
    let fields ← composeFields root rest
    return p.declare comment name type ++ fields

def composeAdditional (root : String) : Option Schema → Compose (List String)
  | none => pure []
  | some s => do
    let type ← compose root s
    return [Expression.openMap (Expression.orAnything type)]

end

end Schema

def composeType (root : String) (node : Value) : Compose String :=
  (Schema.ofValue node).compose root

def composeProperties (root : String) (mapping required : Value) : Compose String := do
  let properties ← Schema.properties mapping required
  Schema.composeFields root properties

def composeDeclarations (root : String) (mapping : Value) : Compose String := do
  let properties ← Schema.declarations mapping
  Schema.composeFields root properties

end ApiTypes
