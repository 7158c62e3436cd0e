import ApiTypes.Compose.Types
import ApiTypes.Reference.Lookup

/-!
# Parameters

Parameters are grouped by their location and rendered as one record for each.
A parameter given by a reference is looked up for its location, its name and
whether it is required; its type stays the expression for the reference. The
last parameter with a location and a name wins, in the place of the first.
-/

set_option autoImplicit false

namespace ApiTypes

/-- What the composers of a document share: the document and the root of references in schemas. -/
structure Context where
  document : Value
  root : String

structure ParameterField where
  type : String
  required : Bool
  description : Value

abbrev ParameterGroups := List (Scalar × List (Scalar × ParameterField))

namespace ParameterField

def render (name : Scalar) (f : ParameterField) : Except Fault String := do
  let comment ← DocComment.ofValue f.description
  let name ← name.plain
  return comment ++ Expression.fieldHead name f.required ++ f.type ++ ";\n"

end ParameterField

namespace ParameterGroups

def put (location name : Scalar) (field : ParameterField) (groups : ParameterGroups) :
    ParameterGroups :=
  let fields := (Entries.find? location groups).getD []
  Entries.put location (Entries.put name field fields) groups

def renderFields (fields : List (Scalar × ParameterField)) : Except Fault String := do
  let texts ← fields.mapM fun f => f.2.render f.1
  return String.join texts

def renderGroup (location : Scalar) (fields : List (Scalar × ParameterField)) :
    Except Fault String := do
  let name ← location.plain
  let fields ← renderFields fields
  return "\"" ++ name ++ "\": \x7b\n" ++ fields ++ "\x7d\n"

def render (groups : ParameterGroups) : Except Fault String := do
  let texts ← groups.mapM fun g => renderGroup g.1 g.2
  return "parameters: \x7b\n" ++ String.join texts ++ "\x7d\n"

end ParameterGroups

namespace Parameters

/-- A parameter in its place. Location and name are as the document gives them. -/
structure Slot where
  location : Value
  name : Value
  field : ParameterField

def unresolved (ref : String) : String := "Could not resolve parameter reference '" ++ ref ++ "'"

def unplaced (parameter : Entries) : Except Fault String := do
  let text ← (Value.map parameter).plain
  return "Skipping parameter without name or location: " ++ text

def placed? (entries : Entries) : Option (Value × Value) :=
  let location := Value.field "in" entries
  let name := Value.field "name" entries
  if location.truthy && name.truthy then some (location, name) else none

def placeOf? (document : Value) (ref : String) : Option (Value × Value) :=
  match (Reference.lookup document ref).map Value.opened with
  | some (.map target) => placed? target
  | _ => none

def referenced (ctx : Context) (ref : String) : Compose (Option Slot) :=
  match placeOf? ctx.document ref with
  | none => do
    Compose.warn (unresolved ref)
    return none
  | some (location, name) => do
    let type ← Compose.refer "" ref
    return some ⟨location, name, ⟨type, Reference.isRequired ctx.document ref, .null⟩⟩

def inline (ctx : Context) (entries : Entries) : Compose (Option Slot) := do
  let type ← composeType ctx.root (Value.field "schema" entries)
  match placed? entries with
  | none => do
    let warning ← unplaced entries
    Compose.warn warning
    return none
  | some (location, name) =>
    return some ⟨location, name,
      ⟨type, (Value.field "required" entries).isTrue, Value.field "description" entries⟩⟩

/-- The slot of one entry of a parameter list; entries that are no mappings have none. -/
def slot (ctx : Context) (p : Value) : Compose (Option Slot) :=
  match p.opened with
  | .map entries =>
    match Entries.get? "$ref" entries with
    | some ref => do referenced ctx (← Reference.ofValue ref)
    | none => inline ctx entries
  | _ => return none

def place (groups : ParameterGroups) (s : Slot) : Except Fault ParameterGroups := do
  let location ← s.location.asKey
  let name ← s.name.asKey
  return groups.put location name s.field

def groupOnto (ctx : Context) : ParameterGroups → List Value → Compose ParameterGroups
  | groups, [] => return groups
  | groups, p :: rest => do
    match ← slot ctx p with
    | none => groupOnto ctx groups rest
    | some s => do
      let groups ← place groups s
      groupOnto ctx groups rest

/-- The entries of a parameter list; one that does not hold counts as empty. -/
def listed (parameters : Value) : Except Fault (List Value) :=
  if parameters.truthy then parameters.elements else .ok []

def group (ctx : Context) (parameters : Value) : Compose ParameterGroups := do
  let items ← listed parameters
  groupOnto ctx [] items

def compose (ctx : Context) (parameters : Value) : Compose String := do
  let groups ← group ctx parameters
  groups.render

def composeIfAny (ctx : Context) (parameters : Value) : Compose String :=
  if parameters.truthy then compose ctx parameters else pure ""

end Parameters

end ApiTypes
