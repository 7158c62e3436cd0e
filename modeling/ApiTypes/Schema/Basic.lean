import ApiTypes.Fault
import ApiTypes.Schema.Variant
import ApiTypes.Value.Text

/-!
# Schemas

A schema is a node of a document sorted by its variant, with the parts that
count for that variant only. Reading a value as a schema never fails: an object
node with a part that cannot serve is kept as `malformed`, together with the
schemas in front of that part and its fault.
-/

set_option autoImplicit false

namespace ApiTypes

inductive Primitive where
  | string | number | boolean
  deriving DecidableEq, Repr

def Primitive.word : Primitive → String
  | .string => "string"
  | .number => "number"
  | .boolean => "boolean"

structure Property where
  name : Scalar
  required : Bool
  nullable : Bool
  description : Value

inductive Schema where
  | unrecognised
  | reference (ref : String)
  | primitive (kind : Primitive)
  | enumeration (values : List Value)
  | oneOf (members : List Schema)
  | anyOf (members : List Schema)
  | object (bases : List Schema) (properties : List (Property × Schema)) (additional : Option Schema)
  | tuple (items : List Schema)
  | array (item : Schema)
  | malformed (bases : List Schema) (fault : Fault)
  deriving Inhabited

/-- A value in each of the roles that it can play in the node around it. -/
structure Reading where
  /-- a schema -/
  schema : Schema
  /-- a property entry: the schema under `schema`, if that is not null, or the value itself -/
  entry : Schema
  /-- a collection of schemas -/
  elements : Except Fault (List Schema)
  /-- the properties of an object, none of them required -/
  properties : Except Fault (List (Property × Schema))

namespace Reading

/-- A property as its entry gives it. An entry that is no mapping says nothing. -/
def property (name : Scalar) (entry : Value) (reading : Reading) : Property × Schema :=
  match entry.opened with
  | .map entries =>
    (⟨name, false, (Value.field "nullable" entries).truthy, Value.field "description" entries⟩,
      reading.entry)
  | _ => (⟨name, false, false, .null⟩, reading.entry)

def ofScalar (s : Scalar) : Reading where
  schema := .unrecognised
  entry := .unrecognised
  elements := (Value.scalar s).elements.map (·.map fun _ => .unrecognised)
  properties := .error (.noOperation s.kind "items")

def ofList (items : List Reading) : Reading where
  schema := .unrecognised
  entry := .unrecognised
  elements := .ok (items.map Reading.schema)
  properties := .error (.noOperation .list "items")

/-- A collection inside itself that is not gone through once more. Composing a mapping there
would have no end. -/
def again (isMap : Bool) : Reading where
  schema := if isMap then .malformed [] .endless else .unrecognised
  entry := if isMap then .malformed [] .endless else .unrecognised
  elements := .error .endless
  properties := .error (if isMap then .endless else .noOperation .list "items")

end Reading

def requiredNames (v : Value) : Except Fault (List Scalar) :=
  if v.isNull then .ok []
  else do
    let items ← v.elements
    items.mapM Value.asKey

def holdsName (names : List Scalar) (name : Scalar) : Bool := names.any (·.same name)

def markRequired (names : List Scalar) (properties : List (Property × Schema)) :
    List (Property × Schema) :=
  properties.map fun p => ({ p.1 with required := holdsName names p.1.name }, p.2)

namespace Schema

def part? (name : String) (parts : List (Scalar × Reading)) : Option Reading :=
  Entries.get? name parts

def elementsAt (name : String) (parts : List (Scalar × Reading)) : List Schema :=
  match (part? name parts).map Reading.elements with
  | some (.ok members) => members
  | _ => []

/-- The schemas that an object extends; a part that does not hold counts as absent. -/
def basesOf (entries : Entries) (parts : List (Scalar × Reading)) : Except Fault (List Schema) :=
  match part? "allOf" parts with
  | some reading => if (Value.field "allOf" entries).truthy then reading.elements else .ok []
  | none => .ok []

def propertiesOf (entries : Entries) (parts : List (Scalar × Reading)) :
    Except Fault (List (Property × Schema)) :=
  match part? "properties" parts with
  | some reading =>
    if (Value.field "properties" entries).truthy then do
      let names ← requiredNames (Value.field "required" entries)
      let properties ← reading.properties
      return markRequired names properties
    else .ok []
  | none => .ok []

/-- The schema of further properties, unless they are not spoken of or ruled out. -/
def additionalOf (entries : Entries) (parts : List (Scalar × Reading)) : Option Schema :=
  match Value.field "additionalProperties" entries with
  | .scalar .null => none
  | .scalar (.bool false) => none
  | _ => (part? "additionalProperties" parts).map Reading.schema

def objectOf (entries : Entries) (parts : List (Scalar × Reading)) : Schema :=
  match basesOf entries parts with
  | .error fault => .malformed [] fault
  | .ok bases =>
    match propertiesOf entries parts with
    | .error fault => .malformed bases fault
    | .ok properties => .object bases properties (additionalOf entries parts)

/-- The array of its item's schema; a list of items makes a tuple. -/
def arrayOf (entries : Entries) (parts : List (Scalar × Reading)) : Schema :=
  match (Value.field "items" entries).opened with
  | .list _ => .tuple (elementsAt "items" parts)
  | _ => .array (((part? "items" parts).map Reading.schema).getD .unrecognised)

def ofParts (entries : Entries) (parts : List (Scalar × Reading)) : Schema :=
  match Variant.ofEntries entries with
  | .enumeration =>
    .enumeration (match (Value.field "enum" entries).opened with | .list values => values | _ => [])
  | .oneOf => .oneOf (elementsAt "oneOf" parts)
  | .anyOf => .anyOf (elementsAt "anyOf" parts)
  | .object => objectOf entries parts
  | .array => arrayOf entries parts
  | .reference => .reference ((Variant.textOf "$ref" entries).getD "")
  | .string => .primitive .string
  | .number => .primitive .number
  | .boolean => .primitive .boolean
  | .unknown => .unrecognised

end Schema

namespace Reading

def wrapped (own : Schema) (entries : Entries) (parts : List (Scalar × Reading)) : Schema :=
  match Schema.part? "schema" parts with
  | some reading => if (Value.field "schema" entries).isNull then own else reading.schema
  | none => own

def ofMap (entries : Entries) (parts : List (Scalar × Reading)) : Reading where
  schema := Schema.ofParts entries parts
  entry := wrapped (Schema.ofParts entries parts) entries parts
  elements := .ok (entries.map fun _ => .unrecognised)
  properties := .ok (List.zipWith (fun e p => property e.1 e.2 p.2) entries parts)

end Reading

namespace Value

mutual

def reading : Value → Reading
  | .scalar s => .ofScalar s
  | .list items => .ofList (readingItems items)
  | .map entries => .ofMap entries (readingEntries entries)
  | .again isMap _ content => readingAgain isMap content

def readingAgain (isMap : Bool) : Option Value → Reading
  | some v => reading v
  | none => .again isMap

def readingItems : List Value → List Reading
  | [] => []
  | v :: rest => reading v :: readingItems rest

def readingEntries : List (Scalar × Value) → List (Scalar × Reading)
  | [] => []
  | (k, v) :: rest => (k, reading v) :: readingEntries rest

end

end Value

namespace Schema

def ofValue (node : Value) : Schema := node.reading.schema

def properties (mapping required : Value) : Except Fault (List (Property × Schema)) := do
  let names ← requiredNames required
  let properties ← mapping.reading.properties
  return markRequired names properties

def declarations (mapping : Value) : Except Fault (List (Property × Schema)) := do
  let names ← mapping.elements
  let _ ← names.mapM Value.asKey
  let properties ← mapping.reading.properties
  return properties.map fun p => ({ p.1 with required := true }, p.2)

end Schema

end ApiTypes
