import ApiTypes.Value.Basic

/-!
# The variant of a schema node

A node does not say what kind of schema it is: the keys that are present decide,
and where several apply the first in the order of the list below governs.
-/

set_option autoImplicit false

namespace ApiTypes

inductive Variant where
  | enumeration | oneOf | anyOf | object | array | reference | string | number | boolean | unknown
  deriving DecidableEq, Repr

namespace Variant

def word : Variant → String
  | .enumeration => "enum"
  | .oneOf => "oneOf"
  | .anyOf => "anyOf"
  | .object => "object"
  | .array => "array"
  | .reference => "ref"
  | .string => "string"
  | .number => "number"
  | .boolean => "boolean"
  | .unknown => "unknown"

def ofDeclared : String → Variant
  | "string" => .string
  | "boolean" => .boolean
  | "integer" => .number
  | "number" => .number
  | "object" => .object
  | _ => .unknown

def holdsList (name : String) (entries : Entries) : Bool :=
  match (Entries.get? name entries).map Value.opened with
  | some (.list _) => true
  | _ => false

def textOf (name : String) (entries : Entries) : Option String :=
  match Entries.get? name entries with
  | some (.scalar (.text s)) => some s
  | _ => none

def ofEntries (entries : Entries) : Variant :=
  if holdsList "enum" entries then .enumeration
  else if holdsList "oneOf" entries then .oneOf
  else if holdsList "anyOf" entries then .anyOf
  else if ["allOf", "properties", "additionalProperties"].any (Entries.has · entries) then .object
  else if textOf "type" entries = some "array" || Entries.has "items" entries then .array
  else if (textOf "$ref" entries).isSome then .reference
  else match textOf "type" entries with
    | some declared => ofDeclared declared
    | none => .unknown

def ofValue (v : Value) : Variant :=
  match v.opened with
  | .map entries => ofEntries entries
  | _ => .unknown

end Variant

end ApiTypes
