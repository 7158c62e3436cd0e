import ApiTypes.Document.Paths
import ApiTypes.Mapper.Basic
import ApiTypes.Reference.Imports

/-!
# Declarations of a document

A document of paths and components becomes the interfaces `paths`, `operations`
and `components`, behind the imports of the documents that it refers to. In raw
mode the document is a map of schemas and becomes the interface `schemas`.
-/

set_option autoImplicit false

namespace ApiTypes

inductive Refusal where
  /-- The document has neither paths nor components. -/
  | shapeless
  | fault (f : Fault)
  deriving DecidableEq, Repr

structure Options where
  raw : Bool
  mapper : Option Mapper

/-- The declarations of a document and the warnings about it. -/
structure Output where
  text : String
  warnings : List String
  deriving DecidableEq, Repr

namespace Generator

def rawRoot : String := "schemas/"

def interface (name body : String) : String :=
  "export interface " ++ name ++ " \x7b\n" ++ body ++ "\x7d\n"

def record (name body : String) : String := name ++ ": \x7b\n" ++ body ++ "\x7d\n"

def sectionOf (name : String) (entries : Entries) : Value :=
  let v := Value.field name entries
  if v.truthy then v else .map []

def raw (options : Options) (document : Entries) : Compose String := do
  let schemas ← Mapper.apply (.map document) options.mapper
  let fields ← composeDeclarations rawRoot schemas
  return interface "schemas" fields

def declaredOperation (ctx : Context) (id : Scalar) (operation : Value) : Compose String := do
  let entries ← operation.entriesFor "get"
  let comment ← Operation.comment entries
  let name ← id.plain
  let type ← Operation.compose ctx operation
  return comment ++ "\"" ++ name ++ "\": " ++ type

def declaredOperations (ctx : Context) : List (Scalar × Value) → Compose String
  | [] => return ""
  | (id, operation) :: rest => do
    let first ← declaredOperation ctx id operation
    let others ← declaredOperations ctx rest
    return first ++ others

def namedContent (ctx : Context) (name : Scalar) (container : Value) : Compose String :=
  match container.opened with
  | .map entries => do
    let comment ← Operation.comment entries
    let name ← name.plain
    let body ← Operation.content ctx (.map entries)
    return comment ++ "\"" ++ name ++ "\": " ++ body ++ "\n"
  | _ => return ""

def namedContents (ctx : Context) : Entries → Compose String
  | [] => return ""
  | (name, container) :: rest => do
    let first ← namedContent ctx name container
    let others ← namedContents ctx rest
    return first ++ others

def schemaSection (ctx : Context) (name : String) (schemas : Value) : Compose String :=
  if schemas.truthy then do
    let fields ← composeDeclarations ctx.root schemas
    return record name fields
  else return ""

def contentSection (ctx : Context) (name : String) (containers : Value) : Compose String :=
  if containers.truthy then do
    let entries ← containers.entriesFor "items"
    let contents ← namedContents ctx entries
    return record name contents
  else return ""

def components (ctx : Context) (entries : Entries) (schemas : Value) : Compose String := do
  let parameters ← schemaSection ctx "parameters" (Value.field "parameters" entries)
  let schemas ← schemaSection ctx "schemas" schemas
  let responses ← contentSection ctx "responses" (Value.field "responses" entries)
  let bodies ← contentSection ctx "requestBodies" (Value.field "requestBodies" entries)
  return parameters ++ schemas ++ responses ++ bodies

def pathsBlock (ctx : Context) (paths : Value) : Compose String :=
  if paths.truthy then do
    let items ← Paths.compose ctx paths
    return interface "paths" items ++ "\n"
  else return ""

def operationsBlock (ctx : Context) : Compose String := do
  let ledger ← get
  let declared ← declaredOperations ctx ledger.operations
  return interface "operations" (declared ++ "\n") ++ "\n"

def importsBlock : Compose String := do
  let ledger ← get
  return Imports.block ledger.externals

def document (options : Options) (entries : Entries) : Compose String := do
  let ctx : Context := ⟨.map entries, ""⟩
  let parts ← (sectionOf "components" entries).entriesFor "get"
  let schemas ← Mapper.apply (sectionOf "schemas" parts) options.mapper
  let paths ← pathsBlock ctx (Value.field "paths" entries)
  let operations ← operationsBlock ctx
  let components ← components ctx parts schemas
  let imports ← importsBlock
  return imports ++ paths ++ operations ++ interface "components" components

/-- A document has a shape to declare: in raw mode any mapping, otherwise one with paths or
components. -/
def hasShape (options : Options) : Value → Bool
  | .map entries =>
    options.raw || !(Value.field "paths" entries).isNull || !(Value.field "components" entries).isNull
  | _ => false

def compose (options : Options) (entries : Entries) : Compose String :=
  if options.raw then raw options entries else document options entries

end Generator

def generate (options : Options) (document : Value) : Except Refusal Output :=
  if Generator.hasShape options document then
    match document with
    | .map entries =>
      match (Generator.compose options entries).exec Ledger.empty with
      | (.ok text, ledger) => .ok ⟨text, ledger.warnings⟩
      | (.error fault, _) => .error (.fault fault)
    | _ => .error .shapeless
  else .error .shapeless

end ApiTypes
