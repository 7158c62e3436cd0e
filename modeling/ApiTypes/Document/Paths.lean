import ApiTypes.Document.Operations

/-!
# Paths

A path declares its operations by method. An operation with an id is declared
once under that id and named by every path that uses it; one without is written
in place. Parameters shared by a path follow its operations.
-/

set_option autoImplicit false

namespace ApiTypes.Paths

def methods : List String :=
  ["get", "put", "post", "delete", "options", "head", "patch", "trace"]

def method? : Scalar → Option String
  | .text s => if methods.contains s then some s else none
  | _ => none

def operationName (id : String) : String := "operations[\"" ++ id ++ "\"]"

def methodHead (method : String) : String := "\"" ++ method ++ "\": "

def operation (ctx : Context) (method : String) (entries : Entries) : Compose String :=
  let id := Value.field "operationId" entries
  if id.truthy then do
    Compose.declareOperation id (.map entries)
    let name ← id.plain
    return methodHead method ++ operationName name ++ ";\n"
  else do
    let comment ← Operation.comment entries
    let type ← Operation.compose ctx (.map entries)
    return comment ++ methodHead method ++ type

def operations (ctx : Context) : Entries → Compose String
  | [] => return ""
  | (key, v) :: rest =>
    match method? key, v.opened with
    | some method, .map entries => do
      let first ← operation ctx method entries
      let others ← operations ctx rest
      return first ++ others
    | _, _ => operations ctx rest

def item (ctx : Context) (pathItem : Value) : Compose String := do
  let entries ← pathItem.entriesFor "items"
  let declared ← operations ctx entries
  let shared ← Parameters.composeIfAny ctx (Value.field "parameters" entries)
  return declared ++ shared

def block (path : String) (body : String) : String :=
  "\"" ++ path ++ "\": \x7b\n" ++ body ++ "\x7d\n"

def items (ctx : Context) : Entries → Compose String
  | [] => return ""
  | (path, v) :: rest =>
    match v.opened with
    | .map entries => do
      let path ← path.plain
      let body ← item ctx (.map entries)
      let others ← items ctx rest
      return block path body ++ others
    | _ => items ctx rest

def compose (ctx : Context) (paths : Value) : Compose String := do
  let entries ← paths.entriesFor "items"
  items ctx entries

end ApiTypes.Paths
