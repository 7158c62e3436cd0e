import ApiTypes.Document.Parameters
import ApiTypes.Document.StatusKey

/-!
# Operations

An operation is a record of its parameters and its request body, where it has
them, and its responses. A body is a record keyed by content type, or the
expression for a reference.
-/

set_option autoImplicit false

namespace ApiTypes.Operation

def comment (entries : Entries) : Except Fault String :=
  DocComment.ofValue (Value.field "description" entries)

/-- The reference that a body consists of, if it holds one. A text holds whatever occurs in it. -/
def bodyReference (container : Value) : Except Fault (Option Value) :=
  match container.opened with
  | .map entries => .ok (Entries.get? "$ref" entries)
  | .list items =>
    if items.any fun v => match v with | .scalar s => s == .text "$ref" | _ => false
    then .error .listIndex else .ok none
  | .scalar (.text s) =>
    if Text.occursIn "$ref".toList s.toList then .error .textIndex else .ok none
  | .scalar s => .error (.notContainer s.kind)
  | .again _ _ _ => .error .endless

/-- The entries of a value on which the mapping operation is called, where a value that does not
hold counts as empty. -/
def entriesOrNone (v : Value) : Except Fault Entries :=
  if v.truthy then v.entriesFor "items" else .ok []

def mediaType (ctx : Context) (name : Scalar) (media : Value) : Compose String := do
  let schema := match media.opened with | .map entries => Value.field "schema" entries | _ => .null
  let name ← name.plain
  let type ← composeType ctx.root schema
  return "\"" ++ name ++ "\": " ++ type ++ ";\n"

def mediaTypes (ctx : Context) : Entries → Compose String
  | [] => return ""
  | (name, media) :: rest => do
    let first ← mediaType ctx name media
    let others ← mediaTypes ctx rest
    return first ++ others

def content (ctx : Context) (container : Value) : Compose String := do
  match ← bodyReference container with
  | some ref => do
    let ref ← Reference.ofValue ref
    let expression ← Compose.refer "" ref
    return expression ++ ";"
  | none => do
    let entries ← container.entriesFor "get"
    let media ← entriesOrNone (Value.field "content" entries)
    let types ← mediaTypes ctx media
    return "\x7b\n" ++ types ++ "\x7d"

def hasBody (entries : Entries) : Bool :=
  Entries.has "$ref" entries || (Value.field "content" entries).truthy

def absentBody (key : StatusKey) : String :=
  (if key.isBodiless then Expression.never else Expression.unknown) ++ ";"

/-- One entry of the responses; a response that is no mapping or empty has none. -/
def response (ctx : Context) (status : Value) (r : Value) : Compose String :=
  match r.opened with
  | .map [] => return ""
  | .map entries => do
    let key ← StatusKey.ofText (← status.plain)
    let comment ← comment entries
    let body ← if hasBody entries then content ctx (.map entries) else pure (absentBody key)
    return comment ++ key.text ++ ": " ++ body ++ "\n"
  | _ => return ""

def responses (ctx : Context) : Entries → Compose String
  | [] => return ""
  | (status, r) :: rest => do
    let first ← response ctx (.scalar status) r
    let others ← responses ctx rest
    return first ++ others

def requestBody (ctx : Context) (body : Value) : Compose String :=
  if body.truthy then do
    let type ← content ctx body
    return "requestBody: " ++ type ++ "\n"
  else return ""

def compose (ctx : Context) (operation : Value) : Compose String := do
  let entries ← operation.entriesFor "get"
  let parameters ← Parameters.composeIfAny ctx (Value.field "parameters" entries)
  let body ← requestBody ctx (Value.field "requestBody" entries)
  let all ← entriesOrNone (Value.field "responses" entries)
  let answers ← responses ctx all
  return "\x7b\n" ++ parameters ++ body ++ "responses: \x7b\n" ++ answers ++ "\x7d\n" ++ "\x7d\n"

end ApiTypes.Operation
