import ApiTypes.Proofs.Document.Outline
import ApiTypes.Proofs.Type.Level

/-!
# The names that a document writes

The names that come to stand between double quotes: those of fields and parameters,
content types, statuses that are no numbers, paths, operations and components. A
parameter that is skipped or replaced writes no name.
-/

set_option autoImplicit false

namespace ApiTypes

open Compose

def ParameterGroups.names (groups : ParameterGroups) : List (List Char) :=
  groups.flatMap fun g => Value.keyName g.1 :: g.2.map fun f => Value.keyName f.1

namespace Parameters

variable (ctx : Context)

def groupsOf (parameters : Value) : ParameterGroups :=
  match ((group ctx parameters).exec .empty).1 with
  | .ok groups => groups
  | .error _ => []

def entryNames (p : Value) : List (List Char) :=
  if Entries.has "$ref" p.entriesIn then []
  else (Schema.ofValue (Value.field "schema" p.entriesIn)).names

def names (parameters : Value) : List (List Char) :=
  if parameters.truthy then
    (groupsOf ctx parameters).names ++ (retained ctx (entriesOf parameters)).flatMap entryNames
  else []

end Parameters

namespace Operation

def mediaNames (entries : Entries) : List (List Char) :=
  entries.flatMap fun e =>
    Value.keyName e.1 :: (Schema.ofValue (Value.field "schema" e.2.entriesIn)).names

def contentNames (container : Value) : List (List Char) :=
  if Entries.has "$ref" container.entriesIn then []
  else mediaNames (Value.field "content" container.entriesIn).heldEntries

def statusNames (status : Scalar) : List (List Char) :=
  match StatusKey.ofChars (Value.keyName status) with
  | .ok (.other s) => [s.toList]
  | _ => []

/-- The names in a response; one that is no mapping or empty has none. -/
def responseNames (e : Scalar × Value) : List (List Char) :=
  if e.2.entriesIn.isEmpty then []
  else statusNames e.1 ++ if hasBody e.2.entriesIn then contentNames e.2 else []

variable (ps : Value → List (List Char))

def names (operation : Value) : List (List Char) :=
  ps (Value.field "parameters" operation.entriesIn) ++
    ((if (Value.field "requestBody" operation.entriesIn).truthy
      then contentNames (Value.field "requestBody" operation.entriesIn) else []) ++
    (Value.field "responses" operation.entriesIn).heldEntries.flatMap responseNames)

end Operation

namespace Paths

variable (ps : Value → List (List Char))

/-- The names of an operation in its path: its id, or the names in it. -/
def operationNames (operation : Entries) : List (List Char) :=
  match id? operation with
  | some id => [Value.keyName id]
  | none => Operation.names ps (.map operation)

def itemNames (entries : Entries) : List (List Char) :=
  ((methodEntries entries).flatMap fun m => operationNames ps m.2) ++
    ps (Value.field "parameters" entries)

def names (paths : Value) : List (List Char) :=
  (pathItems paths).flatMap fun p => Value.keyName p.1 :: itemNames ps p.2

end Paths

namespace Generator

def Section.names (v : Value) : Section → List (List Char)
  | .parameters | .schemas => (heldProperties v).flatMap fun e =>
    Value.keyName e.1 :: (Schema.ofValue e.2.propertyNode).names
  | .responses | .requestBodies => (bodies v).flatMap fun e =>
    Value.keyName e.1 :: Operation.contentNames (.map e.2)

def rawNames (entries : Entries) : List (List Char) :=
  entries.flatMap fun e => Value.keyName e.1 :: (Schema.ofValue e.2.propertyNode).names

def rawReferences (entries : Entries) : List String :=
  entries.flatMap fun e => (Schema.ofValue e.2.propertyNode).references

def names (options : Options) (entries : Entries) : List (List Char) :=
  let ps := Parameters.names (contextOf entries)
  Paths.names ps (pathsOf entries) ++
    ((operationsOf entries).flatMap (fun o => Value.keyName o.1 :: Operation.names ps o.2) ++
      (Section.parameters.names (Section.parameters.valueIn options entries) ++
        (Section.schemas.names (Section.schemas.valueIn options entries) ++
          (Section.responses.names (Section.responses.valueIn options entries) ++
            Section.requestBodies.names (Section.requestBodies.valueIn options entries)))))

/-- Every name that a document writes between double quotes can stand there, and every other part
of a reference is a word. -/
def Writable (raw : Bool) (entries : Entries) : Prop :=
  if raw then TypeText.Clean rawRoot (rawNames entries) (rawReferences entries)
  else TypeText.Clean "" (names ⟨false, none⟩ entries) (written ⟨false, none⟩ entries) ∧
    ∀ key ∈ importKeys ⟨false, none⟩ entries, TypeText.Quotable key.toList

end Generator

end ApiTypes
