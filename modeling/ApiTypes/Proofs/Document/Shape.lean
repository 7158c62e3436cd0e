import ApiTypes.Proofs.Document.Outline
import ApiTypes.Proofs.Schema.Shape

/-!
# Well-shaped documents

A document is well-shaped if what is read from it as a mapping, a list or a text is
one, or is absent where it may be. Everything else in it may be any value of JSON.
-/

set_option autoImplicit false

namespace ApiTypes

namespace Operation

def mediaShaped (entries : Entries) : Bool :=
  entries.all fun e => Schema.shaped (Value.field "schema" e.2.entriesIn)

/-- A body is a reference that is a text, or has content that is a mapping. -/
def bodyShaped (entries : Entries) : Bool :=
  match Entries.get? "$ref" entries with
  | some ref => ref.isText
  | none => (Value.field "content" entries).isMapOrNull &&
    mediaShaped (Value.field "content" entries).heldEntries

def statusShaped (status : Scalar) : Bool :=
  match status with
  | .text s => !(s.toList.all Char.isDigit && Numeral.maxDigits < s.toList.length)
  | _ => true

/-- A response has a body; one that is no mapping, or empty, is not read. -/
def responseShaped (e : Scalar × Value) : Bool :=
  e.2.entriesIn.isEmpty || statusShaped e.1 && bodyShaped e.2.entriesIn

def responsesShaped (v : Value) : Bool := v.isMapOrNull && v.heldEntries.all responseShaped

def requestShaped (v : Value) : Bool := v.isMapOrNull && bodyShaped v.entriesIn

end Operation

namespace Parameters

def placeShaped (entries : Entries) : Bool :=
  (Value.field "in" entries).isTextOrNull && (Value.field "name" entries).isTextOrNull

/-- What a reference to a parameter points to has a place, if it is a mapping. -/
def targetShaped (document : Value) (ref : String) : Bool :=
  match (Reference.lookup document ref).map Value.opened with
  | some (.map target) => placeShaped target
  | _ => true

/-- A parameter is a reference, or has a place and a schema; one that is no mapping is not read. -/
def parameterShaped (document p : Value) : Bool :=
  match p.opened with
  | .map entries =>
    match Entries.get? "$ref" entries with
    | some (.scalar (.text ref)) => targetShaped document ref
    | some _ => false
    | none => placeShaped entries && Schema.shaped (Value.field "schema" entries)
  | _ => true

def shaped (document parameters : Value) : Bool :=
  parameters.isListOrNull && (entriesOf parameters).all (parameterShaped document)

end Parameters

namespace Operation

def shaped (document operation : Value) : Bool :=
  Parameters.shaped document (Value.field "parameters" operation.entriesIn) &&
    (requestShaped (Value.field "requestBody" operation.entriesIn) &&
      responsesShaped (Value.field "responses" operation.entriesIn))

end Operation

namespace Paths

/-- The operation under a method has an id that is a text, or is written in its path. -/
def operationShaped (document : Value) (operation : Entries) : Bool :=
  (Value.field "operationId" operation).isTextOrNull &&
    (isNamed operation || Operation.shaped document (.map operation))

def itemShaped (document : Value) (entries : Entries) : Bool :=
  (methodEntries entries).all (fun m => operationShaped document m.2) &&
    Parameters.shaped document (Value.field "parameters" entries)

def shaped (document paths : Value) : Bool :=
  paths.isMapOrNull && (pathItems paths).all fun p => itemShaped document p.2

end Paths

namespace Generator

/-- A section is a mapping of schemas, or of bodies; entries that are no mappings are not read. -/
def Section.shaped (v : Value) : Section → Bool
  | .parameters | .schemas =>
    v.isMapOrNull && (heldProperties v).all fun e => Schema.shaped e.2.propertyNode
  | .responses | .requestBodies => v.isMapOrNull && (bodies v).all fun e => Operation.bodyShaped e.2

/-- A document of JSON with paths or components, shaped wherever it is read. -/
structure WellShaped (entries : Entries) : Prop where
  json : (Value.map entries).isJson = true
  present : (pathsOf entries).isNull = false ∨ (Value.field "components" entries).isNull = false
  paths : Paths.shaped (.map entries) (pathsOf entries) = true
  /-- the operations that are declared under a name -/
  operations : ∀ o ∈ operationsOf entries, Operation.shaped (.map entries) o.2 = true
  components : (Value.field "components" entries).isMapOrNull = true
  sections : ∀ s : Section, s.shaped (Value.field s.name (partsOf entries)) = true

end Generator

end ApiTypes
