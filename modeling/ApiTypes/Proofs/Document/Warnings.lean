import ApiTypes.Proofs.Compose.Warnings
import ApiTypes.Proofs.Document.Outline

/-!
# The warnings about a document

A document is warned of in the order in which it is composed: its paths, the first
operation under each id, its parameters, schemas, responses and request bodies. What
is warned of are fields without a type, references to no parameter, and parameters
without a place; an operation that is not composed is not warned of.
-/

set_option autoImplicit false

namespace ApiTypes

open Compose

variable (ctx : Context)

namespace Parameters

def skipped (parameter : Entries) : List String := (unplaced parameter).toOption.toList

/-- The warnings about an entry of a parameter list. A reference is to lead to a mapping with a location
and a name. A parameter without them is skipped behind the warnings about its schema; an entry that is no
mapping is passed over. -/
def entryWarnings (p : Value) : List String :=
  match p.opened with
  | .map entries =>
    match Entries.get? "$ref" entries with
    | some (.scalar (.text ref)) => if (target? ctx.document ref).any isPlaced then [] else [unresolved ref]
    | some _ => []
    | none => (Schema.ofValue (Value.field "schema" entries)).warnings ctx.root ++
        if isPlaced entries then [] else skipped entries
  | _ => []

def warnings (parameters : Value) : List String :=
  (entriesOf parameters).flatMap (entryWarnings ctx)

theorem warns_referenced (ref : String) : Warns (referenced ctx ref)
    (if (target? ctx.document ref).any isPlaced then [] else [unresolved ref]) := by
  unfold referenced
  cases hplace : placeOf? ctx.document ref with
  | none =>
    rw [placeOf_none.mp hplace]
    exact (warns_warn _).map _
  | some place =>
    obtain ⟨target, htarget, hplaced, -⟩ := placeOf_some.mp hplace
    rw [htarget, Option.any_some, if_pos hplaced]
    exact (warns_refer "" ref).map _

theorem warns_inline (entries : Entries) : Warns (inline ctx entries)
    ((Schema.ofValue (Value.field "schema" entries)).warnings ctx.root ++
      if isPlaced entries then [] else skipped entries) := by
  unfold inline
  refine (warns_composeType ctx.root _).bind fun type _ _ _ => ?_
  cases hplace : placed? entries with
  | none =>
    refine warns_lift_bind fun warning hwarning => ?_
    rw [placed_none.mp hplace, if_neg Bool.false_ne_true, skipped, hwarning]
    exact (warns_warn warning).map _
  | some place =>
    rw [if_pos (placed_some.mp hplace).1]
    exact warns_pure _

theorem warns_slot (p : Value) : Warns (slot ctx p) (entryWarnings ctx p) := by
  unfold slot entryWarnings
  cases p.opened with
  | map entries =>
    dsimp only
    cases Entries.get? "$ref" entries with
    | none => exact warns_inline ctx entries
    | some v =>
      refine warns_lift_bind fun ref href => ?_
      rw [Reference.ofValue_ok href]
      exact warns_referenced ctx ref
  | _ => exact warns_pure _

theorem warns_groupOnto (groups : ParameterGroups) (items : List Value) :
    Warns (groupOnto ctx groups items) (items.flatMap (entryWarnings ctx)) := by
  induction items generalizing groups with
  | nil => exact warns_pure groups
  | cons p rest ih =>
    rw [groupOnto, List.flatMap_cons]
    refine (warns_slot ctx p).bind fun s _ _ _ => ?_
    cases s with
    | none => exact ih groups
    | some s => exact warns_lift_bind fun next _ => ih next

theorem warns_composeIfAny (parameters : Value) :
    Warns (composeIfAny ctx parameters) (warnings ctx parameters) := by
  unfold composeIfAny
  split
  · refine Warns.before (fun l groups l' h => ?_) fun groups => warns_lift _
    exact warns_groupOnto ctx [] _ l groups l' (group_ok h)
  · rename_i ht
    rw [warnings, entriesOf, if_neg ht]
    exact warns_pure _

end Parameters

namespace Operation

def mediaWarnings (entries : Entries) : List String :=
  entries.flatMap fun e => (Schema.ofValue (Value.field "schema" e.2.entriesIn)).warnings ctx.root

def contentWarnings (container : Value) : List String :=
  if (Entries.get? "$ref" container.entriesIn).isSome then []
  else mediaWarnings ctx (Value.field "content" container.entriesIn).heldEntries

def responseWarnings (r : Value) : List String :=
  if hasBody r.entriesIn then contentWarnings ctx r else []

def requestWarnings (body : Value) : List String :=
  if body.truthy then contentWarnings ctx body else []

def warnings (operation : Value) : List String :=
  Parameters.warnings ctx (Value.field "parameters" operation.entriesIn) ++
    (requestWarnings ctx (Value.field "requestBody" operation.entriesIn) ++
      (Value.field "responses" operation.entriesIn).heldEntries.flatMap fun e =>
        responseWarnings ctx e.2)

theorem warns_mediaTypes (entries : Entries) :
    Warns (mediaTypes ctx entries) (mediaWarnings ctx entries) := by
  rw [mediaTypes_eq]
  refine warns_inTurn (fun e => ?_) entries
  rw [mediaType_eq]
  exact warns_lift_bind fun name _ => (warns_composeType ctx.root _).map _

theorem warns_content (container : Value) :
    Warns (content ctx container) (contentWarnings ctx container) := by
  intro l text l' h
  unfold contentWarnings
  rcases content_ok h with ⟨ref, expression, hv, he, -⟩ | ⟨hv, types, ht, -⟩
  · rw [hv]
    exact warns_refer "" ref l expression l' he
  · rw [hv]
    exact warns_mediaTypes ctx _ l types l' ht

theorem warns_response (status r : Value) :
    Warns (response ctx status r) (responseWarnings ctx r) := by
  intro l text l' h
  unfold responseWarnings
  rcases response_ok h with ⟨hnone, -, rfl⟩ | ⟨-, name, key, comment, body, -, -, -, hbody, -⟩
  · rw [hnone]
    exact (List.append_nil _).symm
  · unfold BodyOf at hbody
    split at hbody
    · rename_i hhas
      rw [if_pos hhas]
      exact warns_content ctx (.map r.entriesIn) l body l' hbody
    · rename_i hhas
      rw [if_neg hhas, hbody.2, List.append_nil]

theorem warns_responses (entries : Entries) : Warns (responses ctx entries)
    (entries.flatMap fun e => responseWarnings ctx e.2) := by
  rw [responses_eq]
  exact warns_inTurn (fun e => warns_response ctx _ e.2) entries

theorem warns_requestBody (body : Value) :
    Warns (requestBody ctx body) (requestWarnings ctx body) := by
  unfold requestBody requestWarnings
  split
  · exact (warns_content ctx body).map _
  · exact warns_pure _

theorem warns_compose (operation : Value) :
    Warns (compose ctx operation) (warnings ctx operation) := by
  unfold compose warnings
  refine warns_lift_bind fun entries hentries => ?_
  rw [Value.entriesIn_of_ok hentries]
  refine (Parameters.warns_composeIfAny ctx _).bind fun parameters _ _ _ => ?_
  refine (warns_requestBody ctx _).bind fun body _ _ _ => ?_
  refine warns_lift_bind fun all hall => ?_
  rw [entriesOrNone_ok hall]
  exact (warns_responses ctx all).map _

end Operation

namespace Paths

/-- The warnings about a path item: the operations that stand in it, and its own parameters. -/
def itemWarnings (entries : Entries) : List String :=
  ((methodEntries entries).flatMap fun m =>
    if isNamed m.2 then [] else Operation.warnings ctx (.map m.2)) ++
      Parameters.warnings ctx (Value.field "parameters" entries)

def warnings (paths : Value) : List String := (pathItems paths).flatMap fun p => itemWarnings ctx p.2

theorem addOperation_warnings (l : Ledger) (id : Scalar) (operation : Value) :
    (l.addOperation id operation).warnings = l.warnings := by
  unfold Ledger.addOperation
  split <;> rfl

theorem warns_declareOperation (id operation : Value) : Warns (declareOperation id operation) [] := by
  unfold declareOperation
  refine warns_lift_bind fun key _ => warns_lift_bind fun _ _ => ?_
  intro l a l' h
  cases h
  exact (addOperation_warnings l key operation).trans (List.append_nil _).symm

theorem warns_operation (method : String) (operation : Entries) :
    Warns (Paths.operation ctx method operation)
      (if isNamed operation then [] else Operation.warnings ctx (.map operation)) := by
  unfold Paths.operation isNamed
  dsimp only
  split
  · exact (warns_declareOperation _ _).before fun _ => warns_lift_bind fun _ _ => warns_pure _
  · exact warns_lift_bind fun comment _ => (Operation.warns_compose ctx _).map _

theorem warns_item (entries : Entries) : Warns (item ctx (.map entries)) (itemWarnings ctx entries) := by
  unfold item itemWarnings
  refine warns_lift_bind fun found hfound => ?_
  cases hfound
  have hoperations := warns_inTurn (fun m => warns_operation ctx m.1 m.2) (methodEntries entries)
  rw [← operations_eq] at hoperations
  exact hoperations.bind fun declared _ _ _ => (Parameters.warns_composeIfAny ctx _).map _

theorem warns_entry (p : Scalar × Entries) : Warns (entry ctx p) (itemWarnings ctx p.2) :=
  warns_lift_bind fun _ _ => (warns_item ctx p.2).map _

theorem warns_pathsBlock (paths : Value) :
    Warns (Generator.pathsBlock ctx paths) (warnings ctx paths) := by
  unfold Generator.pathsBlock warnings pathItems Value.heldEntries
  split
  · refine Warns.map (warns_lift_bind fun entries hentries => ?_) _
    rw [Value.entriesIn_of_ok hentries, items_eq]
    exact warns_inTurn (warns_entry ctx) _
  · exact warns_pure _

end Paths

namespace Generator

/-- The warnings about the declarations of a section, each behind those about the fields in it. -/
def declarationWarnings (root : String) (v : Value) : List String :=
  v.propertyEntries.flatMap fun e =>
    (Schema.ofValue e.2.propertyNode).warnings root ++
      Schema.untyped root e.1 (Schema.ofValue e.2.propertyNode)

def Section.warnings (v : Value) : Section → List String
  | .parameters | .schemas => if v.truthy then declarationWarnings ctx.root v else []
  | .responses | .requestBodies => (bodies v).flatMap fun e => Operation.contentWarnings ctx (.map e.2)

theorem warns_composeDeclarations (root : String) (v : Value) :
    Warns (composeDeclarations root v) (declarationWarnings root v) := by
  refine warns_lift_bind fun ps hps => ?_
  obtain ⟨hnames, hschemas⟩ := declarations_ok hps
  have hpairs : ps.map (fun p => (p.1.name, p.2)) =
      v.propertyEntries.map fun e => (e.1, Schema.ofValue e.2.propertyNode) := by
    rw [← List.zip_map', ← List.zip_map', hnames, hschemas]
  have hfields : Schema.warningsFields root ps = declarationWarnings root v := by
    have hflat := congrArg
      (List.flatMap fun q : Scalar × Schema => q.2.warnings root ++ Schema.untyped root q.1 q.2) hpairs
    rw [List.flatMap_map, List.flatMap_map] at hflat
    rw [Schema.warningsFields_eq]
    exact hflat
  rw [← hfields]
  exact Schema.warns_composeFields ps

theorem warns_schemaSection (name : String) (v : Value) : Warns (schemaSection ctx name v)
    (if v.truthy then declarationWarnings ctx.root v else []) := by
  unfold schemaSection
  split
  · exact (warns_composeDeclarations ctx.root v).map _
  · exact warns_pure _

theorem warns_namedContent (key : Scalar) (entries : Entries) :
    Warns (namedContent ctx key (.map entries)) (Operation.contentWarnings ctx (.map entries)) :=
  warns_lift_bind fun _ _ => warns_lift_bind fun _ _ => (Operation.warns_content ctx _).map _

theorem warns_contentSection (name : String) (v : Value) : Warns (contentSection ctx name v)
    ((bodies v).flatMap fun e => Operation.contentWarnings ctx (.map e.2)) := by
  unfold contentSection bodies Value.heldEntries
  split
  · refine warns_lift_bind fun entries hentries => ?_
    have hcontents := warns_inTurn (fun e : Scalar × Entries => warns_namedContent ctx e.1 e.2)
      (entries.filterMap Value.mappingAt?)
    rw [← namedContents_eq] at hcontents
    rw [Value.entriesIn_of_ok hentries]
    exact hcontents.map _
  · exact warns_pure _

theorem warns_section (s : Section) (v : Value) : Warns (s.compose ctx v) (s.warnings ctx v) := by
  cases s with
  | parameters => exact warns_schemaSection ctx _ v
  | schemas => exact warns_schemaSection ctx _ v
  | responses => exact warns_contentSection ctx _ v
  | requestBodies => exact warns_contentSection ctx _ v

theorem warns_declaredOperations (os : List (Scalar × Value)) :
    Warns (declaredOperations ctx os) (os.flatMap fun o => Operation.warnings ctx o.2) := by
  rw [declaredOperations_eq]
  refine warns_inTurn (fun o => ?_) os
  exact warns_lift_bind fun _ _ => warns_lift_bind fun _ _ => warns_lift_bind fun _ _ =>
    (Operation.warns_compose ctx o.2).map _

def componentWarnings (options : Options) (entries : Entries) : List String :=
  [Section.parameters, .schemas, .responses, .requestBodies].flatMap fun s =>
    s.warnings (contextOf entries) (s.valueIn options entries)

/-- The warnings about a document with paths or components. Of the operations with one id the first
is composed, and no other. -/
def documentWarnings (options : Options) (entries : Entries) : List String :=
  Paths.warnings (contextOf entries) (pathsOf entries) ++
    ((operationsOf entries).flatMap fun o => Operation.warnings (contextOf entries) o.2) ++
      componentWarnings options entries

def rawWarnings (options : Options) (document : Entries) : List String :=
  match Mapper.apply (.map document) options.mapper with
  | .ok schemas => declarationWarnings rawRoot schemas
  | .error _ => []

def expectedWarnings (options : Options) (entries : Entries) : List String :=
  if options.raw then rawWarnings options entries else documentWarnings options entries

variable {options : Options} {entries : Entries}

theorem warns_raw : Warns (raw options entries) (rawWarnings options entries) := by
  unfold raw rawWarnings
  refine warns_lift_bind fun schemas hschemas => ?_
  rw [hschemas]
  exact (warns_composeDeclarations rawRoot schemas).map _

theorem warns_components : Warns
    (components (contextOf entries) (partsOf entries) (schemasOf options entries))
    (componentWarnings options entries) := by
  have hsection := fun s : Section => warns_section (contextOf entries) s (s.valueIn options entries)
  unfold components componentWarnings
  rw [List.flatMap_cons, List.flatMap_cons, List.flatMap_cons, List.flatMap_singleton]
  refine (hsection .parameters).bind fun _ _ _ _ => ?_
  refine (hsection .schemas).bind fun _ _ _ _ => ?_
  exact (hsection .responses).bind fun _ _ _ _ => (hsection .requestBodies).map _

theorem document_warnings {text : String} {l : Ledger}
    (h : (document options entries).exec .empty = (.ok text, l)) :
    l.warnings = documentWarnings options entries := by
  obtain ⟨paths, declared, comps, l₁, l₂, hruns, -⟩ := document_runs h
  have hpaths := Paths.warns_pathsBlock (contextOf entries) (pathsOf entries) _ _ _ hruns.paths
  have hoperations := warns_declaredOperations (contextOf entries) _ _ _ _ hruns.operations
  have hcomponents := warns_components _ _ _ hruns.components
  rw [hcomponents, hoperations, hpaths]
  rfl

/-- The warnings are exactly those about what was composed, in the order in which it was. -/
theorem generate_warnings {document : Value} {out : Output} (h : generate options document = .ok out) :
    ∃ entries, document = .map entries ∧ out.warnings = expectedWarnings options entries := by
  unfold generate at h
  split at h
  · split at h
    · rename_i entries _
      refine ⟨entries, rfl, ?_⟩
      split at h
      · rename_i text ledger hrun
        cases h
        unfold compose at hrun
        unfold expectedWarnings
        split at hrun
        · rename_i hraw
          rw [if_pos hraw]
          exact warns_raw _ _ _ hrun
        · rename_i hraw
          rw [if_neg hraw]
          exact document_warnings hrun
      · cases h
    · cases h
  · cases h

/-- A response whose schema has a field without a type, behind one with such a field inside. -/
def untypedResponses : Value := .map [(.text "200", .map [(.text "content", .map [(.text "text/plain",
  .map [(.text "schema", .map [(.text "properties", .map [
    (.text "outer", .map [(.text "items", .map [(.text "properties",
      .map [(.text "inner", .map [])])])]),
    (.text "blank", .map [])])])])])])]

/-- Parameters that are lost, without a name, no mapping, or as they should be: two of these are given
by a reference and two are not. -/
def mixedParameters : List Value := [
  .map [(.text "$ref", .text "#/shared/limit")], .map [(.text "$ref", .text "#/lost")],
  .map [(.text "in", .text "header"), (.text "name", .text "trace"),
    (.text "schema", .map [(.text "type", .text "string")])],
  .text "no mapping", .map [(.text "in", .text "query")],
  .map [(.text "$ref", .text "#/shared/nameless")], .map [(.text "$ref", .text "#/shared/page")],
  .map [(.text "in", .text "path"), (.text "name", .text "key")]]

/-- A path with such parameters and two operations under one id, and a section with a declaration
without a type. -/
def degraded : Entries := [
  (.text "paths", .map [(.text "/a", .map [
    (.text "get", .map [(.text "operationId", .text "read"), (.text "responses", untypedResponses)]),
    (.text "put", .map [(.text "operationId", .text "read"), (.text "parameters",
      .list [.map [(.text "$ref", .text "#/superseded")]])]),
    (.text "parameters", .list mixedParameters)])]),
  (.text "shared", .map [
    (.text "limit", .map [(.text "in", .text "query"), (.text "name", .text "limit")]),
    (.text "page", .map [(.text "in", .text "query"), (.text "name", .text "page")]),
    (.text "nameless", .map [(.text "in", .text "query"), (.text "name", .text "")])]),
  (.text "components", .map [(.text "schemas", .map [(.text "Any", .map [])])])]

def degradedWarnings : List String :=
  ["Could not resolve parameter reference '#/lost'",
    "Skipping parameter without name or location: \x7b'in': 'query'\x7d",
    "Could not resolve parameter reference '#/shared/nameless'",
    "Field 'inner' has no recognised type", "Field 'blank' has no recognised type",
    "Field 'Any' has no recognised type"]

/-- Each warning has its reason: no other parameter and no other field is warned of. -/
theorem degraded_warnings : ∃ out, generate ⟨false, none⟩ (.map degraded) = .ok out ∧
    out.warnings = degradedWarnings ∧ expectedWarnings ⟨false, none⟩ degraded = degradedWarnings := by
  obtain ⟨out, hout, hwarnings⟩ : ∃ out, generate ⟨false, none⟩ (.map degraded) = .ok out ∧
      out.warnings = degradedWarnings := ⟨_, rfl, rfl⟩
  obtain ⟨entries, hentries, hexpected⟩ := generate_warnings hout
  cases hentries
  exact ⟨out, hout, hwarnings, hexpected.symm.trans hwarnings⟩

end Generator

end ApiTypes
