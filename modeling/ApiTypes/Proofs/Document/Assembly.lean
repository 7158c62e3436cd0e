import ApiTypes.Proofs.Compose.Alone
import ApiTypes.Proofs.Document.Outline

/-!
# A document is put together from parts

The blocks of a document are composed on one ledger, but each is what its composer
makes on an empty one. So a document has declarations exactly when each of its blocks
does, and its warnings are those of the blocks one after another. The paths and the
operations come to blocks exactly when each path and each operation does.
-/

set_option autoImplicit false

namespace ApiTypes

open Compose

namespace Generator

section Parts

variable (ctx : Context)

theorem additive_pathsBlock (paths : Value) : Additive (pathsBlock ctx paths) := by
  unfold pathsBlock
  split
  · exact closed_additive.map (Paths.closed_compose closed_additive ctx paths) _
  · exact closed_additive.pure _

theorem additive_declaredOperations (os : List (Scalar × Value)) :
    Additive (declaredOperations ctx os) :=
  closed_declaredOperations closed_additive.toClosed ctx os

theorem additive_schemaSection (name : String) (v : Value) : Additive (schemaSection ctx name v) := by
  unfold schemaSection composeDeclarations
  split
  · exact closed_additive.map (closed_additive.bind (closed_additive.lift _) fun ps =>
      Schema.closed_composeFields closed_additive.toClosed _ ps) _
  · exact closed_additive.pure _

theorem additive_contentSection (name : String) (v : Value) :
    Additive (contentSection ctx name v) := by
  unfold contentSection
  split
  · refine closed_additive.bind (closed_additive.lift _) fun entries => ?_
    apply closed_additive.map
    rw [namedContents_eq]
    refine closed_additive.toClosed.inTurn (fun p : Scalar × Entries => ?_) _
    refine closed_additive.bind (closed_additive.lift _) fun _ => ?_
    exact closed_additive.bind (closed_additive.lift _) fun _ =>
      closed_additive.map (Operation.closed_content closed_additive.toClosed ctx _) _
  · exact closed_additive.pure _

theorem additive_section (s : Section) (v : Value) : Additive (s.compose ctx v) := by
  cases s with
  | parameters => exact additive_schemaSection ctx _ v
  | schemas => exact additive_schemaSection ctx _ v
  | responses => exact additive_contentSection ctx _ v
  | requestBodies => exact additive_contentSection ctx _ v

end Parts

/-- The blocks of a document, each apart. -/
structure Blocks where
  paths : String
  operations : String
  sections : Section → String

namespace Blocks

def operationsText (b : Blocks) : String := interface "operations" (b.operations ++ "\n") ++ "\n"

def componentsText (b : Blocks) : String :=
  interface "components" (b.sections .parameters ++ b.sections .schemas ++ b.sections .responses ++
    b.sections .requestBodies)

def text (imports : String) (b : Blocks) : String :=
  imports ++ b.paths ++ b.operationsText ++ b.componentsText

end Blocks

def sectionIn (options : Options) (entries : Entries) (s : Section) : Compose String :=
  s.compose (contextOf entries) (s.valueIn options entries)

def pathsIn (entries : Entries) : Compose String := pathsBlock (contextOf entries) (pathsOf entries)

def operationsIn (entries : Entries) : Compose String :=
  declaredOperations (contextOf entries) (operationsOf entries)

theorem additive_pathsIn (entries : Entries) : Additive (pathsIn entries) := additive_pathsBlock _ _

theorem additive_operationsIn (entries : Entries) : Additive (operationsIn entries) :=
  additive_declaredOperations _ _

theorem additive_sectionIn (options : Options) (entries : Entries) (s : Section) :
    Additive (sectionIn options entries s) := additive_section _ s _

/-- A document whose parts come to the given blocks, each by itself. -/
structure Assembled (options : Options) (entries : Entries) (b : Blocks) : Prop where
  shape : hasShape options (.map entries) = true
  parts : (sectionOf "components" entries).entriesFor "get" = .ok (partsOf entries)
  mapped : Mapper.apply (sectionOf "schemas" (partsOf entries)) options.mapper =
    .ok (schemasOf options entries)
  paths : (pathsIn entries).result = .ok b.paths
  operations : (operationsIn entries).result = .ok b.operations
  sections : ∀ s : Section, (sectionIn options entries s).result = .ok (b.sections s)

/-- A part comes to one text only, so the blocks of a document are determined by it. -/
theorem Assembled.unique {options : Options} {entries : Entries} {b b' : Blocks}
    (h : Assembled options entries b) (h' : Assembled options entries b') : b = b' := by
  obtain ⟨paths, operations, sections⟩ := b
  obtain ⟨paths', operations', sections'⟩ := b'
  have hpaths := Except.ok.inj (h.paths.symm.trans h'.paths)
  have hoperations := Except.ok.inj (h.operations.symm.trans h'.operations)
  have hsections : sections = sections' :=
    funext fun s => Except.ok.inj ((h.sections s).symm.trans (h'.sections s))
  dsimp only at hpaths hoperations
  rw [hpaths, hoperations, hsections]

def warningsOf (options : Options) (entries : Entries) : List String :=
  (pathsIn entries).records.warnings ++ (operationsIn entries).records.warnings ++
    (sectionIn options entries .parameters).records.warnings ++
    (sectionIn options entries .schemas).records.warnings ++
    (sectionIn options entries .responses).records.warnings ++
    (sectionIn options entries .requestBodies).records.warnings

variable {options : Options} {entries : Entries}

theorem operations_pathsIn {text : String} {l' : Ledger}
    (h : (pathsIn entries).exec .empty = (.ok text, l')) : l'.operations = operationsOf entries := by
  obtain ⟨_, _, _, hreg, _⟩ := Paths.block_ok rfl h
  have hempty : Ledger.empty.operations = Entries.firsts [] := rfl
  exact hreg [] hempty

theorem components_iff {l l' : Ledger} {text : String} :
    (components (contextOf entries) (partsOf entries) (schemasOf options entries)).exec l =
      (.ok text, l') ↔
    ∃ texts : Section → String, (∀ s, (sectionIn options entries s).result = .ok (texts s)) ∧
      text = texts .parameters ++ texts .schemas ++ texts .responses ++ texts .requestBodies ∧
      l' = (((l.extended (sectionIn options entries .parameters).records).extended
        (sectionIn options entries .schemas).records).extended
        (sectionIn options entries .responses).records).extended
        (sectionIn options entries .requestBodies).records := by
  have hadd := additive_sectionIn options entries
  unfold components
  constructor
  · intro h
    obtain ⟨parameters, l₁, hp, hgo⟩ := exec_bind_ok.mp h
    obtain ⟨schemas, l₂, hs, hgo⟩ := exec_bind_ok.mp hgo
    obtain ⟨responses, l₃, hr, hgo⟩ := exec_bind_ok.mp hgo
    obtain ⟨requestBodies, l₄, hb, hend⟩ := exec_bind_ok.mp hgo
    cases hend
    obtain ⟨hparameters, rfl⟩ := result_of_exec (hadd .parameters) hp
    obtain ⟨hschemas, rfl⟩ := result_of_exec (hadd .schemas) hs
    obtain ⟨hresponses, rfl⟩ := result_of_exec (hadd .responses) hr
    obtain ⟨hbodies, rfl⟩ := result_of_exec (hadd .requestBodies) hb
    refine ⟨Section.choose parameters schemas responses requestBodies, ?_, rfl, rfl⟩
    intro s
    cases s <;> assumption
  · rintro ⟨texts, hall, rfl, rfl⟩
    refine exec_bind_ok.mpr ⟨_, _, exec_of_result (hadd .parameters) (hall .parameters) _, ?_⟩
    refine exec_bind_ok.mpr ⟨_, _, exec_of_result (hadd .schemas) (hall .schemas) _, ?_⟩
    refine exec_bind_ok.mpr ⟨_, _, exec_of_result (hadd .responses) (hall .responses) _, ?_⟩
    exact exec_bind_ok.mpr ⟨_, _, exec_of_result (hadd .requestBodies) (hall .requestBodies) _, rfl⟩

theorem assembled_of_document {text : String} {l' : Ledger}
    (hshape : hasShape options (.map entries) = true)
    (h : (document options entries).exec .empty = (.ok text, l')) :
    ∃ b, Assembled options entries b ∧
      text = b.text (Imports.block (importKeys options entries)) ∧
        l'.warnings = warningsOf options entries := by
  obtain ⟨paths, declared, comps, l₁, l₂, hruns, htext⟩ := document_runs h
  obtain ⟨hpaths, hl₁⟩ := result_of_exec (additive_pathsIn entries) hruns.paths
  obtain ⟨hoperations, hl₂⟩ := result_of_exec (additive_operationsIn entries) hruns.operations
  obtain ⟨texts, hsections, hcomps, hl'⟩ := components_iff.mp hruns.components
  obtain ⟨v, hv⟩ := hruns.mapped
  have hmapped : Mapper.apply (sectionOf "schemas" (partsOf entries)) options.mapper =
      .ok (schemasOf options entries) := by
    rw [schemasOf, hv]
  refine ⟨⟨paths, declared, texts⟩,
    ⟨hshape, hruns.parts, hmapped, hpaths, hoperations, hsections⟩, ?_, ?_⟩
  · rw [htext, hruns.externals, hcomps]
    rfl
  · rw [hl', hl₂, hl₁]
    rfl

theorem document_eq (options : Options) (entries : Entries) : document options entries = (do
    let parts ← (sectionOf "components" entries).entriesFor "get"
    let schemas ← Mapper.apply (sectionOf "schemas" parts) options.mapper
    let paths ← pathsIn entries
    let operations ← operationsBlock (contextOf entries)
    let components ← components (contextOf entries) parts schemas
    let imports ← importsBlock
    return imports ++ paths ++ operations ++ interface "components" components) := rfl

theorem document_of_assembled {b : Blocks} (h : Assembled options entries b) :
    ∃ text l', (document options entries).exec .empty = (.ok text, l') := by
  have hpaths := exec_of_result (additive_pathsIn entries) h.paths .empty
  have hoperations := exec_of_result (additive_operationsIn entries) h.operations
    (Ledger.empty.extended (pathsIn entries).records)
  have hblock : (operationsBlock (contextOf entries)).exec
      (Ledger.empty.extended (pathsIn entries).records) = (.ok b.operationsText,
        (Ledger.empty.extended (pathsIn entries).records).extended (operationsIn entries).records) := by
    unfold operationsBlock
    refine exec_bind_ok.mpr ⟨_, _, rfl, exec_bind_ok.mpr ⟨b.operations, _, ?_, rfl⟩⟩
    rw [operations_pathsIn hpaths]
    exact hoperations
  have hcomponents := components_iff (l := (Ledger.empty.extended (pathsIn entries).records).extended
    (operationsIn entries).records).mpr ⟨b.sections, h.sections, rfl, rfl⟩
  rw [document_eq, exec_bind, exec_lift, h.parts]
  dsimp only
  rw [exec_bind, exec_lift, h.mapped]
  dsimp only
  rw [exec_bind, hpaths]
  dsimp only
  rw [exec_bind, hblock]
  dsimp only
  rw [exec_bind, hcomponents]
  exact ⟨_, _, rfl⟩

theorem generate_map (hraw : options.raw = false) : generate options (.map entries) =
    if hasShape options (.map entries) then
      match (document options entries).exec .empty with
      | (.ok text, ledger) => .ok ⟨text, ledger.warnings⟩
      | (.error fault, _) => .error (.fault fault)
    else .error .shapeless := by
  have hcompose : compose options entries = document options entries := by
    rw [compose, hraw, if_neg Bool.false_ne_true]
  rw [← hcompose]
  rfl

/-- Outside raw mode a document has declarations exactly when it is assembled from its parts; its
output is the text of the parts with their warnings. -/
theorem generate_iff_assembled (hraw : options.raw = false) {out : Output} :
    generate options (.map entries) = .ok out ↔ ∃ b, Assembled options entries b ∧
      out = ⟨b.text (Imports.block (importKeys options entries)), warningsOf options entries⟩ := by
  rw [generate_map hraw]
  constructor
  · intro h
    split at h
    · rename_i hshape
      split at h
      · rename_i text ledger hc
        obtain ⟨b, hb, htext, hwarnings⟩ := assembled_of_document hshape hc
        cases h
        exact ⟨b, hb, by rw [htext, hwarnings]⟩
      · cases h
    · cases h
  · rintro ⟨b, hb, rfl⟩
    obtain ⟨text, l', hc⟩ := document_of_assembled hb
    obtain ⟨b', hb', htext, hwarnings⟩ := assembled_of_document hb.shape hc
    rw [if_pos hb.shape, hc]
    dsimp only
    rw [htext, hwarnings, hb'.unique hb]

/-- The interface of the paths with the given texts, if the value that they come from holds. -/
def pathsText (paths : Value) (texts : List String) : String :=
  if paths.truthy then interface "paths" (String.join texts) ++ "\n" else ""

theorem additive_entry (ctx : Context) (p : Scalar × Entries) : Additive (Paths.entry ctx p) :=
  closed_additive.bind (closed_additive.lift _) fun _ =>
    closed_additive.map (Paths.closed_item closed_additive ctx _) _

theorem pathsBlock_eq (ctx : Context) {paths : Value} {es : Entries} (ht : paths.truthy = true)
    (hes : paths.opened = .map es) : pathsBlock ctx paths =
      inTurn (Paths.entry ctx) (Paths.pathItems paths) >>= fun items =>
        pure (interface "paths" items ++ "\n") := by
  have hentries : paths.entriesFor "items" = .ok es := by
    rw [Value.entriesFor, hes]
  rw [pathsBlock, if_pos ht, Paths.compose, hentries, Paths.pathItems, Value.heldEntries, if_pos ht,
    Value.entriesIn_of_map hes, ← Paths.items_eq]
  rfl

theorem pathsBlock_result {ctx : Context} {paths : Value} {t : String} :
    (pathsBlock ctx paths).result = .ok t ↔
      (paths.truthy = true → ∃ es, paths.opened = .map es) ∧
      (∀ p ∈ Paths.pathItems paths, ∃ s, (Paths.entry ctx p).result = .ok s) ∧
        t = pathsText paths ((Paths.pathItems paths).map fun p => (Paths.entry ctx p).text) := by
  have hentry := additive_entry ctx
  by_cases ht : paths.truthy = true
  · by_cases hm : ∃ es, paths.opened = .map es
    · obtain ⟨es, hes⟩ := hm
      rw [pathsBlock_eq ctx ht hes, result_bind_ok fun _ => closed_additive.pure _, pathsText, if_pos ht]
      constructor
      · rintro ⟨items, hitems, hend⟩
        obtain ⟨hall, rfl⟩ := (inTurn_result hentry).mp hitems
        cases hend
        exact ⟨fun _ => ⟨es, hes⟩, hall, rfl⟩
      · rintro ⟨-, hall, rfl⟩
        exact ⟨_, (inTurn_result hentry).mpr ⟨hall, rfl⟩, rfl⟩
    · constructor
      · intro h
        rw [pathsBlock, if_pos ht] at h
        obtain ⟨items, l, hitems, -⟩ := exec_bind_ok.mp (Prod.ext h rfl)
        unfold Paths.compose at hitems
        obtain ⟨es, l', hes, -⟩ := exec_bind_ok.mp hitems
        exact (hm ⟨es, Value.entriesFor_ok (exec_lift_ok.mp hes).1⟩).elim
      · rintro ⟨hmap, -⟩
        exact (hm (hmap ht)).elim
  · have hnone : Paths.pathItems paths = [] := by
      rw [Paths.pathItems, Value.heldEntries, if_neg ht, List.filterMap_nil]
    rw [pathsBlock, if_neg ht, hnone, pathsText, if_neg ht]
    constructor
    · intro h
      cases h
      exact ⟨fun h => (ht h).elim, fun _ hp => (by cases hp), rfl⟩
    · rintro ⟨-, -, rfl⟩
      rfl

theorem pathsBlock_warnings {ctx : Context} {paths : Value} {t : String}
    (h : (pathsBlock ctx paths).result = .ok t) : (pathsBlock ctx paths).records.warnings =
      (Paths.pathItems paths).flatMap fun p => (Paths.entry ctx p).records.warnings := by
  have hentry := additive_entry ctx
  obtain ⟨hmap, hall, -⟩ := pathsBlock_result.mp h
  by_cases ht : paths.truthy = true
  · obtain ⟨es, hes⟩ := hmap ht
    have hitems := (inTurn_result hentry).mpr ⟨hall, rfl⟩
    rw [pathsBlock_eq ctx ht hes, warnings_bind (fun _ => closed_additive.pure _) hitems,
      inTurn_warnings hentry hall]
    exact List.append_nil _
  · rw [pathsBlock, if_neg ht, Paths.pathItems, Value.heldEntries, if_neg ht]
    rfl

theorem additive_declaredOperation (ctx : Context) (o : Scalar × Value) :
    Additive (declaredOperation ctx o.1 o.2) :=
  closed_declaredOperation closed_additive.toClosed ctx o.1 o.2

theorem operationsIn_result {entries : Entries} {t : String} :
    (operationsIn entries).result = .ok t ↔
      (∀ o ∈ operationsOf entries,
        ∃ s, (declaredOperation (contextOf entries) o.1 o.2).result = .ok s) ∧
      t = String.join ((operationsOf entries).map fun o =>
        (declaredOperation (contextOf entries) o.1 o.2).text) := by
  rw [operationsIn, declaredOperations_eq]
  exact inTurn_result (additive_declaredOperation _)

theorem operationsIn_warnings {entries : Entries} {t : String}
    (h : (operationsIn entries).result = .ok t) : (operationsIn entries).records.warnings =
      (operationsOf entries).flatMap fun o =>
        (declaredOperation (contextOf entries) o.1 o.2).records.warnings := by
  have hall := (operationsIn_result.mp h).1
  rw [operationsIn, declaredOperations_eq]
  exact inTurn_warnings (additive_declaredOperation _) hall

end Generator

end ApiTypes
