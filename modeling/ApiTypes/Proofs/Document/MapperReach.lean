import ApiTypes.Proofs.Document.Assembly

/-!
# What a mapper reaches

A mapper takes the place of the schemas where they are declared, and nowhere else.
References are looked up in the document as it is, so the other blocks are the same
with a mapper and without; of the imports only those of the schemas change.
-/

set_option autoImplicit false

namespace ApiTypes

open Compose

namespace Value

/-- A mapping, or one around this place, which is not empty. -/
inductive Mapping : Value → Prop
  | plain (entries : Entries) : Mapping (.map entries)
  | around (isMap : Bool) (forms : List String) {entries : Entries} (h : entries ≠ []) :
    Mapping (.again isMap forms (some (.map entries)))

theorem Mapping.entriesOf {v : Value} (h : Mapping v) : Mapper.entriesOf v = .ok v.entriesIn := by
  cases h <;> rfl

theorem Mapping.truthy {v : Value} (h : Mapping v) : (Value.map v.entriesIn).truthy = v.truthy := by
  cases h with
  | plain entries => rfl
  | around isMap forms hne =>
    change (!List.isEmpty _) = true
    simpa [entriesIn, opened] using hne

end Value

def Mapper.same : Mapper := fun entries => .ok (.map entries)

namespace Schema

theorem names_of_properties {v : Value} {names : List Value} {ps : List (Property × Schema)}
    (hn : v.elements = .ok names) (hp : v.reading.properties = .ok ps) :
    names = (ps.map fun p => p.1.name).map .scalar := by
  have hentries : v.opened = .map v.propertyEntries := by
    match v, hn, hp with
    | .map entries, _, _ => rfl
    | .again _ _ (some (.map entries)), _, _ => rfl
    | .again true _ none, _, hp => cases hp
    | .again false _ none, _, hp => cases hp
  have helements := Value.elements_ok hn
  rw [Value.elements?, hentries] at helements
  rw [← Option.some.inj helements, properties_eq v hp, List.map_map, List.map_map]
  apply List.map_congr_left
  intro e _
  exact congrArg Value.scalar (propertyAt_parts e).1.symm

theorem mapM_asKey (keys : List Scalar) : (keys.map Value.scalar).mapM Value.asKey = .ok keys := by
  induction keys with
  | nil => rfl
  | cons k rest ih =>
    rw [List.map_cons, List.mapM_cons, ih]
    rfl

theorem markRequired_all (ps : List (Property × Schema)) :
    markRequired (ps.map fun p => p.1.name) ps = ps.map fun p => ({ p.1 with required := true }, p.2) := by
  apply List.map_congr_left
  intro p hp
  have hholds : holdsName (ps.map fun p => p.1.name) p.1.name = true :=
    List.any_eq_true.mpr ⟨p.1.name, List.mem_map.mpr ⟨p, hp, rfl⟩, Scalar.same_refl _⟩
  rw [hholds]

theorem declarations_eq (v : Value) :
    declarations v = v.elements >>= fun names => properties v (.list names) := by
  unfold declarations properties
  cases hn : v.elements with
  | error x => rfl
  | ok names =>
    change (names.mapM Value.asKey >>= fun _ => _) = names.mapM Value.asKey >>= fun _ => _
    cases hp : v.reading.properties with
    | error x => rfl
    | ok ps =>
      have hkeys : names.mapM Value.asKey = .ok (ps.map fun p => p.1.name) := by
        rw [names_of_properties hn hp, mapM_asKey]
      rw [hkeys]
      exact congrArg Except.ok (markRequired_all ps).symm

end Schema

theorem composeDeclarations_eq {v : Value} {names : List Value} (h : v.elements = .ok names)
    (root : String) : composeDeclarations root v = composeProperties root v (.list names) := by
  unfold composeDeclarations composeProperties
  rw [Schema.declarations_eq, h]
  rfl

theorem composeDeclarations_entries {v : Value} (h : v.Mapping) (root : String) :
    composeDeclarations root (.map v.entriesIn) = composeDeclarations root v := by
  cases h <;> rfl

namespace Generator

def referencesBefore (entries : Entries) : List String :=
  Paths.references (Parameters.references (contextOf entries)) (pathsOf entries) ++
    (operationsOf entries).flatMap
      (fun o => Operation.references (Parameters.references (contextOf entries)) o.2) ++
    Section.parameters.references (Value.field "parameters" (partsOf entries))

def referencesBehind (entries : Entries) : List String :=
  Section.responses.references (Value.field "responses" (partsOf entries)) ++
    Section.requestBodies.references (Value.field "requestBodies" (partsOf entries))

def importKeysWith (entries : Entries) (schemas : Value) : List String :=
  (keysOf (referencesBefore entries) ++ keysOf (Section.schemas.references schemas) ++
    keysOf (referencesBehind entries)).eraseDups

/-- The block of schemas: their fields, each of them required. There is none without schemas. -/
inductive DeclaresSchemas (schemas : Value) : String → Prop
  | absent (h : schemas.truthy = false) : DeclaresSchemas schemas ""
  | declared {names : List Value} {fields : String} (h : schemas.truthy = true)
    (hn : schemas.elements = .ok names)
    (hf : (composeProperties "" schemas (.list names)).result = .ok fields) :
    DeclaresSchemas schemas (record "schemas" fields)

/-- The outputs for a document without a mapper and with one, in blocks. -/
structure Reaches (entries : Entries) (mapper : Mapper) (mapped : Value) (b b' : Blocks)
    (out out' : Output) : Prop where
  given : mapper (sectionOf "schemas" (partsOf entries)).entriesIn = .ok mapped
  without : Assembled ⟨false, none⟩ entries b
  within : Assembled ⟨false, some mapper⟩ entries b'
  text : out.text = b.text (Imports.block
    (importKeysWith entries (sectionOf "schemas" (partsOf entries))))
  text' : out'.text = b'.text (Imports.block (importKeysWith entries mapped))
  schemas : DeclaresSchemas mapped (b'.sections .schemas)
  paths : b'.paths = b.paths
  operations : b'.operations = b.operations
  sections : ∀ s : Section, s ≠ .schemas → b'.sections s = b.sections s

theorem importKeys_eq (options : Options) (entries : Entries) :
    importKeys options entries = importKeysWith entries (schemasOf options entries) := by
  unfold importKeys importKeysWith resolved documentReferences referencesBefore referencesBehind keysOf
  simp only [List.filterMap_append, List.append_assoc]
  rfl

theorem declaresSchemas_of_result {ctx : Context} (hroot : ctx.root = "") {schemas : Value}
    {text : String} (h : (schemaSection ctx "schemas" schemas).result = .ok text) :
    DeclaresSchemas schemas text := by
  unfold schemaSection at h
  split at h
  · rename_i ht
    obtain ⟨fields, l₁, hf, hend⟩ := exec_bind_ok.mp (Prod.ext h rfl)
    cases hend
    rw [hroot] at hf
    have hdeclarations := hf
    unfold composeDeclarations at hdeclarations
    obtain ⟨ps, l₂, hp, _⟩ := exec_bind_ok.mp hdeclarations
    have hps := (exec_lift_ok.mp hp).1
    rw [Schema.declarations_eq] at hps
    obtain ⟨names, hnames, _⟩ := except_bind_ok.mp hps
    rw [composeDeclarations_eq hnames] at hf
    exact .declared ht hnames (congrArg Prod.fst hf)
  · rename_i ht
    cases h
    exact .absent (Bool.eq_false_iff.mpr ht)

theorem schemaSection_entries {v : Value} (h : v.Mapping) (ctx : Context) (name : String) :
    schemaSection ctx name (.map v.entriesIn) = schemaSection ctx name v := by
  unfold schemaSection
  rw [h.truthy, composeDeclarations_entries h]

theorem mapping_sectionOf {name : String} {entries : Entries}
    (h : Value.field name entries = .null ∨ (Value.field name entries).Mapping) :
    (sectionOf name entries).Mapping := by
  unfold sectionOf
  dsimp only
  split
  · rename_i ht
    rcases h with h | h
    · rw [h] at ht
      cases ht
    · exact h
  · exact .plain []

/-- With a mapper and without, every computation but that of the schemas is the same. -/
theorem sectionIn_mapper {s : Section} (hs : s ≠ .schemas) (mapper : Mapper) (entries : Entries) :
    sectionIn ⟨false, some mapper⟩ entries s = sectionIn ⟨false, none⟩ entries s := by
  cases s with
  | schemas => exact (hs rfl).elim
  | parameters => rfl
  | responses => rfl
  | requestBodies => rfl

theorem document_same {entries : Entries} (h : (sectionOf "schemas" (partsOf entries)).Mapping) :
    document ⟨false, some Mapper.same⟩ entries = document ⟨false, none⟩ entries := by
  rw [document_eq, document_eq]
  cases hparts : (sectionOf "components" entries).entriesFor "get" with
  | error x => rfl
  | ok parts =>
    have hpartsOf : partsOf entries = parts := Value.entriesIn_of_ok hparts
    rw [hpartsOf] at h
    -- What the mapper gives back is the schemas once more, opened if they are around their place.
    have happly : Mapper.apply (sectionOf "schemas" parts) (some Mapper.same) =
        .ok (.map (sectionOf "schemas" parts).entriesIn) := by
      unfold Mapper.apply
      rw [h.entriesOf]
      rfl
    have hcomponents : components (contextOf entries) parts (.map (sectionOf "schemas" parts).entriesIn) =
        components (contextOf entries) parts (sectionOf "schemas" parts) := by
      unfold components
      rw [schemaSection_entries h]
    have hnone : Mapper.apply (sectionOf "schemas" parts) none = .ok (sectionOf "schemas" parts) := rfl
    have hlift : ∀ {α : Type} (a : α), (liftM (Except.ok a : Except Fault α) : Compose α) = pure a :=
      fun _ => rfl
    simp only [hlift, pure_bind, happly, hnone, hcomponents]

/-- A parameter that is described among the schemas, and references into other documents. -/
def pagedDocument : Entries :=
  [(.text "paths", .map [(.text "/pets", .map [(.text "get", .map
      [(.text "operationId", .text "list"),
        (.text "parameters", .list [.map [(.text "$ref", .text "#/components/schemas/Page")]])])])]),
    (.text "components", .map
      [(.text "schemas", .map
        [(.text "Page", .map [(.text "in", .text "query"), (.text "name", .text "page")]),
          (.text "Pet", .map [(.text "$ref", .text "pet.json")])]),
        (.text "responses", .map [(.text "Gone", .map [(.text "$ref", .text "gone.yaml#/Gone")])])])]

def renamedSchema : Mapper :=
  fun _ => .ok (.map [(.text "Animal", .map [(.text "$ref", .text "animal.json")])])

end Generator

end ApiTypes
