import ApiTypes.Proofs.Document.Outline
import ApiTypes.Proofs.Schema.Rewriting

/-!
# Raw mode and the components of a document

A map of schemas generated in raw mode declares what it declares as the schemas of a
document, once the references into the map itself are turned to where the schemas
then are.
-/

set_option autoImplicit false

namespace ApiTypes

open Compose

namespace Reference

def rebasedChars (root : List Char) : List Char → List Char
  | '#' :: path => '#' :: '/' :: (root ++ path.dropWhile (· = '/'))
  | s => s

def rebased (root ref : String) : String := String.ofList (rebasedChars root.toList ref.toList)

theorem ofChars_rebasedChars {root : List Char} (hroot : ∃ c rest, root = c :: rest ∧ c ≠ '/')
    (ref : List Char) : Target.ofChars (rebasedChars root ref) = match Target.ofChars ref with
      | .inside path => .inside (root ++ path)
      | target => target := by
  obtain ⟨c, rest, rfl, hc⟩ := hroot
  match ref with
  | [] => rfl
  | d :: ref =>
    by_cases hd : d = '#'
    · subst hd
      simp [rebasedChars, Target.ofChars, hc]
    · have hkept : rebasedChars (c :: rest) (d :: ref) = d :: ref := by
        unfold rebasedChars
        split
        · rename_i h
          exact (hd (List.cons.inj h).1).elim
        · rfl
      have houtside : ∃ key path, Target.ofChars (d :: ref) = .outside key path := by
        unfold Target.ofChars
        split
        · rename_i h
          exact (hd (List.cons.inj h).1).elim
        · exact ⟨_, _, rfl⟩
      obtain ⟨key, path, ho⟩ := houtside
      rw [hkept, ho]

theorem refer_rebased {root : String} (hroot : ∃ c rest, root.toList = c :: rest ∧ c ≠ '/')
    (ref : String) : refer "" (rebased root ref) = refer root ref := by
  have htarget : target (rebased root ref) = match target ref with
      | .inside path => .inside (root.toList ++ path)
      | t => t := by
    unfold target rebased
    rw [String.toList_ofList]
    exact ofChars_rebasedChars hroot ref.toList
  unfold refer externalKey? expression
  rw [htarget]
  cases target ref <;> rfl

end Reference

namespace Generator

/-- The schemas of a map with the references into the map turned to the root of raw mode. -/
def rebased (schemas : Entries) : Entries :=
  Value.rewriteEntries (Reference.rebased rawRoot) (fun _ => some .entry) schemas

/-- A reference that the alternatives next to it hide is no reference of the node, and stays. -/
example : rebased
    [(.text "A", .map [(.text "$ref", .text "#/B"), (.text "oneOf", .list
      [.map [(.text "$ref", .text "#/B")]])])] =
    [(.text "A", .map [(.text "$ref", .text "#/B"), (.text "oneOf", .list
      [.map [(.text "$ref", .text "#/schemas/B")]])])] := rfl

def asDocument (schemas : Entries) : Entries :=
  [(.text "components", .map [(.text "schemas", .map (rebased schemas))])]

theorem redirects_rawRoot : Schema.Redirects (Reference.rebased rawRoot) rawRoot "" :=
  Reference.refer_rebased ⟨'s', "chemas/".toList, by decide, by decide⟩

theorem composeDeclarations_rebased (schemas : Entries) :
    composeDeclarations "" (.map (rebased schemas)) = composeDeclarations rawRoot (.map schemas) := by
  have hread := (Schema.follows (f := Reference.rebased rawRoot) (.map schemas)).properties
  have hmap : Value.rewrite (Reference.rebased rawRoot) (some .properties) (.map schemas) =
      .map (rebased schemas) := rfl
  rw [hmap] at hread
  have hkeys : (Value.map (rebased schemas)).elements = (Value.map schemas).elements := by
    change Except.ok ((rebased schemas).map _) = Except.ok (schemas.map _)
    rw [rebased, Value.rewriteEntries_eq, List.map_map]
    rfl
  have hdeclared : Schema.declarations (.map (rebased schemas)) =
      (Schema.declarations (.map schemas)).map (·.map (Schema.mapProperty (Reference.rebased rawRoot))) := by
    unfold Schema.declarations
    rw [hkeys, hread]
    change (List.mapM Value.asKey _ >>= fun _ => _) = (List.mapM Value.asKey _ >>= fun _ => _).map _
    cases List.mapM Value.asKey (schemas.map fun e => .scalar e.1) with
    | error x => rfl
    | ok names =>
      change Except.ok (List.map _ (List.map _ _)) = Except.ok (List.map _ (List.map _ _))
      rw [List.map_map, List.map_map]
      rfl
  unfold composeDeclarations
  rw [hdeclared]
  cases Schema.declarations (.map schemas) with
  | error x => rfl
  | ok ps =>
    change Schema.composeFields "" (ps.map _) = Schema.composeFields rawRoot ps
    rw [← Schema.mapReferencesFields_eq]
    exact Schema.composeFields_mapReferences redirects_rawRoot ps

/-- How the declarations of a map of schemas in raw mode agree with those of the schemas in a
document. -/
structure ModesAgree (schemas : Entries) (raw full : Output) : Prop where
  text : ∃ fields, raw.text = interface "schemas" fields ∧
    full.text = Imports.block (importKeys ⟨false, none⟩ (asDocument schemas)) ++
      (interface "operations" "\n" ++ "\n") ++
      interface "components" (if schemas.isEmpty then "" else record "schemas" fields)
  warnings : raw.warnings = full.warnings

theorem exec_bind_pure {α β : Type} (m : Compose α) (f : α → β) (l : Ledger) :
    (m >>= fun a => pure (f a)).exec l = ((m.exec l).1.map f, (m.exec l).2) := by
  rw [exec_bind]
  rcases m.exec l with ⟨r, l'⟩
  cases r <;> rfl

/-- The text that is generated for the document of a map of schemas, from the declarations of the
schemas. -/
def documentText (schemas : Entries) (externals : List String) (fields : String) : String :=
  Imports.block externals ++ (interface "operations" "\n" ++ "\n") ++
    interface "components" (if schemas.isEmpty then "" else record "schemas" fields)

section Runs

variable (schemas : Entries)

def declared : Except Fault String × Ledger :=
  (composeDeclarations rawRoot (.map schemas)).exec .empty

theorem raw_exec : (compose ⟨true, none⟩ schemas).exec .empty =
    ((declared schemas).1.map (interface "schemas"), (declared schemas).2) :=
  exec_bind_pure _ _ _

theorem schemaSection_exec (ctx : Context) (hroot : ctx.root = "") :
    (schemaSection ctx "schemas" (.map (rebased schemas))).exec .empty =
      ((declared schemas).1.map fun fields => if schemas.isEmpty then "" else record "schemas" fields,
        (declared schemas).2) := by
  have hempty : (rebased schemas).isEmpty = schemas.isEmpty := by
    rw [rebased, Value.rewriteEntries_eq, List.isEmpty_map]
  unfold schemaSection
  rw [hroot, composeDeclarations_rebased, Value.truthy, hempty]
  cases schemas with
  | nil => rfl
  | cons e rest => exact exec_bind_pure _ _ _

theorem components_exec (ctx : Context) (hroot : ctx.root = "") :
    (components ctx [(.text "schemas", .map (rebased schemas))] (.map (rebased schemas))).exec .empty =
      ((declared schemas).1.map fun fields => if schemas.isEmpty then "" else record "schemas" fields,
        (declared schemas).2) := by
  have habsent : ∀ l : Ledger, (schemaSection ctx "parameters" .null).exec l = (.ok "", l) ∧
      (contentSection ctx "responses" .null).exec l = (.ok "", l) ∧
      (contentSection ctx "requestBodies" .null).exec l = (.ok "", l) :=
    fun _ => ⟨rfl, rfl, rfl⟩
  have hfield : ∀ name ∈ ["parameters", "responses", "requestBodies"],
      Value.field name [(.text "schemas", .map (rebased schemas))] = .null := by
    simp only [List.mem_cons, List.not_mem_nil, or_false]
    rintro name (rfl | rfl | rfl) <;> rfl
  unfold components
  rw [hfield "parameters" (by simp), hfield "responses" (by simp), hfield "requestBodies" (by simp),
    exec_bind, (habsent _).1]
  dsimp only
  rw [exec_bind, schemaSection_exec schemas ctx hroot]
  cases (declared schemas).1 with
  | error x => rfl
  | ok fields =>
    dsimp only [Except.map]
    rw [exec_bind, (habsent _).2.1]
    dsimp only
    rw [exec_bind, (habsent _).2.2]
    change (Except.ok _, _) = (Except.ok _, _)
    simp only [String.empty_append, String.append_empty]

theorem sectionOf_schemas : sectionOf "schemas" [(.text "schemas", .map (rebased schemas))] =
    .map (rebased schemas) := by
  cases h : rebased schemas <;> rfl

theorem document_exec : (compose ⟨false, none⟩ (asDocument schemas)).exec .empty =
    ((declared schemas).1.map (documentText schemas (declared schemas).2.externals),
      (declared schemas).2) := by
  have hparts : (sectionOf "components" (asDocument schemas)).entriesFor "get" =
      .ok [(.text "schemas", .map (rebased schemas))] := rfl
  have hpaths : ∀ ctx : Context, (pathsBlock ctx (Value.field "paths" (asDocument schemas))).exec .empty =
      (.ok "", .empty) := fun _ => rfl
  have hoperations : ∀ ctx : Context, (operationsBlock ctx).exec .empty =
      (.ok (interface "operations" ("" ++ "\n") ++ "\n"), .empty) := fun _ => rfl
  change (document ⟨false, none⟩ (asDocument schemas)).exec .empty = _
  unfold document
  rw [hparts]
  simp only [exec_bind, exec_lift, sectionOf_schemas, Mapper.apply, hpaths, hoperations]
  rw [components_exec schemas _ rfl]
  cases (declared schemas).1 with
  | error x => rfl
  | ok fields =>
    dsimp only [Except.map]
    change (Except.ok (Imports.block _ ++ "" ++ _ ++ _), _) = (Except.ok _, _)
    simp only [documentText, String.empty_append, String.append_empty]

theorem resolved_asDocument : resolved ⟨false, none⟩ (asDocument schemas) =
    Section.schemas.references (.map (rebased schemas)) := by
  have hschemas : schemasOf ⟨false, none⟩ (asDocument schemas) = .map (rebased schemas) := by
    have hparts : partsOf (asDocument schemas) = [(.text "schemas", .map (rebased schemas))] := rfl
    rw [schemasOf, hparts, sectionOf_schemas]
    rfl
  unfold resolved documentReferences Section.referencesIn Section.valueIn
  rw [hschemas]
  exact List.append_nil _

theorem externals_declared {fields : String} {l : Ledger} (h : declared schemas = (.ok fields, l)) :
    l.externals = importKeys ⟨false, none⟩ (asDocument schemas) := by
  have hsection := schemaSection_exec schemas ⟨.map (asDocument schemas), ""⟩ rfl
  rw [h] at hsection
  obtain ⟨_, _, _, _, hres⟩ := section_ok rfl .schemas hsection
  have hkeys := hres.keys [] rfl
  rw [importKeys, resolved_asDocument]
  exact hkeys

end Runs

end Generator

end ApiTypes
