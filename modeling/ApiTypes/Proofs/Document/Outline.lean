import ApiTypes.Proofs.Document.Sections

/-!
# The outline of a generated text

The text generated for a document is made of an import block, a text for each path
item, a declaration for each named operation and the declarations of four sections.
The import block is that of the references resolved on the way.
-/

set_option autoImplicit false

namespace ApiTypes

open Compose

namespace Generator

def contextOf (entries : Entries) : Context := ⟨.map entries, ""⟩

def pathsOf (entries : Entries) : Value := Value.field "paths" entries

def partsOf (entries : Entries) : Entries := (sectionOf "components" entries).entriesIn

/-- The schemas that are declared: those of the document, or what the mapper makes of them. -/
def schemasOf (options : Options) (entries : Entries) : Value :=
  match Mapper.apply (sectionOf "schemas" (partsOf entries)) options.mapper with
  | .ok v => v
  | .error _ => .null

/-- The first operation under each id, in the order in which the ids are met. -/
def operationsOf (entries : Entries) : List (Scalar × Value) :=
  Entries.firsts (Paths.named (pathsOf entries))

namespace Section

def valueIn (options : Options) (entries : Entries) : Section → Value
  | .schemas => schemasOf options entries
  | s => Value.field s.name (partsOf entries)

def heldIn (options : Options) (entries : Entries) (s : Section) : Entries :=
  s.held (s.valueIn options entries)

def referencesIn (options : Options) (entries : Entries) (s : Section) : List String :=
  s.references (s.valueIn options entries)

end Section

/-- The references in the paths, the named operations and the sections of a document, given those of
a parameter list. -/
def documentReferences (ps : Value → List String) (options : Options) (entries : Entries) :
    List String :=
  Paths.references ps (pathsOf entries) ++
    ((operationsOf entries).flatMap (fun o => Operation.references ps o.2) ++
      (Section.parameters.referencesIn options entries ++ (Section.schemas.referencesIn options entries ++
        (Section.responses.referencesIn options entries ++
          Section.requestBodies.referencesIn options entries))))

def resolved (options : Options) (entries : Entries) : List String :=
  documentReferences (Parameters.references (contextOf entries)) options entries

/-- The references that are written: all but those of parameters that are skipped or replaced. -/
def written (options : Options) (entries : Entries) : List String :=
  documentReferences (Parameters.shown (contextOf entries)) options entries

theorem written_subset (options : Options) (entries : Entries) :
    written options entries ⊆ resolved options entries := by
  intro r hr
  unfold written documentReferences at hr
  unfold resolved documentReferences
  rw [List.mem_append, List.mem_append] at hr ⊢
  rcases hr with hr | hr | hr
  · exact .inl (Paths.references_mono Parameters.shown_subset _ hr)
  · obtain ⟨o, ho, hr⟩ := List.mem_flatMap.mp hr
    exact .inr (.inl (List.mem_flatMap.mpr
      ⟨o, ho, Operation.references_mono Parameters.shown_subset _ hr⟩))
  · exact .inr (.inr hr)

/-- The keys of the documents to import, in the order in which they are first referred to. -/
def importKeys (options : Options) (entries : Entries) : List String :=
  (keysOf (resolved options entries)).eraseDups

/-- The texts that the output is made of. -/
structure Outline where
  paths : List String
  operations : List String
  sections : Section → List String

namespace Outline

def pathsText (o : Outline) (entries : Entries) : String :=
  if (pathsOf entries).truthy then interface "paths" (String.join o.paths) ++ "\n" else ""

def operationsText (o : Outline) : String :=
  interface "operations" (String.join o.operations ++ "\n") ++ "\n"

def sectionBlock (o : Outline) (options : Options) (entries : Entries) (s : Section) : String :=
  sectionText s.name (s.valueIn options entries) (o.sections s)

def componentsText (o : Outline) (options : Options) (entries : Entries) : String :=
  interface "components" (o.sectionBlock options entries .parameters ++
    o.sectionBlock options entries .schemas ++ o.sectionBlock options entries .responses ++
    o.sectionBlock options entries .requestBodies)

def body (o : Outline) (options : Options) (entries : Entries) : String :=
  o.pathsText entries ++ o.operationsText ++ o.componentsText options entries

end Outline

/-- What the texts of an outline are. -/
structure Outlines (options : Options) (entries : Entries) (o : Outline) : Prop where
  mapped : ∃ v, Mapper.apply (sectionOf "schemas" (partsOf entries)) options.mapper = .ok v
  paths : List.Forall₂ (Paths.Item (contextOf entries)) (Paths.pathItems (pathsOf entries)) o.paths
  operations : List.Forall₂ (DeclaresOperation (contextOf entries)) (operationsOf entries) o.operations
  sections : ∀ s : Section,
    List.Forall₂ (Declares (s.body (contextOf entries))) (s.heldIn options entries) (o.sections s)
  mappings : ∀ s : Section, (s.valueIn options entries).truthy = true →
    ∀ items, (s.valueIn options entries).opened ≠ .list items
  shown : ∀ r ∈ written options entries, Within (Reference.expression "" r) (o.body options entries)

variable {options : Options} {entries : Entries} {l l' : Ledger}

theorem components_ok {text : String}
    (h : (components (contextOf entries) (partsOf entries) (schemasOf options entries)).exec l =
      (.ok text, l')) : ∃ texts : Section → List String,
    text = sectionText "parameters" (Section.parameters.valueIn options entries) (texts .parameters) ++
        sectionText "schemas" (Section.schemas.valueIn options entries) (texts .schemas) ++
        sectionText "responses" (Section.responses.valueIn options entries) (texts .responses) ++
        sectionText "requestBodies" (Section.requestBodies.valueIn options entries)
          (texts .requestBodies) ∧
      (∀ s : Section,
        List.Forall₂ (Declares (s.body (contextOf entries))) (s.heldIn options entries) (texts s)) ∧
      (∀ s : Section, (s.valueIn options entries).truthy = true →
        ∀ items, (s.valueIn options entries).opened ≠ .list items) ∧
      ∀ refs, refs = Section.parameters.referencesIn options entries ++
          (Section.schemas.referencesIn options entries ++
            (Section.responses.referencesIn options entries ++
              Section.requestBodies.referencesIn options entries)) →
        Resolves refs refs l l' [text] := by
  unfold components at h
  obtain ⟨parameters, l₁, hp, hgo⟩ := exec_bind_ok.mp h
  obtain ⟨schemas, l₂, hs, hgo⟩ := exec_bind_ok.mp hgo
  obtain ⟨responses, l₃, hr, hgo⟩ := exec_bind_ok.mp hgo
  obtain ⟨requestBodies, l₄, hb, hend⟩ := exec_bind_ok.mp hgo
  cases hend
  obtain ⟨ps, rfl, hpall, hplist, hpres⟩ := section_ok rfl .parameters hp
  obtain ⟨ss, rfl, hsall, hslist, hsres⟩ := section_ok rfl .schemas hs
  obtain ⟨rs, rfl, hrall, hrlist, hrres⟩ := section_ok rfl .responses hr
  obtain ⟨bs, rfl, hball, hblist, hbres⟩ := section_ok rfl .requestBodies hb
  refine ⟨Section.choose ps ss rs bs, rfl, ?_, ?_, ?_⟩
  · intro s
    cases s with
    | parameters => exact hpall
    | schemas => exact hsall
    | responses => exact hrall
    | requestBodies => exact hball
  · intro s
    cases s with
    | parameters => exact hplist
    | schemas => exact hslist
    | responses => exact hrlist
    | requestBodies => exact hblist
  · rintro refs rfl
    apply (hpres.append (hsres.append (hrres.append hbres))).into
    intro t hm
    simp only [List.mem_append, List.mem_singleton] at hm
    rcases hm with rfl | rfl | rfl | rfl
    · exact (within_left _ _).trans ((within_left _ _).trans (within_left _ _))
    · exact (within_right _ _).trans ((within_left _ _).trans (within_left _ _))
    · exact (within_right _ _).trans (within_left _ _)
    · exact within_right _ _

/-- The runs that a document is composed of, each on the ledger that the one in front of it left. -/
structure Runs (options : Options) (entries : Entries) (paths declared components : String)
    (l₁ l₂ l₃ : Ledger) : Prop where
  parts : (sectionOf "components" entries).entriesFor "get" = .ok (partsOf entries)
  mapped : ∃ v, Mapper.apply (sectionOf "schemas" (partsOf entries)) options.mapper = .ok v
  paths : (pathsBlock (contextOf entries) (pathsOf entries)).exec .empty = (.ok paths, l₁)
  operations : (declaredOperations (contextOf entries) (operationsOf entries)).exec l₁ =
    (.ok declared, l₂)
  components : (Generator.components (contextOf entries) (partsOf entries) (schemasOf options entries)).exec
    l₂ = (.ok components, l₃)

theorem document_runs {text : String} (h : (document options entries).exec .empty = (.ok text, l')) :
    ∃ paths declared components l₁ l₂, Runs options entries paths declared components l₁ l₂ l' ∧
      text = Imports.block l'.externals ++ paths ++
        (interface "operations" (declared ++ "\n") ++ "\n") ++ interface "components" components := by
  unfold document at h
  dsimp only at h
  obtain ⟨parts, l₁, hp, hgo⟩ := exec_bind_ok.mp h
  obtain ⟨schemas, l₂, hm, hgo⟩ := exec_bind_ok.mp hgo
  obtain ⟨paths, l₃, hpaths, hgo⟩ := exec_bind_ok.mp hgo
  obtain ⟨operations, l₄, hops, hgo⟩ := exec_bind_ok.mp hgo
  obtain ⟨comps, l₅, hcomps, hgo⟩ := exec_bind_ok.mp hgo
  obtain ⟨imports, l₆, himports, hend⟩ := exec_bind_ok.mp hgo
  obtain ⟨hparts, rfl⟩ := exec_lift_ok.mp hp
  obtain ⟨hmapped, rfl⟩ := exec_lift_ok.mp hm
  cases hend
  have hpartsOf : partsOf entries = parts := Value.entriesIn_of_ok hparts
  rw [← hpartsOf] at hparts hmapped hcomps
  have hschemas : schemasOf options entries = schemas := by
    rw [schemasOf, hmapped]
  rw [← hschemas] at hcomps
  have hpaths : (pathsBlock (contextOf entries) (pathsOf entries)).exec .empty = (.ok paths, l₃) :=
    hpaths
  obtain ⟨_, _, _, hreg, _⟩ := Paths.block_ok rfl hpaths
  have hempty : Ledger.empty.operations = Entries.firsts [] := rfl
  have hnamed : l₃.operations = operationsOf entries := hreg [] hempty
  unfold operationsBlock at hops
  obtain ⟨ledger, l₇, hget, hgo⟩ := exec_bind_ok.mp hops
  cases hget
  obtain ⟨declared, l₈, hdeclared, hend⟩ := exec_bind_ok.mp hgo
  cases hend
  have hdeclared : (declaredOperations (contextOf entries) (operationsOf entries)).exec l₃ =
      (.ok declared, l₄) := hnamed ▸ hdeclared
  unfold importsBlock at himports
  obtain ⟨ledger, l₉, hget, hend⟩ := exec_bind_ok.mp himports
  cases hget
  cases hend
  exact ⟨paths, declared, comps, l₃, l₄, ⟨hparts, ⟨schemas, hmapped⟩, hpaths, hdeclared, hcomps⟩, rfl⟩

theorem Runs.externals {paths declared components : String} {l₁ l₂ l₃ : Ledger}
    (h : Runs options entries paths declared components l₁ l₂ l₃) :
    l₃.externals = importKeys options entries := by
  obtain ⟨_, _, _, _, hpaths⟩ := Paths.block_ok rfl h.paths
  obtain ⟨_, _, _, hoperations⟩ := declaredOperations_ok rfl h.operations
  obtain ⟨_, _, _, _, hcomponents⟩ := components_ok h.components
  have hempty : Ledger.empty.externals = ([] : List String).eraseDups := rfl
  exact (hpaths.append (hoperations.append (hcomponents _ rfl))).keys [] hempty

theorem document_ok {text : String} (h : (document options entries).exec .empty = (.ok text, l')) :
    ∃ o : Outline, Outlines options entries o ∧
      text = Imports.block (importKeys options entries) ++ o.body options entries := by
  obtain ⟨paths, declared, comps, l₁, l₂, hruns, htext⟩ := document_runs h
  obtain ⟨pathTexts, hpathsText, hpathsAll, _, hpathsRes⟩ := Paths.block_ok rfl hruns.paths
  obtain ⟨operationTexts, rfl, hopsAll, hopsRes⟩ := declaredOperations_ok rfl hruns.operations
  obtain ⟨sections, rfl, hsections, hlists, hcompsRes⟩ := components_ok hruns.components
  let o : Outline := ⟨pathTexts, operationTexts, sections⟩
  have hops : ∀ t ∈ operationTexts, Within t (o.operationsText) := by
    intro t ht
    unfold Outline.operationsText interface
    have hbetween := (within_left _ "\n").trans
      (within_between "export interface operations \x7b\n" (String.join operationTexts ++ "\n") "\x7d\n")
    exact (within_concat ht).trans (hbetween.trans (within_left _ _))
  -- The parts run on one ledger, which was empty, in the order in which their references are listed.
  have hbody : Resolves (resolved options entries) (written options entries) .empty l'
      [o.body options entries] := by
    apply (hpathsRes.append (hopsRes.append (hcompsRes _ rfl))).into
    intro t ht
    simp only [List.mem_append, List.mem_singleton] at ht
    rcases ht with ht | ht | ht
    · rw [ht, hpathsText]
      exact (within_left _ _).trans (within_left _ _)
    · exact (hops t ht).trans ((within_right _ _).trans (within_left _ _))
    · rw [ht]
      exact (within_between _ _ _).trans (within_right _ _)
  refine ⟨o, ⟨hruns.mapped, hpathsAll, hopsAll, hsections, hlists, ?_⟩, ?_⟩
  · intro r hr
    obtain ⟨t, ht, hw⟩ := hbody.shown r hr
    rwa [List.mem_singleton.mp ht] at hw
  · have hassoc : ∀ a b c d : String, a ++ b ++ c ++ d = a ++ (b ++ c ++ d) := by
      intro a b c d
      simp only [String.append_assoc]
    rw [htext, hruns.externals, hpathsText]
    exact hassoc _ _ _ _

theorem generate_ok {options : Options} {document : Value} {out : Output} (hraw : options.raw = false)
    (h : generate options document = .ok out) : ∃ entries o, document = .map entries ∧
      Outlines options entries o ∧
      out.text = Imports.block (importKeys options entries) ++ o.body options entries := by
  unfold generate at h
  split at h
  · split at h
    · rename_i entries _
      split at h
      · rename_i text ledger hc
        cases h
        unfold compose at hc
        rw [hraw, if_neg Bool.false_ne_true] at hc
        obtain ⟨o, ho, htext⟩ := document_ok hc
        exact ⟨entries, o, rfl, ho, htext⟩
      · cases h
    · cases h
  · cases h

def generated? (options : Options) (document : Value) : Option String :=
  match generate options document with
  | .ok out => some out.text
  | .error _ => none

theorem generate_of_generated {options : Options} {document : Value} {text : String}
    (h : generated? options document = some text) :
    ∃ out, generate options document = .ok out ∧ out.text = text := by
  unfold generated? at h
  split at h
  · rename_i out hg
    exact ⟨out, hg, Option.some.inj h⟩
  · cases h

theorem generate_of_isSome {options : Options} {document : Value}
    (h : (generated? options document).isSome = true) : ∃ out, generate options document = .ok out := by
  obtain ⟨text, htext⟩ := Option.isSome_iff_exists.mp h
  obtain ⟨out, hout, _⟩ := generate_of_generated htext
  exact ⟨out, hout⟩

end Generator

end ApiTypes
