import ApiTypes.Proofs.Document.Hoisting
import ApiTypes.Proofs.Document.Imports
import ApiTypes.Proofs.Document.Lookups

/-!
# The order of paths

Paths in another order make the same declarations in another order. What a path or an
operation is composed to depends on no other path, since lookups do not see the order
and operations under one id are the same.
-/

set_option autoImplicit false

namespace ApiTypes

open Compose

namespace Value

/-- The same value, with the entries in another order if it is a mapping. -/
inductive Reordered : Value → Value → Prop
  | same (v : Value) : Reordered v v
  | entries {es es' : Entries} (hd : Entries.Distinct es) (hp : es.Perm es') :
    Reordered (.map es) (.map es')
  | around (isMap : Bool) (forms : List String) {es es' : Entries} (hd : Entries.Distinct es)
    (hp : es.Perm es') :
    Reordered (.again isMap forms (some (.map es))) (.again isMap forms (some (.map es')))

namespace Reordered

variable {v v' : Value} (h : Reordered v v')

include h

theorem symm : Reordered v' v := by
  cases h with
  | same => exact .same v
  | entries hd hp => exact .entries (hd.perm hp) hp.symm
  | around isMap forms hd hp => exact .around isMap forms (hd.perm hp) hp.symm

theorem isNull : v'.isNull = v.isNull := by
  cases h <;> rfl

theorem truthy : v'.truthy = v.truthy := by
  cases h with
  | same => rfl
  | entries hd hp => exact congrArg Bool.not hp.symm.isEmpty_eq
  | around => rfl

theorem entriesIn : v.entriesIn.Perm v'.entriesIn := by
  cases h with
  | same => exact .refl _
  | entries hd hp => exact hp
  | around isMap forms hd hp => exact hp

theorem heldEntries : v.heldEntries.Perm v'.heldEntries := by
  unfold Value.heldEntries
  rw [h.truthy]
  split
  · exact h.entriesIn
  · exact .refl _

theorem mapping (hm : ∃ es, v.opened = .map es) : ∃ es, v'.opened = .map es := by
  cases h with
  | same => exact hm
  | entries => exact ⟨_, rfl⟩
  | around => exact ⟨_, rfl⟩

theorem step (name : String) : Reference.step v' name = Reference.step v name := by
  cases h with
  | same => rfl
  | entries hd hp => exact Entries.find?_perm hd hp _
  | around isMap forms hd hp => exact Entries.find?_perm hd hp _

end Reordered

end Value

namespace Generator

/-- Two documents that differ at most in the order of their paths. -/
structure ReordersPaths (entries entries' : Entries) : Prop where
  paths : Entries.get? "paths" entries' = Entries.get? "paths" entries ∨
    ∃ v v', Entries.get? "paths" entries = some v ∧ Entries.get? "paths" entries' = some v' ∧
      v.Reordered v'
  others : ∀ name, name ≠ "paths" → Entries.get? name entries' = Entries.get? name entries

theorem reordersPaths_put {entries : Entries} {v v' : Value}
    (hv : Entries.get? "paths" entries = some v) (hr : v.Reordered v') :
    ReordersPaths entries (Entries.put (.text "paths") v' entries) where
  paths := .inr ⟨v, v', hv, (Entries.find?_put _ _ _ _).trans (if_pos (Scalar.same_refl _)), hr⟩
  others name hname := by
    have hother : ¬(Scalar.text "paths").same (.text name) = true := by
      rw [Scalar.same_text]
      exact fun heq => hname (Scalar.text.inj heq).symm
    exact (Entries.find?_put _ _ _ _).trans (if_neg hother)

/-- Two results of a lookup: the same, or mappings with the same values under all keys that are not
those of the paths. -/
inductive SameTarget : Option Value → Option Value → Prop
  | same (r : Option Value) : SameTarget r r
  | mappings {v v' : Value} {es es' : Entries} (hv : v.opened = .map es) (hv' : v'.opened = .map es')
    (h : ∀ name, name ≠ "paths" → Entries.get? name es' = Entries.get? name es) :
    SameTarget (some v) (some v')

/-- What is asked of a mapping under keys that are not those of the paths has one answer. -/
theorem SameTarget.asked {α : Type} {r r' : Option Value} (h : SameTarget r r') (ask : Entries → α)
    (otherwise : α) (hask : ∀ {es es' : Entries},
      (∀ name, name ≠ "paths" → Entries.get? name es' = Entries.get? name es) → ask es' = ask es) :
    (match r'.map Value.opened with
      | some (.map es) => ask es
      | _ => otherwise) =
    match r.map Value.opened with
      | some (.map es) => ask es
      | _ => otherwise := by
  cases h with
  | same => rfl
  | mappings hv hv' h =>
    rw [Option.map_some, Option.map_some, hv, hv']
    exact hask h

theorem sameTarget_reordered {v v' : Value} (h : v.Reordered v') : SameTarget (some v) (some v') := by
  cases h with
  | same => exact .same _
  | entries hd hp => exact .mappings rfl rfl fun _ _ => Entries.find?_perm hd hp _
  | around isMap forms hd hp => exact .mappings rfl rfl fun _ _ => Entries.find?_perm hd hp _

namespace ReordersPaths

variable {entries entries' : Entries} (h : ReordersPaths entries entries')

include h

theorem symm : ReordersPaths entries' entries where
  paths := by
    rcases h.paths with heq | ⟨v, v', hv, hv', hr⟩
    · exact .inl heq.symm
    · exact .inr ⟨v', v, hv', hv, hr.symm⟩
  others name hname := (h.others name hname).symm

theorem field {name : String} (hname : name ≠ "paths") :
    Value.field name entries' = Value.field name entries := by
  rw [Value.field, Value.field, h.others name hname]

theorem pathsOf : (Generator.pathsOf entries).Reordered (Generator.pathsOf entries') := by
  unfold Generator.pathsOf Value.field
  rcases h.paths with heq | ⟨v, v', hv, hv', hr⟩
  · rw [heq]
    exact .same _
  · rw [hv, hv']
    exact hr

theorem sectionOf : Generator.sectionOf "components" entries' = Generator.sectionOf "components" entries := by
  unfold Generator.sectionOf
  rw [h.field (by decide)]

theorem partsOf : Generator.partsOf entries' = Generator.partsOf entries := by
  rw [Generator.partsOf, Generator.partsOf, h.sectionOf]

/-- A path into the documents leads to the same, or to mappings that differ in their order only. -/
theorem follow (path : List String) :
    SameTarget (Reference.follow (.map entries) path) (Reference.follow (.map entries') path) := by
  have hstep : ∀ (es : Entries) (name : String) (rest : List String),
      Reference.follow (.map es) (name :: rest) =
        (Entries.get? name es).bind fun v => Reference.follow v rest := by
    intro es name rest
    rw [Reference.follow, List.foldlM_cons]
    rfl
  cases path with
  | nil => exact .mappings rfl rfl h.others
  | cons name rest =>
    rw [hstep, hstep]
    by_cases hname : name = "paths"
    · subst hname
      rcases h.paths with heq | ⟨v, v', hv, hv', hr⟩
      · rw [heq]
        exact .same _
      · rw [hv, hv']
        cases rest with
        | nil => exact sameTarget_reordered hr
        | cons key rest =>
          -- Behind the paths, a step takes the value under one key, and the order is gone.
          have hkey : Reference.step v' key = Reference.step v key := hr.step key
          have hboth : Reference.follow v' (key :: rest) = Reference.follow v (key :: rest) := by
            rw [Reference.follow, Reference.follow, List.foldlM_cons, List.foldlM_cons, hkey]
          change SameTarget (Reference.follow v (key :: rest)) (Reference.follow v' (key :: rest))
          rw [hboth]
          exact .same _
    · rw [h.others name hname]
      exact .same _

theorem lookup (ref : String) :
    SameTarget (Reference.lookup (.map entries) ref) (Reference.lookup (.map entries') ref) := by
  unfold Reference.lookup
  split
  · exact h.follow _
  · exact .same none

theorem contextOf : (Generator.contextOf entries).Alike (Generator.contextOf entries') where
  root := rfl
  place ref := by
    refine (h.lookup ref).asked Parameters.placed? none fun hes => ?_
    unfold Parameters.placed? Value.field
    rw [hes "in" (by decide), hes "name" (by decide)]
  required ref := by
    refine (h.lookup ref).asked (fun es => (Value.field "required" es).isTrue) false fun hes => ?_
    rw [Value.field, Value.field, hes "required" (by decide)]

end ReordersPaths

end Generator

namespace Paths

/-- Operations under one id are one operation. -/
def OneOperationPerId (paths : Value) : Prop :=
  ∀ o ∈ met paths, ∀ p ∈ met paths, o.1 = p.1 → o.2 = p.2

variable {paths paths' : Value}

theorem met_perm (h : paths.Reordered paths') : (met paths).Perm (met paths') :=
  (h.heldEntries.filterMap _).flatMap_right _

theorem named_same (hids : TextIds paths) (hone : OneOperationPerId paths) :
    ∀ o ∈ named paths, ∀ p ∈ named paths, o.1.same p.1 = true → o = p := by
  rw [named_eq hids]
  intro o ho p hp hsame
  obtain ⟨m, hm, rfl⟩ := List.mem_map.mp ho
  obtain ⟨n, hn, rfl⟩ := List.mem_map.mp hp
  have hid := Scalar.text.inj (Scalar.same_text.mp hsame)
  rw [hid, hone m hm n hn hid]

end Paths

namespace Generator

/-- The outputs for a document and for the same with its paths in another order, in blocks. -/
structure SameInOrder (options : Options) (entries entries' : Entries) (b b' : Blocks)
    (out out' : Output) : Prop where
  first : Assembled options entries b
  second : Assembled options entries' b'
  text : out.text = b.text (Imports.block (importKeys options entries))
  text' : out'.text = b'.text (Imports.block (importKeys options entries'))
  items : (Paths.pathItems (pathsOf entries)).Perm (Paths.pathItems (pathsOf entries'))
  paths : ∃ block : Scalar × Entries → String,
    (∀ p ∈ Paths.pathItems (pathsOf entries),
      (Paths.entry (contextOf entries) p).result = .ok (block p)) ∧
    b.paths = pathsText (pathsOf entries) ((Paths.pathItems (pathsOf entries)).map block) ∧
    b'.paths = pathsText (pathsOf entries') ((Paths.pathItems (pathsOf entries')).map block)
  operations : (operationsOf entries).Perm (operationsOf entries')
  declared : ∃ declaration : Scalar × Value → String,
    (∀ o ∈ operationsOf entries,
      (declaredOperation (contextOf entries) o.1 o.2).result = .ok (declaration o)) ∧
    b.operations = String.join ((operationsOf entries).map declaration) ∧
    b'.operations = String.join ((operationsOf entries').map declaration)
  sections : b'.sections = b.sections
  imports : ∀ key, key ∈ importKeys options entries' ↔ key ∈ importKeys options entries
  warnings : out'.warnings.Perm out.warnings

def Blocks.reordered (entries entries' : Entries) (b : Blocks) : Blocks where
  paths := pathsText (pathsOf entries') ((Paths.pathItems (pathsOf entries')).map fun p =>
    (Paths.entry (contextOf entries) p).text)
  operations := String.join ((operationsOf entries').map fun o =>
    (declaredOperation (contextOf entries) o.1 o.2).text)
  sections := b.sections

namespace ReordersPaths

variable {options : Options} {entries entries' : Entries} (h : ReordersPaths entries entries')

include h

theorem items : (Paths.pathItems (Generator.pathsOf entries)).Perm
    (Paths.pathItems (Generator.pathsOf entries')) :=
  h.pathsOf.heldEntries.filterMap _

theorem named : (Paths.named (Generator.pathsOf entries)).Perm
    (Paths.named (Generator.pathsOf entries')) :=
  h.items.flatMap_right _

theorem textIds (hids : Paths.TextIds (Generator.pathsOf entries)) :
    Paths.TextIds (Generator.pathsOf entries') :=
  fun p hp => hids p (h.items.mem_iff.mpr hp)

theorem oneOperationPerId (hone : Paths.OneOperationPerId (Generator.pathsOf entries)) :
    Paths.OneOperationPerId (Generator.pathsOf entries') := by
  have hmet := Paths.met_perm h.pathsOf
  exact fun o ho p hp => hone o (hmet.mem_iff.mpr ho) p (hmet.mem_iff.mpr hp)

theorem operations (hids : Paths.TextIds (Generator.pathsOf entries))
    (hone : Paths.OneOperationPerId (Generator.pathsOf entries)) :
    (operationsOf entries).Perm (operationsOf entries') :=
  Entries.firsts_perm (Paths.named_same hids hone) h.named

theorem hasShape : Generator.hasShape options (.map entries') = Generator.hasShape options (.map entries) := by
  unfold Generator.hasShape
  dsimp only
  rw [h.field (by decide : "components" ≠ "paths")]
  exact congrArg (fun isNull => options.raw || !isNull || _) h.pathsOf.isNull

theorem schemasOf : Generator.schemasOf options entries' = Generator.schemasOf options entries := by
  rw [Generator.schemasOf, Generator.schemasOf, h.partsOf]

theorem valueIn (s : Section) : s.valueIn options entries' = s.valueIn options entries := by
  cases s with
  | schemas => exact h.schemasOf
  | parameters => exact congrArg (Value.field "parameters") h.partsOf
  | responses => exact congrArg (Value.field "responses") h.partsOf
  | requestBodies => exact congrArg (Value.field "requestBodies") h.partsOf

theorem sectionIn (s : Section) :
    Generator.sectionIn options entries' s = Generator.sectionIn options entries s := by
  rw [Generator.sectionIn, Generator.sectionIn, h.valueIn, section_lookups h.contextOf]

theorem entry (p : Scalar × Entries) :
    Paths.entry (Generator.contextOf entries') p = Paths.entry (Generator.contextOf entries) p :=
  Paths.entry_lookups h.contextOf p

theorem declaredOperation (o : Scalar × Value) :
    Generator.declaredOperation (Generator.contextOf entries') o.1 o.2 =
      Generator.declaredOperation (Generator.contextOf entries) o.1 o.2 :=
  declaredOperation_lookups h.contextOf o.1 o.2

theorem importKeys (hids : Paths.TextIds (Generator.pathsOf entries))
    (hone : Paths.OneOperationPerId (Generator.pathsOf entries)) (key : String) :
    key ∈ Generator.importKeys options entries' ↔ key ∈ Generator.importKeys options entries := by
  have hresolved : (resolved options entries).Perm (resolved options entries') := by
    unfold resolved documentReferences Section.referencesIn
    simp only [Parameters.references_lookups h.contextOf, h.valueIn]
    exact (h.items.flatMap_right _).append (((h.operations hids hone).flatMap_right _).append_right _)
  rw [mem_importKeys, mem_importKeys]
  simp only [hresolved.mem_iff]

/-- What a document is assembled from, a document with the same paths in another order is assembled
from in another order. -/
theorem assembled (hids : Paths.TextIds (Generator.pathsOf entries))
    (hone : Paths.OneOperationPerId (Generator.pathsOf entries)) {b : Blocks}
    (hb : Assembled options entries b) :
    Assembled options entries' (b.reordered entries entries') where
  shape := by
    rw [h.hasShape]
    exact hb.shape
  parts := by
    rw [h.sectionOf, h.partsOf]
    exact hb.parts
  mapped := by
    rw [h.partsOf, h.schemasOf]
    exact hb.mapped
  paths := by
    obtain ⟨hmap, hall, -⟩ := pathsBlock_result.mp hb.paths
    unfold pathsIn Blocks.reordered
    refine pathsBlock_result.mpr ⟨fun ht => ?_, fun p hp => ?_, ?_⟩
    · exact h.pathsOf.mapping (hmap (h.pathsOf.truthy ▸ ht))
    · rw [h.entry]
      exact hall p (h.items.mem_iff.mpr hp)
    · simp only [h.entry]
  operations := by
    obtain ⟨hall, -⟩ := operationsIn_result.mp hb.operations
    unfold Blocks.reordered
    refine operationsIn_result.mpr ⟨fun o ho => ?_, ?_⟩
    · rw [h.declaredOperation]
      exact hall o ((h.operations hids hone).mem_iff.mpr ho)
    · simp only [h.declaredOperation]
  sections s := by
    rw [h.sectionIn]
    exact hb.sections s

theorem warnings (hids : Paths.TextIds (Generator.pathsOf entries))
    (hone : Paths.OneOperationPerId (Generator.pathsOf entries)) {b : Blocks}
    (hb : Assembled options entries b) : (warningsOf options entries').Perm (warningsOf options entries) := by
  have hb' := h.assembled hids hone hb
  have hpaths : (pathsIn entries').records.warnings.Perm (pathsIn entries).records.warnings := by
    rw [pathsIn, pathsIn, pathsBlock_warnings hb.paths, pathsBlock_warnings hb'.paths]
    simp only [h.entry]
    exact h.items.symm.flatMap_right _
  have hoperations : (operationsIn entries').records.warnings.Perm
      (operationsIn entries).records.warnings := by
    rw [operationsIn_warnings hb.operations, operationsIn_warnings hb'.operations]
    simp only [h.declaredOperation]
    exact (h.operations hids hone).symm.flatMap_right _
  unfold warningsOf
  simp only [h.sectionIn]
  exact ((((hpaths.append hoperations).append_right _).append_right _).append_right _).append_right _

theorem same_in_order (hraw : options.raw = false) (hids : Paths.TextIds (Generator.pathsOf entries))
    (hone : Paths.OneOperationPerId (Generator.pathsOf entries)) {out : Output}
    (hout : generate options (.map entries) = .ok out) :
    ∃ b b' out', generate options (.map entries') = .ok out' ∧
      SameInOrder options entries entries' b b' out out' := by
  obtain ⟨b, hb, rfl⟩ := (generate_iff_assembled hraw).mp hout
  have hb' := h.assembled hids hone hb
  obtain ⟨-, hall, hpaths⟩ := pathsBlock_result.mp hb.paths
  obtain ⟨hdeclared, hjoined⟩ := operationsIn_result.mp hb.operations
  refine ⟨b, b.reordered entries entries', ⟨(b.reordered entries entries').text
    (Imports.block (Generator.importKeys options entries')), warningsOf options entries'⟩,
    (generate_iff_assembled hraw).mpr ⟨_, hb', rfl⟩, ?_⟩
  constructor
  case first => exact hb
  case second => exact hb'
  case text => rfl
  case text' => rfl
  case items => exact h.items
  case paths =>
    exact ⟨fun p => (Paths.entry (Generator.contextOf entries) p).text,
      fun p hp => result_text (hall p hp), hpaths, rfl⟩
  case operations => exact h.operations hids hone
  case declared =>
    exact ⟨fun o => (Generator.declaredOperation (Generator.contextOf entries) o.1 o.2).text,
      fun o ho => result_text (hdeclared o ho), hjoined, rfl⟩
  case sections => rfl
  case imports => exact h.importKeys hids hone
  case warnings => exact h.warnings hids hone hb

end ReordersPaths

/-- The order of the paths decides on the order of declarations only. -/
theorem generate_reordered {options : Options} (hraw : options.raw = false) {entries entries' : Entries}
    (h : ReordersPaths entries entries') (hids : Paths.TextIds (pathsOf entries))
    (hone : Paths.OneOperationPerId (pathsOf entries)) :
    (∃ b b' out out', generate options (.map entries) = .ok out ∧
      generate options (.map entries') = .ok out' ∧ SameInOrder options entries entries' b b' out out') ∨
    ∃ refusal refusal', generate options (.map entries) = .error refusal ∧
      generate options (.map entries') = .error refusal' := by
  cases hout : generate options (.map entries) with
  | ok out =>
    obtain ⟨b, b', out', hout', hsame⟩ := h.same_in_order hraw hids hone hout
    exact .inl ⟨b, b', out, out', rfl, hout', hsame⟩
  | error refusal =>
    cases hout' : generate options (.map entries') with
    | error refusal' => exact .inr ⟨refusal, refusal', rfl, rfl⟩
    | ok out' =>
      -- Turned round, declarations of the second document are declarations of the first.
      obtain ⟨_, _, out, hback, _⟩ := h.symm.same_in_order hraw (h.textIds hids)
        (h.oneOperationPerId hone) hout'
      rw [hout] at hback
      cases hback

/-- A path with an operation that another one shares, and with a parameter found in that one. -/
def petsPath : Scalar × Value :=
  (.text "/pets", .map
    [(.text "get", .map (operationNode "list" "shared")),
      (.text "put", .map [(.text "parameters", .list
        [.map [(.text "$ref", .text "#/paths/~1stores/parameters/0")]])])])

def storesPath : Scalar × Value :=
  (.text "/stores", .map
    [(.text "parameters", .list [.map [(.text "in", .text "query"), (.text "name", .text "page"),
        (.text "schema", .map [(.text "$ref", .text "page.json")])]]),
      (.text "get", .map (operationNode "list" "shared"))])

def petsFirst : Entries := [(.text "paths", .map [petsPath, storesPath])]

theorem textIds_petsFirst : Paths.TextIds (pathsOf petsFirst) := by
  have hoperations : ∀ p ∈ Paths.pathItems (pathsOf petsFirst), ∀ m ∈ Paths.methodEntries p.2,
      m = ("get", operationNode "list" "shared") ∨ Paths.isNamed m.2 = false := by
    have hitems : Paths.pathItems (pathsOf petsFirst) =
        [(petsPath.1, petsPath.2.entriesIn), (storesPath.1, storesPath.2.entriesIn)] := rfl
    rw [hitems]
    simp only [List.mem_cons, List.not_mem_nil, or_false]
    rintro p (rfl | rfl) m hm
    · rcases List.mem_cons.mp hm with rfl | hm
      · exact .inl rfl
      · rw [List.mem_singleton.mp hm]
        exact .inr rfl
    · exact .inl (List.mem_singleton.mp hm)
  intro p hp m hm hn
  rcases hoperations p hp m hm with rfl | hnot
  · exact ⟨"list", rfl⟩
  · rw [hnot] at hn
    cases hn

theorem oneOperationPerId_petsFirst : Paths.OneOperationPerId (pathsOf petsFirst) := by
  have hmet : ∀ o ∈ Paths.met (pathsOf petsFirst), o = ("list", operationNode "list" "shared") := by
    have hpair : Paths.met (pathsOf petsFirst) =
        [("list", operationNode "list" "shared"), ("list", operationNode "list" "shared")] := rfl
    rw [hpair]
    simp
  intro o ho p hp _
  rw [hmet o ho, hmet p hp]

theorem generate_reordered_petsFirst :
    ReordersPaths petsFirst (Entries.put (.text "paths") (.map [storesPath, petsPath]) petsFirst) ∧
    Paths.TextIds (pathsOf petsFirst) ∧ Paths.OneOperationPerId (pathsOf petsFirst) ∧
    ∃ b b' out out', generate ⟨false, none⟩ (.map petsFirst) = .ok out ∧
      generate ⟨false, none⟩
        (.map (Entries.put (.text "paths") (.map [storesPath, petsPath]) petsFirst)) = .ok out' ∧
      SameInOrder ⟨false, none⟩ petsFirst
        (Entries.put (.text "paths") (.map [storesPath, petsPath]) petsFirst) b b' out out' := by
  have hdistinct : Entries.Distinct [petsPath, storesPath] := List.pairwise_pair.mpr (by decide)
  have hreorders : ReordersPaths petsFirst
      (Entries.put (.text "paths") (.map [storesPath, petsPath]) petsFirst) :=
    reordersPaths_put rfl (.entries hdistinct (.swap storesPath petsPath []))
  have hsome : (generated? ⟨false, none⟩ (.map petsFirst)).isSome = true := by decide +kernel
  obtain ⟨out, hout⟩ := generate_of_isSome hsome
  have hraw : Options.raw ⟨false, none⟩ = false := rfl
  refine ⟨hreorders, textIds_petsFirst, oneOperationPerId_petsFirst, ?_⟩
  rcases generate_reordered hraw hreorders textIds_petsFirst oneOperationPerId_petsFirst with
    hsame | ⟨refusal, _, hrefused, _⟩
  · exact hsame
  · rw [hout] at hrefused
    cases hrefused

end Generator

end ApiTypes
