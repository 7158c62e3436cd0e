import ApiTypes.Proofs.Document.Outline

/-!
# Named operations are declared once

Where ids are texts, every id that is met in the paths is declared once, in the order
in which the ids are first met, as the first operation that bears it. The paths name
declared ids only, and every declared id is named by a path.
-/

set_option autoImplicit false

namespace ApiTypes

open Compose

namespace Paths

/-- The id of an operation: a text that is not empty. -/
def name? (operation : Entries) : Option String :=
  match Value.field "operationId" operation with
  | .scalar (.text s) => if s = "" then none else some s
  | _ => none

def met (paths : Value) : List (String × Entries) :=
  (pathItems paths).flatMap fun p =>
    (methodEntries p.2).filterMap fun m => (name? m.2).map fun id => (id, m.2)

def ids (paths : Value) : List String := ((met paths).map Prod.fst).eraseDups

/-- Any id that holds is a text. -/
def TextIds (paths : Value) : Prop :=
  ∀ p ∈ pathItems paths, ∀ m ∈ methodEntries p.2, isNamed m.2 = true →
    ∃ s, Value.field "operationId" m.2 = .scalar (.text s)

theorem id_of_text {operation : Entries}
    (h : isNamed operation = true → ∃ s, Value.field "operationId" operation = .scalar (.text s)) :
    id? operation = (name? operation).map .text ∧ isNamed operation = (name? operation).isSome := by
  unfold isNamed at *
  unfold id? name?
  cases ht : (Value.field "operationId" operation).truthy with
  | true =>
    obtain ⟨s, hs⟩ := h ht
    rw [hs] at ht ⊢
    have hne : s ≠ "" := by simpa [Value.truthy, Scalar.truthy] using ht
    have hpos : (Scalar.text s).truthy = true := ht
    simp only [if_neg hne, if_pos hpos]
    exact ⟨rfl, rfl⟩
  | false =>
    clear h
    cases hv : Value.field "operationId" operation with
    | scalar id =>
      rw [hv] at ht
      have hneg : ¬id.truthy = true := by
        intro h
        exact Bool.false_ne_true (ht.symm.trans h)
      simp only [if_neg hneg]
      cases id with
      | text s =>
        have hs : s = "" := by simpa [Scalar.truthy] using hneg
        simp only [if_pos hs]
        exact ⟨rfl, rfl⟩
      | _ => exact ⟨rfl, rfl⟩
    | list => exact ⟨rfl, rfl⟩
    | map => exact ⟨rfl, rfl⟩
    | again => exact ⟨rfl, rfl⟩

theorem named_eq {paths : Value} (h : TextIds paths) :
    named paths = (met paths).map fun e => (Scalar.text e.1, Value.map e.2) := by
  unfold named met
  rw [List.map_flatMap]
  apply List.flatMap_congr
  intro p hp
  unfold namedIn
  rw [List.map_filterMap]
  apply List.filterMap_congr
  intro m hm
  rw [(id_of_text (h p hp m hm)).1, Option.map_map, Option.map_map]
  rfl

/-- The text of an operation in its path: the name of a declared one, or the operation itself. -/
inductive HoistedEntry (ctx : Context) (declared : List String) : String × Entries → String → Prop
  | named {method : String} {operation : Entries} {id : String} (hid : name? operation = some id)
      (hd : id ∈ declared) :
      HoistedEntry ctx declared (method, operation) (methodHead method ++ operationName id ++ ";\n")
  | inlined {method : String} {operation : Entries} {comment type : String}
      (hid : name? operation = none) (hc : Operation.comment operation = .ok comment)
      (ht : Operation.alone ctx (.map operation) = .ok type) :
      HoistedEntry ctx declared (method, operation) (comment ++ methodHead method ++ type)

/-- The text of a path item: its operations, and the parameters that they share. -/
def HoistedItem (ctx : Context) (declared : List String) (p : Scalar × Entries) (text : String) : Prop :=
  ∃ path texts shared, p.1.plain = .ok path ∧
    List.Forall₂ (HoistedEntry ctx declared) (methodEntries p.2) texts ∧
      Parameters.alone ctx (Value.field "parameters" p.2) = .ok shared ∧
        text = block path (String.join texts ++ shared)

theorem mem_ids {paths : Value} {id : String} : id ∈ ids paths ↔
    ∃ p ∈ pathItems paths, ∃ m ∈ methodEntries p.2, name? m.2 = some id := by
  rw [ids, List.mem_eraseDups, List.mem_map]
  unfold met
  constructor
  · rintro ⟨e, he, rfl⟩
    obtain ⟨p, hp, he⟩ := List.mem_flatMap.mp he
    obtain ⟨m, hm, hmap⟩ := List.mem_filterMap.mp he
    obtain ⟨s, hs, rfl⟩ := Option.map_eq_some_iff.mp hmap
    exact ⟨p, hp, m, hm, hs⟩
  · rintro ⟨p, hp, m, hm, hid⟩
    refine ⟨(id, m.2), List.mem_flatMap.mpr ⟨p, hp, List.mem_filterMap.mpr ⟨m, hm, ?_⟩⟩, rfl⟩
    rw [hid]
    rfl

theorem hoistedEntry_of_entry {ctx : Context} {paths : Value} (h : TextIds paths)
    {p : Scalar × Entries} (hp : p ∈ pathItems paths) {m : String × Entries}
    (hm : m ∈ methodEntries p.2) {text : String} (he : Entry ctx m text) :
    HoistedEntry ctx (ids paths) m text := by
  obtain ⟨hid, hnamed⟩ := id_of_text (h p hp m hm)
  cases he with
  | named hfound hname =>
    rw [hid] at hfound
    obtain ⟨s, hs, rfl⟩ := Option.map_eq_some_iff.mp hfound
    cases hname
    exact .named hs (mem_ids.mpr ⟨p, hp, _, hm, hs⟩)
  | inlined hnot hc ht =>
    rw [hnamed] at hnot
    exact .inlined (Option.not_isSome_iff_eq_none.mp (by simp [hnot])) hc ht

theorem hoistedItem_of_item {ctx : Context} {paths : Value} (h : TextIds paths)
    {p : Scalar × Entries} (hp : p ∈ pathItems paths) {text : String} (hi : Item ctx p text) :
    HoistedItem ctx (ids paths) p text := by
  obtain ⟨path, texts, shared, hpath, hall, hshared, rfl⟩ := hi.parts
  refine ⟨path, texts, shared, hpath, ?_, hshared, rfl⟩
  have hmem := (List.forall₂_and_left (p := (· ∈ methodEntries p.2)) _ _).mpr ⟨fun _ hm => hm, hall⟩
  exact hmem.imp fun m t he => hoistedEntry_of_entry h hp he.1 he.2

end Paths

theorem forall₂_comp {α β γ : Type} {R : α → β → Prop} {S : β → γ → Prop} {as : List α} {bs : List β}
    {cs : List γ} (h : List.Forall₂ R as bs) (h' : List.Forall₂ S bs cs) :
    List.Forall₂ (fun a c => ∃ b, R a b ∧ S b c) as cs := by
  induction h generalizing cs with
  | nil =>
    cases h'
    exact .nil
  | cons hab _ ih =>
    cases h' with
    | cons hbc hrest => exact .cons ⟨_, hab, hbc⟩ (ih hrest)

namespace Generator

/-- The declaration of an id: that of the first operation met with it. -/
def DeclaresFirst (entries : Entries) (id text : String) : Prop :=
  ∃ operation comment type,
    (Paths.met (pathsOf entries)).find? (fun e => e.1 == id) = some (id, operation) ∧
    Operation.comment operation = .ok comment ∧
      Operation.alone (contextOf entries) (.map operation) = .ok type ∧
        text = comment ++ "\"" ++ id ++ "\": " ++ type

/-- How the operations of a document are hoisted. -/
structure Hoists (options : Options) (entries : Entries) (out : Output) (o : Outline) : Prop where
  text : out.text = Imports.block (importKeys options entries) ++
    (o.pathsText entries ++ o.operationsText ++ o.componentsText options entries)
  declared : List.Forall₂ (DeclaresFirst entries) (Paths.ids (pathsOf entries)) o.operations
  nodup : (Paths.ids (pathsOf entries)).Nodup
  paths : List.Forall₂ (Paths.HoistedItem (contextOf entries) (Paths.ids (pathsOf entries)))
    (Paths.pathItems (pathsOf entries)) o.paths
  referenced : ∀ id ∈ Paths.ids (pathsOf entries), ∃ p ∈ Paths.pathItems (pathsOf entries),
    ∃ m ∈ Paths.methodEntries p.2, Paths.name? m.2 = some id
  kept : ∀ (os : List (Scalar × Value)) (l : Ledger),
    ((declaredOperations (contextOf entries) os).exec l).2.operations = l.operations

def operationNode (id description : String) : Entries :=
  [(.text "operationId", .text id), (.text "description", .text description)]

/-- Two paths with one id between them, and an operation without an id. -/
def sharedId : Entries :=
  [(.text "paths", .map
    [(.text "/a", .map [(.text "get", .map (operationNode "list" "first")), (.text "put", .map [])]),
      (.text "/b", .map [(.text "post", .map (operationNode "list" "second"))])])]

theorem textIds_sharedId : Paths.TextIds (pathsOf sharedId) := by
  have hitems : Paths.pathItems (pathsOf sharedId) =
      [(.text "/a", [(.text "get", .map (operationNode "list" "first")), (.text "put", .map [])]),
        (.text "/b", [(.text "post", .map (operationNode "list" "second"))])] := rfl
  intro p hp m hm hn
  rw [hitems] at hp
  simp only [List.mem_cons, List.not_mem_nil, or_false] at hp
  rcases hp with rfl | rfl
  · have hm : m ∈ [("get", operationNode "list" "first"), ("put", [])] := hm
    simp only [List.mem_cons, List.not_mem_nil, or_false] at hm
    rcases hm with rfl | rfl
    · exact ⟨"list", rfl⟩
    · cases hn
  · have hm : m ∈ [("post", operationNode "list" "second")] := hm
    rw [List.mem_singleton.mp hm]
    exact ⟨"list", rfl⟩

end Generator

end ApiTypes
