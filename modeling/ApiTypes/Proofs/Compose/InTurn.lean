import ApiTypes.Document.Generator
import ApiTypes.Proofs.Outcome

/-!
# Composing one thing after another

Content types, responses, operations, path items and declarations are composed one
after another, and their texts are joined. Entries that are no mappings, or no
operations, are passed over.
-/

set_option autoImplicit false

namespace ApiTypes

namespace Value

/-- The entries of a mapping; any other value has none. -/
def entriesIn (v : Value) : Entries :=
  match v.opened with
  | .map entries => entries
  | _ => []

def heldEntries (v : Value) : Entries := if v.truthy then v.entriesIn else []

def mappingAt? (e : Scalar × Value) : Option (Scalar × Entries) :=
  match e.2.opened with
  | .map entries => some (e.1, entries)
  | _ => none

theorem mappingAt_some {key : Scalar} {v : Value} {entries : Entries} (h : v.opened = .map entries) :
    mappingAt? (key, v) = some (key, entries) := by
  simp only [mappingAt?, h]

theorem entriesIn_of_map {v : Value} {entries : Entries} (h : v.opened = .map entries) :
    v.entriesIn = entries := by
  rw [entriesIn, h]

theorem entriesIn_of_ok {v : Value} {operation : String} {entries : Entries}
    (h : v.entriesFor operation = .ok entries) : v.entriesIn = entries :=
  entriesIn_of_map (entriesFor_ok h)

theorem filterMap_mappingAt (entries : Entries) : entries.filterMap mappingAt? =
    (entries.filter fun e => (mappingAt? e).isSome).map fun e => (e.1, e.2.entriesIn) := by
  induction entries with
  | nil => rfl
  | cons e rest ih =>
    rw [List.filterMap_cons, List.filter_cons, ih]
    cases h : mappingAt? e with
    | none => rfl
    | some p =>
      have hp : p = (e.1, e.2.entriesIn) := by
        unfold mappingAt? at h
        split at h
        · rename_i entries ho
          rw [entriesIn_of_map ho]
          exact (Option.some.inj h).symm
        · cases h
      rw [Option.isSome_some, if_pos rfl, List.map_cons, hp]

end Value

namespace Compose

variable {α : Type} {f : α → Compose String} {as : List α} {ts : List String} {l l' : Ledger}

def inTurn (f : α → Compose String) : List α → Compose String
  | [] => return ""
  | a :: rest => do
    let first ← f a
    let others ← inTurn f rest
    return first ++ others

/-- The runs for the items of a list and their texts. Each starts on the ledger that the one in front
of it left. -/
inductive RunInTurn (f : α → Compose String) : List α → List String → Ledger → Ledger → Prop
  | nil (l : Ledger) : RunInTurn f [] [] l l
  | cons {a : α} {as : List α} {t : String} {ts : List String} {l l₁ l' : Ledger}
      (first : (f a).exec l = (.ok t, l₁)) (others : RunInTurn f as ts l₁ l') :
      RunInTurn f (a :: as) (t :: ts) l l'

theorem inTurn_ok {text : String} (h : (inTurn f as).exec l = (.ok text, l')) :
    ∃ ts, text = String.join ts ∧ RunInTurn f as ts l l' := by
  induction as generalizing l text with
  | nil =>
    cases h
    exact ⟨[], rfl, .nil _⟩
  | cons a rest ih =>
    rw [inTurn] at h
    obtain ⟨first, l₁, hf, hgo⟩ := exec_bind_ok.mp h
    obtain ⟨others, l₂, ho, hend⟩ := exec_bind_ok.mp hgo
    cases hend
    obtain ⟨ts, rfl, hruns⟩ := ih ho
    exact ⟨first :: ts, String.join_cons.symm, .cons hf hruns⟩

theorem RunInTurn.mem (h : RunInTurn f as ts l l') {t : String} (ht : t ∈ ts) :
    ∃ a ∈ as, ∃ l l', (f a).exec l = (.ok t, l') := by
  induction h with
  | nil l => cases ht
  | cons first _ ih =>
    rcases List.mem_cons.mp ht with rfl | ht
    · exact ⟨_, by simp, _, _, first⟩
    · obtain ⟨a, ha, hrun⟩ := ih ht
      exact ⟨a, by simp [ha], hrun⟩

theorem RunInTurn.forall₂ {P : α → String → Prop} (h : RunInTurn f as ts l l')
    (hp : ∀ a t l l', (f a).exec l = (.ok t, l') → P a t) : List.Forall₂ P as ts := by
  induction h with
  | nil l => exact .nil
  | cons first _ ih => exact .cons (hp _ _ _ _ first) ih

end Compose

open Compose

variable (ctx : Context)

namespace Operation

theorem mediaType_eq (name : Scalar) (media : Value) : mediaType ctx name media = (do
    let name ← name.plain
    let type ← composeType ctx.root (Value.field "schema" media.entriesIn)
    return "\"" ++ name ++ "\": " ++ type ++ ";\n") := by
  unfold mediaType Value.entriesIn
  cases media.opened <;> rfl

theorem mediaTypes_eq (entries : Entries) :
    mediaTypes ctx entries = inTurn (fun e => mediaType ctx e.1 e.2) entries := by
  induction entries with
  | nil => rfl
  | cons e rest ih => rw [mediaTypes, inTurn, ih]

theorem responses_eq (entries : Entries) :
    responses ctx entries = inTurn (fun e => response ctx (.scalar e.1) e.2) entries := by
  induction entries with
  | nil => rfl
  | cons e rest ih => rw [responses, inTurn, ih]

end Operation

namespace Paths

def methodAt? (e : Scalar × Value) : Option (String × Entries) :=
  match method? e.1, e.2.opened with
  | some method, .map operation => some (method, operation)
  | _, _ => none

def methodEntries (entries : Entries) : List (String × Entries) := entries.filterMap methodAt?

theorem operations_eq (entries : Entries) :
    operations ctx entries = inTurn (fun m => operation ctx m.1 m.2) (methodEntries entries) := by
  induction entries with
  | nil => rfl
  | cons e rest ih =>
    obtain ⟨key, v⟩ := e
    unfold methodEntries at ih ⊢
    rw [operations, List.filterMap_cons, methodAt?, ih]
    dsimp only
    cases method? key with
    | none => rfl
    | some method => cases v.opened <;> rfl

def entry (p : Scalar × Entries) : Compose String := do
  let path ← p.1.plain
  let body ← item ctx (.map p.2)
  return block path body

theorem items_eq (entries : Entries) :
    items ctx entries = inTurn (entry ctx) (entries.filterMap Value.mappingAt?) := by
  induction entries with
  | nil => rfl
  | cons e rest ih =>
    obtain ⟨path, v⟩ := e
    rw [items, List.filterMap_cons, Value.mappingAt?, ih]
    dsimp only
    cases v.opened with
    | map entries => simp only [inTurn, entry, bind_assoc, pure_bind]
    | _ => rfl

end Paths

namespace Generator

theorem declaredOperations_eq (os : List (Scalar × Value)) :
    declaredOperations ctx os = inTurn (fun o => declaredOperation ctx o.1 o.2) os := by
  induction os with
  | nil => rfl
  | cons o rest ih => rw [declaredOperations, inTurn, ih]

theorem namedContents_eq (entries : Entries) : namedContents ctx entries =
    inTurn (fun p => namedContent ctx p.1 (.map p.2)) (entries.filterMap Value.mappingAt?) := by
  induction entries with
  | nil => rfl
  | cons e rest ih =>
    obtain ⟨name, v⟩ := e
    rw [namedContents, List.filterMap_cons, Value.mappingAt?, ih, namedContent]
    dsimp only
    cases v.opened with
    | map entries => rfl
    | _ => simp only [pure_bind, String.empty_append, bind_pure]

end Generator

end ApiTypes
