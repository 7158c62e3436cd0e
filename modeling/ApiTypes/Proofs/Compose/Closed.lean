import ApiTypes.Document.Session
import ApiTypes.Proofs.Compose.InTurn

/-!
# What holds of every composer

Composers are made of few steps: results and faults of pure functions, warnings,
keys of other documents, and declarations of operations. A property of these steps
that passes on to two computations in turn holds of all composers. Only paths
declare operations.
-/

set_option autoImplicit false

namespace ApiTypes

namespace Compose

/-- A property of the steps of composers that passes on to two computations in turn. -/
structure Closed (P : ∀ {α : Type}, Compose α → Prop) : Prop where
  lift : ∀ {α : Type} (e : Except Fault α), P (liftM e : Compose α)
  warn : ∀ message : String, P (warn message)
  noteExternal : ∀ key : String, P (noteExternal key)
  bind : ∀ {α β : Type} {m : Compose α} {f : α → Compose β}, P m → (∀ a, P (f a)) → P (m >>= f)

/-- Such a property that declaring an operation has as well. -/
structure ClosedDeclaring (P : ∀ {α : Type}, Compose α → Prop) : Prop extends Closed P where
  declareOperation : ∀ id operation : Value, P (declareOperation id operation)

namespace Closed

variable {P : ∀ {α : Type}, Compose α → Prop} {α β : Type} (hP : Closed P)

include hP

theorem pure (a : α) : P (Pure.pure a : Compose α) := hP.lift (.ok a)

theorem throw (f : Fault) : P (MonadExcept.throw f : Compose α) := hP.lift (.error f)

theorem map {m : Compose α} (hm : P m) (f : α → β) : P (m >>= fun a => Pure.pure (f a)) :=
  hP.bind hm fun a => hP.pure (f a)

theorem warnIf (condition : Bool) (message : String) : P (warnIf condition message) := by
  cases condition with
  | false => exact hP.pure ()
  | true => exact hP.warn message

theorem refer (root ref : String) : P (refer root ref) := by
  unfold Compose.refer
  cases Reference.externalKey? ref with
  | none => exact hP.pure _
  | some key => exact hP.map (hP.noteExternal key) _

theorem inTurn {f : α → Compose String} (h : ∀ a, P (f a)) (as : List α) : P (Compose.inTurn f as) := by
  induction as with
  | nil => exact hP.pure _
  | cons a rest ih => exact hP.bind (h a) fun _ => hP.map ih _

end Closed

end Compose

open Compose

variable {P : ∀ {α : Type}, Compose α → Prop}

namespace Schema

variable (hP : Closed P) (root : String)

include hP

mutual

theorem closed_compose : ∀ s : Schema, P (s.compose root)
  | .unrecognised => by rw [compose]; exact hP.pure _
  | .reference ref => by rw [compose]; exact hP.refer root ref
  | .primitive kind => by rw [compose]; exact hP.pure _
  | .enumeration values => by
    rw [compose]
    exact hP.map (hP.lift _) _
  | .oneOf members | .anyOf members => by
    rw [compose]
    exact hP.map (closed_composeAll members) _
  | .object bases properties additional => by
    rw [compose]
    split
    · exact hP.pure _
    · exact hP.bind (closed_composeAll bases) fun _ => hP.bind (closed_composeFields properties)
        fun _ => hP.map (closed_composeAdditional additional) _
  | .tuple items => by
    rw [compose]
    exact hP.map (closed_composeAll items) _
  | .array item => by
    rw [compose]
    exact hP.map (closed_compose item) _
  | .malformed bases fault => by
    rw [compose]
    exact hP.bind (closed_composeAll bases) fun _ => hP.throw fault

theorem closed_composeAll : ∀ ss : List Schema, P (composeAll root ss)
  | [] => by rw [composeAll]; exact hP.pure _
  | s :: rest => by
    rw [composeAll]
    exact hP.bind (closed_compose s) fun _ => hP.map (closed_composeAll rest) _

theorem closed_composeFields : ∀ ps : List (Property × Schema), P (composeFields root ps)
  | [] => by rw [composeFields]; exact hP.pure _
  | (p, s) :: rest => by
    rw [composeFields]
    exact hP.bind (hP.lift _) fun _ => hP.bind (hP.lift _) fun _ => hP.bind (closed_compose s)
      fun _ => hP.bind (hP.warnIf _ _) fun _ => hP.map (closed_composeFields rest) _

theorem closed_composeAdditional : ∀ s : Option Schema, P (composeAdditional root s)
  | none => by rw [composeAdditional]; exact hP.pure _
  | some s => by
    rw [composeAdditional]
    exact hP.map (closed_compose s) _

end

theorem closed_composeProperties (mapping required : Value) :
    P (composeProperties root mapping required) :=
  hP.bind (hP.lift _) fun _ => closed_composeFields hP root _

end Schema

namespace Parameters

variable (hP : Closed P) (ctx : Context)

include hP

theorem closed_slot (p : Value) : P (slot ctx p) := by
  unfold slot
  split
  · split
    · apply hP.bind (hP.lift _)
      intro ref
      unfold referenced
      split
      · exact hP.map (hP.warn _) _
      · exact hP.map (hP.refer _ _) _
    · unfold inline
      apply hP.bind (Schema.closed_compose hP _ _)
      intro type
      split
      · exact hP.bind (hP.lift _) fun _ => hP.map (hP.warn _) _
      · exact hP.pure _
  · exact hP.pure _

theorem closed_groupOnto (groups : ParameterGroups) (items : List Value) :
    P (groupOnto ctx groups items) := by
  induction items generalizing groups with
  | nil => exact hP.pure _
  | cons p rest ih =>
    rw [groupOnto]
    apply hP.bind (closed_slot hP ctx p)
    intro s
    cases s with
    | none => exact ih groups
    | some s => exact hP.bind (hP.lift _) fun groups => ih groups

theorem closed_group (parameters : Value) : P (group ctx parameters) :=
  hP.bind (hP.lift _) fun items => closed_groupOnto hP ctx [] items

theorem closed_compose (parameters : Value) : P (compose ctx parameters) :=
  hP.bind (closed_group hP ctx parameters) fun groups => hP.lift groups.render

theorem closed_composeIfAny (parameters : Value) : P (composeIfAny ctx parameters) := by
  unfold composeIfAny
  split
  · exact closed_compose hP ctx parameters
  · exact hP.pure _

end Parameters

namespace Operation

variable (hP : Closed P) (ctx : Context)

include hP

theorem closed_mediaTypes (entries : Entries) : P (mediaTypes ctx entries) := by
  rw [mediaTypes_eq]
  exact hP.inTurn (fun e => hP.bind (hP.lift _) fun _ => hP.map (Schema.closed_compose hP _ _) _) entries

theorem closed_content (container : Value) : P (content ctx container) := by
  apply hP.bind (hP.lift _)
  intro ref
  cases ref with
  | none =>
    exact hP.bind (hP.lift _) fun _ => hP.bind (hP.lift _) fun _ =>
      hP.map (closed_mediaTypes hP ctx _) _
  | some ref => exact hP.bind (hP.lift _) fun _ => hP.map (hP.refer _ _) _

theorem closed_response (status r : Value) : P (response ctx status r) := by
  unfold response
  split
  · exact hP.pure _
  · refine hP.bind (hP.lift _) fun _ => hP.bind (hP.lift _) fun _ => hP.bind (hP.lift _) fun _ => ?_
    split
    · exact hP.map (closed_content hP ctx _) _
    · exact hP.map (hP.pure _) _
  · exact hP.pure _

theorem closed_responses (entries : Entries) : P (responses ctx entries) := by
  rw [responses_eq]
  exact hP.inTurn (fun e => closed_response hP ctx _ e.2) entries

theorem closed_requestBody (body : Value) : P (requestBody ctx body) := by
  unfold requestBody
  split
  · exact hP.map (closed_content hP ctx body) _
  · exact hP.pure _

theorem closed_compose (operation : Value) : P (compose ctx operation) :=
  hP.bind (hP.lift _) fun _ => hP.bind (Parameters.closed_composeIfAny hP ctx _) fun _ =>
    hP.bind (closed_requestBody hP ctx _) fun _ => hP.bind (hP.lift _) fun _ =>
      hP.map (closed_responses hP ctx _) _

end Operation

namespace Generator

variable (hP : Closed P) (ctx : Context)

include hP

theorem closed_declaredOperation (id : Scalar) (operation : Value) :
    P (declaredOperation ctx id operation) :=
  hP.bind (hP.lift _) fun _ => hP.bind (hP.lift _) fun _ => hP.bind (hP.lift _) fun _ =>
    hP.map (Operation.closed_compose hP ctx _) _

theorem closed_declaredOperations (os : List (Scalar × Value)) : P (declaredOperations ctx os) := by
  rw [declaredOperations_eq]
  exact hP.inTurn (fun o => closed_declaredOperation hP ctx o.1 o.2) os

end Generator

namespace Paths

variable (hP : ClosedDeclaring P) (ctx : Context)

include hP

theorem closed_operation (method : String) (entries : Entries) : P (operation ctx method entries) := by
  unfold operation
  dsimp only
  split
  · exact hP.bind (hP.declareOperation _ _) fun _ => hP.map (hP.lift _) _
  · exact hP.bind (hP.lift _) fun _ => hP.map (Operation.closed_compose hP.toClosed ctx _) _

theorem closed_operations (entries : Entries) : P (operations ctx entries) := by
  rw [operations_eq]
  exact hP.inTurn (fun m : String × Entries => closed_operation hP ctx m.1 m.2) _

theorem closed_item (pathItem : Value) : P (item ctx pathItem) :=
  hP.bind (hP.lift _) fun _ => hP.bind (closed_operations hP ctx _) fun _ =>
    hP.map (Parameters.closed_composeIfAny hP.toClosed ctx _) _

theorem closed_items (entries : Entries) : P (items ctx entries) := by
  rw [items_eq]
  exact hP.inTurn (fun _ => hP.bind (hP.lift _) fun _ => hP.map (closed_item hP ctx _) _) _

theorem closed_compose (paths : Value) : P (compose ctx paths) :=
  hP.bind (hP.lift _) fun _ => closed_items hP ctx _

end Paths

namespace Session.Call

theorem closed_compose (hP : ClosedDeclaring P) (ctx : Context) (call : Call) : P (call.compose ctx) := by
  have hmap : ∀ {α : Type} {m : Compose α} (f : α → Answer), P m → P (f <$> m) :=
    fun f hm => hP.map hm f
  cases call with
  | type v => exact hmap _ (Schema.closed_compose hP.toClosed _ _)
  | fields v names => exact hmap _ (Schema.closed_composeProperties hP.toClosed _ _ _)
  | parameters v => exact hmap _ (Parameters.closed_compose hP.toClosed ctx v)
  | group v => exact hmap _ (Parameters.closed_group hP.toClosed ctx v)
  | operation v => exact hmap _ (Operation.closed_compose hP.toClosed ctx v)
  | response key v => exact hmap _ (Operation.closed_response hP.toClosed ctx key v)
  | content v => exact hmap _ (Operation.closed_content hP.toClosed ctx v)
  | paths v => exact hmap _ (Paths.closed_compose hP ctx v)
  | pathItem v => exact hmap _ (Paths.closed_item hP ctx v)
  | reference v root => exact hP.bind (hP.lift _) fun _ => hmap _ (hP.refer _ _)
  | declare id v => exact hP.map (hP.declareOperation id v) _

end Session.Call

end ApiTypes
