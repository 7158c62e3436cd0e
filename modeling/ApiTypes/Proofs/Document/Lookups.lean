import ApiTypes.Proofs.Document.Assembly

/-!
# Documents that answer lookups alike

A composer asks the document for two things only: the place of a parameter that is
given by a reference, and whether it is required. Where two documents answer these
alike, every composer is one and the same computation.
-/

set_option autoImplicit false

namespace ApiTypes

open Compose

/-- Contexts with one root, whose documents answer every lookup alike. -/
structure Context.Alike (ctx ctx' : Context) : Prop where
  root : ctx'.root = ctx.root
  place : ∀ ref, Parameters.placeOf? ctx'.document ref = Parameters.placeOf? ctx.document ref
  required : ∀ ref, Reference.isRequired ctx'.document ref = Reference.isRequired ctx.document ref

variable {ctx ctx' : Context} (h : ctx.Alike ctx')

include h

namespace Parameters

theorem slot_lookups (p : Value) : slot ctx' p = slot ctx p := by
  unfold slot referenced inline
  simp only [h.root, h.place, h.required]

theorem groupOnto_lookups (groups : ParameterGroups) (items : List Value) :
    groupOnto ctx' groups items = groupOnto ctx groups items := by
  induction items generalizing groups with
  | nil => rfl
  | cons p rest ih => simp only [groupOnto, slot_lookups h, ih]

theorem composeIfAny_lookups (parameters : Value) :
    composeIfAny ctx' parameters = composeIfAny ctx parameters := by
  unfold composeIfAny compose group
  simp only [groupOnto_lookups h]

theorem references_lookups : references ctx' = references ctx := by
  have htarget : ∀ ref, (target? ctx'.document ref).any isPlaced =
      (target? ctx.document ref).any isPlaced := by
    intro ref
    rw [Bool.eq_iff_iff, ← not_iff_not, Bool.not_eq_true, Bool.not_eq_true, ← placeOf_none,
      ← placeOf_none, h.place]
  funext parameters
  unfold references entryReferences
  simp only [htarget]

end Parameters

namespace Operation

theorem content_lookups (container : Value) : content ctx' container = content ctx container := by
  have hmedia : ∀ e : Scalar × Value, mediaType ctx' e.1 e.2 = mediaType ctx e.1 e.2 := by
    intro e
    unfold mediaType
    rw [h.root]
  unfold content
  simp only [mediaTypes_eq, hmedia]

theorem responses_lookups (entries : Entries) : responses ctx' entries = responses ctx entries := by
  have hresponse : ∀ e : Scalar × Value,
      response ctx' (.scalar e.1) e.2 = response ctx (.scalar e.1) e.2 := by
    intro e
    unfold response
    simp only [content_lookups h]
  simp only [responses_eq, hresponse]

theorem compose_lookups (operation : Value) : compose ctx' operation = compose ctx operation := by
  unfold compose requestBody
  simp only [Parameters.composeIfAny_lookups h, content_lookups h, responses_lookups h]

end Operation

namespace Paths

theorem entry_lookups (p : Scalar × Entries) : entry ctx' p = entry ctx p := by
  have hoperation : ∀ m : String × Entries, operation ctx' m.1 m.2 = operation ctx m.1 m.2 := by
    intro m
    unfold operation
    simp only [Operation.compose_lookups h]
  unfold entry item
  simp only [operations_eq, hoperation, Parameters.composeIfAny_lookups h]

end Paths

namespace Generator

theorem declaredOperation_lookups (id : Scalar) (operation : Value) :
    declaredOperation ctx' id operation = declaredOperation ctx id operation := by
  unfold declaredOperation
  simp only [Operation.compose_lookups h]

theorem section_lookups (s : Section) (v : Value) : s.compose ctx' v = s.compose ctx v := by
  have hschemas : ∀ name, schemaSection ctx' name v = schemaSection ctx name v := by
    intro name
    unfold schemaSection
    rw [h.root]
  have hcontents : ∀ name, contentSection ctx' name v = contentSection ctx name v := by
    intro name
    unfold contentSection
    simp only [namedContents_eq, namedContent, Operation.content_lookups h]
  cases s with
  | parameters => exact hschemas _
  | schemas => exact hschemas _
  | responses => exact hcontents _
  | requestBodies => exact hcontents _

end Generator

end ApiTypes
