import ApiTypes.Proofs.Document.Shape

/-!
# Well-shaped documents have declarations

Each composer comes to a result on what it is given in a well-shaped document, so the
document is generated without a fault, whatever else it holds.
-/

set_option autoImplicit false

namespace ApiTypes

open Compose

namespace Value

theorem json_entriesIn {v : Value} (h : v.isJson = true) : (Value.map v.entriesIn).isJson = true := by
  cases v with
  | map entries => exact h
  | again isMap forms content => cases h
  | scalar s => rfl
  | list items => rfl

theorem json_heldEntries {v : Value} (h : v.isJson = true) {e : Scalar × Value} (he : e ∈ v.heldEntries) :
    (∃ s, e.1 = .text s) ∧ e.2.isJson = true := by
  unfold heldEntries at he
  split at he
  · exact json_map.mp (json_entriesIn h) e he
  · cases he

theorem json_mapping {entries : Entries} (hj : ∀ e ∈ entries, (∃ s, e.1 = .text s) ∧ e.2.isJson = true)
    {p : Scalar × Entries} (hp : p ∈ entries.filterMap mappingAt?) :
    (∃ s, p.1 = .text s) ∧ (Value.map p.2).isJson = true := by
  obtain ⟨e, he, hmap⟩ := List.mem_filterMap.mp hp
  obtain ⟨hkey, hv⟩ := hj e he
  have ho := opened_json hv
  unfold mappingAt? at hmap
  split at hmap
  · rename_i entries hopened
    cases hmap
    rw [← hopened, ho]
    exact ⟨hkey, hv⟩
  · cases hmap

end Value

namespace Operation

variable {ctx : Context}

theorem comment_total {entries : Entries} (h : (Value.map entries).isJson = true) :
    ∃ t, comment entries = .ok t :=
  Value.description_json (Value.json_field h "description")

theorem entriesOrNone_total {v : Value} (h : v.isMapOrNull = true) :
    entriesOrNone v = .ok v.heldEntries := by
  unfold entriesOrNone Value.heldEntries
  split
  · rename_i ht
    obtain ⟨entries, rfl⟩ := Value.map_of_truthy h ht
    rfl
  · rfl

theorem total_mediaType {e : Scalar × Value} (hk : ∃ s, e.1 = .text s) (hj : e.2.isJson = true)
    (h : Schema.shaped (Value.field "schema" e.2.entriesIn) = true) : Total (mediaType ctx e.1 e.2) := by
  obtain ⟨s, hs⟩ := hk
  rw [mediaType_eq, hs]
  refine (total_lift ⟨s, rfl⟩).bind fun _ => ?_
  exact (Schema.total_shaped (Value.json_field (Value.json_entriesIn hj) "schema") h ctx.root).map _

theorem total_mediaTypes {entries : Entries}
    (hj : ∀ e ∈ entries, (∃ s, e.1 = .text s) ∧ e.2.isJson = true) (h : mediaShaped entries = true) :
    Total (mediaTypes ctx entries) := by
  unfold mediaShaped at h
  rw [List.all_eq_true] at h
  rw [mediaTypes_eq]
  exact total_inTurn fun e he => total_mediaType (hj e he).1 (hj e he).2 (h e he)

theorem total_content {entries : Entries} (hj : (Value.map entries).isJson = true)
    (h : bodyShaped entries = true) : Total (content ctx (.map entries)) := by
  unfold content bodyShaped at *
  refine gives_after rfl ?_
  cases hg : Entries.get? "$ref" entries with
  | some ref =>
    rw [hg] at h
    obtain ⟨s, rfl⟩ := Value.isText_iff.mp h
    exact Total.bind (total_lift ⟨s, rfl⟩) fun _ => (total_refer _ _).map _
  | none =>
    rw [hg, Bool.and_eq_true] at h
    refine gives_after rfl ?_
    refine gives_after (entriesOrNone_total h.1) ?_
    exact (total_mediaTypes (fun e he => Value.json_heldEntries (Value.json_field hj "content") he)
      h.2).map _

theorem status_total {s : String} (h : statusShaped (.text s) = true) :
    ∃ key, StatusKey.ofText s = .ok key := by
  unfold StatusKey.ofText StatusKey.ofChars
  split
  · rename_i hdigits
    rw [Bool.and_eq_true] at hdigits
    have hlength : ¬Numeral.maxDigits < s.toList.length := by
      simpa [statusShaped, hdigits.2] using h
    rw [if_neg hlength]
    exact ⟨_, rfl⟩
  · split <;> exact ⟨_, rfl⟩

theorem total_response {status : Scalar} {r : Value} (hs : ∃ s, status = .text s)
    (hj : r.isJson = true) (h : responseShaped (status, r) = true) :
    Total (response ctx (.scalar status) r) := by
  obtain ⟨s, rfl⟩ := hs
  have ho := Value.opened_json hj
  unfold response
  split
  · exact total_pure _
  · rename_i entries hne hv
    rw [ho] at hv
    rw [hv] at hj
    have hshaped : statusShaped (.text s) = true ∧ bodyShaped entries = true := by
      unfold responseShaped at h
      rw [hv] at h
      cases entries with
      | nil => exact (hne rfl).elim
      | cons e rest => simpa [Value.entriesIn, Value.opened] using h
    refine gives_after rfl ?_
    refine (total_lift (status_total hshaped.1)).bind fun _ =>
      (total_lift (comment_total hj)).bind fun _ => ?_
    split
    · exact (total_content hj hshaped.2).map _
    · exact (total_pure _).map _
  · exact total_pure _

theorem total_responses {entries : Entries}
    (hj : ∀ e ∈ entries, (∃ s, e.1 = .text s) ∧ e.2.isJson = true)
    (h : ∀ e ∈ entries, responseShaped e = true) : Total (responses ctx entries) := by
  rw [responses_eq]
  exact total_inTurn fun e he => total_response (hj e he).1 (hj e he).2 (h e he)

theorem total_requestBody {body : Value} (hj : body.isJson = true) (h : requestShaped body = true) :
    Total (requestBody ctx body) := by
  unfold requestShaped at h
  rw [Bool.and_eq_true] at h
  unfold requestBody
  split
  · rename_i ht
    obtain ⟨entries, rfl⟩ := Value.map_of_truthy h.1 ht
    exact (total_content hj h.2).map _
  · exact total_pure _

end Operation

namespace ParameterField

/-- A comment can be written for the field. -/
def Written (f : ParameterField) : Prop := ∃ t, DocComment.ofValue f.description = .ok t

theorem render_total {name : Scalar} {f : ParameterField} (hn : ∃ t, name.plain = .ok t)
    (hf : f.Written) : ∃ t, f.render name = .ok t := by
  obtain ⟨n, hn⟩ := hn
  obtain ⟨t, ht⟩ := hf
  unfold render
  rw [ht, hn]
  exact ⟨_, rfl⟩

end ParameterField

namespace ParameterGroups

theorem render_total {groups : ParameterGroups} (h : ∀ g ∈ groups, (∃ t, g.1.plain = .ok t) ∧
    ∀ f ∈ g.2, (∃ t, f.1.plain = .ok t) ∧ f.2.Written) : ∃ t, groups.render = .ok t := by
  have hall : ∃ texts, groups.mapM (fun g => renderGroup g.1 g.2) = .ok texts := by
    apply except_mapM_total
    intro g hg
    obtain ⟨⟨name, hn⟩, hfields⟩ := h g hg
    have htexts : ∃ texts, g.2.mapM (fun f => f.2.render f.1) = .ok texts :=
      except_mapM_total fun f hf => ParameterField.render_total (hfields f hf).1 (hfields f hf).2
    obtain ⟨texts, ht⟩ := htexts
    unfold renderGroup renderFields
    rw [hn, ht]
    exact ⟨_, rfl⟩
  obtain ⟨texts, ht⟩ := hall
  unfold render
  rw [ht]
  exact ⟨_, rfl⟩

/-- Names are texts, and all fields can be written. -/
def FieldsWritten (fields : List (Scalar × ParameterField)) : Prop :=
  ∀ f ∈ fields, (∃ s, f.1 = .text s) ∧ f.2.Written

/-- Locations are texts, and so it is in each of them. -/
def Written (groups : ParameterGroups) : Prop :=
  ∀ g ∈ groups, (∃ s, g.1 = .text s) ∧ FieldsWritten g.2

theorem Written.put {groups : ParameterGroups} (h : Written groups) {f : ParameterField}
    (hf : f.Written) (location name : String) :
    Written (groups.put (.text location) (.text name) f) := by
  have hkey : ∀ t, ∃ s, Scalar.text t = .text s := fun t => ⟨t, rfl⟩
  have hfields : FieldsWritten ((Entries.find? (.text location) groups).getD []) := by
    cases hg : Entries.find? (.text location) groups with
    | none => simp [FieldsWritten]
    | some fields =>
      obtain ⟨k, _, hk⟩ := Entries.find?_some hg
      exact (h _ hk).2
  have hput : FieldsWritten (Entries.put (.text name) f
      ((Entries.find? (.text location) groups).getD [])) :=
    Entries.forall_put (P := fun k => ∃ s, k = .text s) (Q := ParameterField.Written) hfields
      (hkey name) hf
  exact Entries.forall_put (P := fun k => ∃ s, k = .text s) (Q := FieldsWritten) h (hkey location) hput

theorem Written.render {groups : ParameterGroups} (h : Written groups) : ∃ t, groups.render = .ok t := by
  have hplain : ∀ k : Scalar, (∃ s, k = .text s) → ∃ t, k.plain = .ok t := by
    rintro _ ⟨s, rfl⟩
    exact ⟨s, rfl⟩
  refine render_total fun g hg => ?_
  obtain ⟨hlocation, hfields⟩ := h g hg
  exact ⟨hplain _ hlocation, fun f hf => ⟨hplain _ (hfields f hf).1, (hfields f hf).2⟩⟩

end ParameterGroups

namespace Parameters

variable {ctx : Context}

/-- A slot under two texts, whose field can be written. -/
def SlotWritten (s : Slot) : Prop :=
  (∃ t, s.location = .scalar (.text t)) ∧ (∃ t, s.name = .scalar (.text t)) ∧ s.field.Written

theorem placed_shaped {entries : Entries} (h : placeShaped entries = true)
    (hp : isPlaced entries = true) : (∃ t, Value.field "in" entries = .scalar (.text t)) ∧
      ∃ t, Value.field "name" entries = .scalar (.text t) := by
  unfold placeShaped at h
  unfold isPlaced at hp
  rw [Bool.and_eq_true] at h hp
  exact ⟨Value.text_of_truthy h.1 hp.1, Value.text_of_truthy h.2 hp.2⟩

theorem gives_referenced {ref : String} (h : targetShaped ctx.document ref = true) :
    Gives (referenced ctx ref) fun s => ∀ slot, s = some slot → SlotWritten slot := by
  unfold referenced
  split
  · exact Gives.bind (total_warn _) fun _ _ => gives_pure (by simp)
  · rename_i location name hp
    refine Gives.bind (total_refer _ _) fun type _ => gives_pure ?_
    rintro _ ⟨⟩
    obtain ⟨target, htarget, hplaced, rfl, rfl⟩ := placeOf_some.mp hp
    obtain ⟨v, hv, hopened⟩ := target_some htarget
    unfold targetShaped at h
    rw [hv, Option.map_some, hopened] at h
    obtain ⟨hl, hn⟩ := placed_shaped h hplaced
    exact ⟨hl, hn, "", rfl⟩

theorem gives_inline {entries : Entries} (hj : (Value.map entries).isJson = true)
    (hp : placeShaped entries = true) (h : Schema.shaped (Value.field "schema" entries) = true) :
    Gives (inline ctx entries) fun s => ∀ slot, s = some slot → SlotWritten slot := by
  refine Gives.bind (Schema.total_shaped (Value.json_field hj "schema") h _) fun type _ => ?_
  cases hplace : placed? entries with
  | none =>
    have hwarning : ∃ t, unplaced entries = .ok t := by
      obtain ⟨t, ht⟩ := Value.plain_json hj
      unfold unplaced
      rw [ht]
      exact ⟨_, rfl⟩
    exact Gives.bind (total_lift hwarning) fun _ _ => Gives.bind (total_warn _) fun _ _ =>
      gives_pure (by simp)
  | some place =>
    obtain ⟨location, name⟩ := place
    obtain ⟨hplaced, rfl, rfl⟩ := placed_some.mp hplace
    obtain ⟨hl, hn⟩ := placed_shaped hp hplaced
    apply gives_pure
    rintro _ ⟨⟩
    exact ⟨hl, hn, Value.description_json (Value.json_field hj "description")⟩

theorem gives_slot {p : Value} (hj : p.isJson = true) (h : parameterShaped ctx.document p = true) :
    Gives (slot ctx p) fun s => ∀ slot, s = some slot → SlotWritten slot := by
  cases p with
  | map entries =>
    unfold slot
    unfold parameterShaped at h
    dsimp only [Value.opened] at h ⊢
    cases hg : Entries.get? "$ref" entries with
    | none =>
      rw [hg, Bool.and_eq_true] at h
      exact gives_inline hj h.1 h.2
    | some ref =>
      rw [hg] at h
      have htext : ∃ t, ref = .scalar (.text t) ∧ targetShaped ctx.document t = true := by
        split at h
        · rename_i t heq
          exact ⟨t, Option.some.inj heq, h⟩
        · cases h
        · rename_i heq
          cases heq
      obtain ⟨t, rfl, htarget⟩ := htext
      refine gives_after rfl ?_
      exact gives_referenced htarget
  | again isMap forms content => cases hj
  | scalar s => exact gives_pure (by simp)
  | list items => exact gives_pure (by simp)

theorem gives_groupOnto {items : List Value} (hj : ∀ p ∈ items, p.isJson = true)
    (h : ∀ p ∈ items, parameterShaped ctx.document p = true) {groups : ParameterGroups}
    (hg : groups.Written) : Gives (groupOnto ctx groups items) ParameterGroups.Written := by
  induction items generalizing groups with
  | nil => exact gives_pure hg
  | cons p rest ih =>
    obtain ⟨hpj, hrestj⟩ := List.forall_mem_cons.mp hj
    obtain ⟨hp, hrest⟩ := List.forall_mem_cons.mp h
    refine Gives.bind (gives_slot hpj hp) fun s hs => ?_
    cases s with
    | none => exact ih hrestj hrest hg
    | some slot =>
      obtain ⟨⟨location, hl⟩, ⟨name, hn⟩, hfield⟩ := hs slot rfl
      have hplace : place groups slot = .ok (groups.put (.text location) (.text name) slot.field) := by
        unfold place
        rw [hl, hn]
        rfl
      refine gives_after hplace ?_
      exact ih hrestj hrest (hg.put hfield location name)

theorem total_composeIfAny {parameters : Value} (hj : parameters.isJson = true)
    (h : shaped ctx.document parameters = true) : Total (composeIfAny ctx parameters) := by
  unfold composeIfAny
  split
  · rename_i ht
    unfold shaped entriesOf at h
    rw [Bool.and_eq_true, List.all_eq_true, if_pos ht] at h
    obtain ⟨items, rfl⟩ := Value.list_of_truthy h.1 ht
    have hlisted : listed (.list items) = .ok items := by
      unfold listed
      rw [if_pos ht]
      rfl
    have hnone : ParameterGroups.Written [] := by
      intro g hg
      cases hg
    have hgroup : Gives (group ctx (.list items)) ParameterGroups.Written := by
      refine gives_after hlisted ?_
      exact gives_groupOnto (Value.json_list.mp hj) h.2 hnone
    exact Gives.bind hgroup fun groups hg => total_lift hg.render
  · exact total_pure _

end Parameters

namespace Operation

variable {ctx : Context}

theorem total_compose {entries : Entries} (hj : (Value.map entries).isJson = true)
    (h : shaped ctx.document (.map entries) = true) : Total (compose ctx (.map entries)) := by
  unfold shaped at h
  rw [Bool.and_eq_true, Bool.and_eq_true] at h
  obtain ⟨hparameters, hbody, hresponses⟩ := h
  unfold responsesShaped at hresponses
  rw [Bool.and_eq_true, List.all_eq_true] at hresponses
  unfold compose
  refine gives_after rfl ?_
  refine (Parameters.total_composeIfAny (Value.json_field hj _) hparameters).bind fun _ =>
    (total_requestBody (Value.json_field hj _) hbody).bind fun _ => ?_
  refine gives_after (entriesOrNone_total hresponses.1) ?_
  exact (total_responses (fun e he => Value.json_heldEntries (Value.json_field hj "responses") he)
    hresponses.2).map _

end Operation

namespace Paths

variable {ctx : Context}

theorem total_operation {method : String} {entries : Entries} (hj : (Value.map entries).isJson = true)
    (h : operationShaped ctx.document entries = true) : Total (operation ctx method entries) := by
  unfold operationShaped isNamed at h
  rw [Bool.and_eq_true, Bool.or_eq_true] at h
  unfold operation
  dsimp only
  split
  · rename_i ht
    obtain ⟨s, hs⟩ := Value.text_of_truthy h.1 ht
    rw [hs]
    exact (total_declareOperation _ _).bind fun _ => (total_lift ⟨s, rfl⟩).map _
  · rename_i ht
    exact (total_lift (Operation.comment_total hj)).bind fun _ =>
      (Operation.total_compose hj (h.2.resolve_left ht)).map _

theorem json_method {entries : Entries} {m : String × Entries}
    (hj : (Value.map entries).isJson = true) (hm : m ∈ methodEntries entries) : (Value.map m.2).isJson = true := by
  obtain ⟨e, he, hmethod⟩ := List.mem_filterMap.mp hm
  have hv := (Value.json_map.mp hj e he).2
  have ho := Value.opened_json hv
  unfold methodAt? at hmethod
  split at hmethod
  · rename_i method operation _ hoperation
    cases hmethod
    rwa [← hoperation, ho]
  · cases hmethod

theorem text_of_id {operation : Entries} {id : Scalar}
    (h : (Value.field "operationId" operation).isTextOrNull = true) (hid : id? operation = some id) :
    ∃ s, id = .text s := by
  unfold id? at hid
  split at hid
  · rename_i id' hfield
    rw [hfield] at h
    split at hid
    · rename_i ht
      obtain ⟨s, hs⟩ := Value.text_of_truthy h ht
      cases hs
      exact ⟨s, (Option.some.inj hid).symm⟩
    · cases hid
  · cases hid

theorem total_operations {entries : Entries} (hj : (Value.map entries).isJson = true)
    (h : ∀ m ∈ methodEntries entries, operationShaped ctx.document m.2 = true) :
    Total (operations ctx entries) := by
  rw [operations_eq]
  exact total_inTurn fun m hm => total_operation (json_method hj hm) (h m hm)

theorem total_item {entries : Entries} (hj : (Value.map entries).isJson = true)
    (h : itemShaped ctx.document entries = true) : Total (item ctx (.map entries)) := by
  unfold itemShaped at h
  rw [Bool.and_eq_true, List.all_eq_true] at h
  unfold item
  refine gives_after rfl ?_
  exact (total_operations hj h.1).bind fun _ =>
    (Parameters.total_composeIfAny (Value.json_field hj _) h.2).map _

theorem total_entry {p : Scalar × Entries} (hk : ∃ s, p.1 = .text s)
    (hj : (Value.map p.2).isJson = true) (h : itemShaped ctx.document p.2 = true) :
    Total (entry ctx p) := by
  obtain ⟨s, hs⟩ := hk
  unfold entry
  rw [hs]
  exact (total_lift ⟨s, rfl⟩).bind fun _ => (total_item hj h).map _

theorem total_items {entries : Entries}
    (hj : ∀ e ∈ entries, (∃ s, e.1 = .text s) ∧ e.2.isJson = true)
    (h : ∀ p ∈ entries.filterMap Value.mappingAt?, itemShaped ctx.document p.2 = true) :
    Total (items ctx entries) := by
  rw [items_eq]
  refine total_inTurn fun p hp => ?_
  obtain ⟨hkey, hv⟩ := Value.json_mapping hj hp
  exact total_entry hkey hv (h p hp)

end Paths

namespace Generator

variable {ctx : Context}

theorem total_pathsBlock {paths : Value} (hj : paths.isJson = true)
    (h : Paths.shaped ctx.document paths = true) : Total (pathsBlock ctx paths) := by
  unfold Paths.shaped Paths.pathItems Value.heldEntries at h
  rw [Bool.and_eq_true, List.all_eq_true] at h
  unfold pathsBlock
  split
  · rename_i ht
    obtain ⟨entries, rfl⟩ := Value.map_of_truthy h.1 ht
    rw [if_pos ht] at h
    have hitems : Total (Paths.compose ctx (.map entries)) := by
      refine gives_after rfl ?_
      exact Paths.total_items (Value.json_map.mp hj) h.2
    exact hitems.map _
  · exact total_pure _

theorem total_declaredOperation {o : Scalar × Value} {entries : Entries} (hk : ∃ s, o.1 = .text s)
    (he : o.2 = .map entries) (hj : (Value.map entries).isJson = true)
    (h : Operation.shaped ctx.document (.map entries) = true) :
    Total (declaredOperation ctx o.1 o.2) := by
  obtain ⟨s, hs⟩ := hk
  unfold declaredOperation
  rw [hs, he]
  refine gives_after rfl ?_
  exact (total_lift (Operation.comment_total hj)).bind fun _ => (total_lift ⟨s, rfl⟩).bind fun _ =>
    (Operation.total_compose hj h).map _

theorem total_namedContent {p : Scalar × Entries} (hk : ∃ s, p.1 = .text s)
    (hj : (Value.map p.2).isJson = true) (h : Operation.bodyShaped p.2 = true) :
    Total (namedContent ctx p.1 (.map p.2)) := by
  obtain ⟨s, hs⟩ := hk
  unfold namedContent
  rw [hs]
  exact (total_lift (Operation.comment_total hj)).bind fun _ => (total_lift ⟨s, rfl⟩).bind fun _ =>
    (Operation.total_content hj h).map _

theorem total_namedContents {entries : Entries}
    (hj : ∀ e ∈ entries, (∃ s, e.1 = .text s) ∧ e.2.isJson = true)
    (h : ∀ p ∈ entries.filterMap Value.mappingAt?, Operation.bodyShaped p.2 = true) :
    Total (namedContents ctx entries) := by
  rw [namedContents_eq]
  refine total_inTurn fun p hp => ?_
  obtain ⟨hkey, hv⟩ := Value.json_mapping hj hp
  exact total_namedContent hkey hv (h p hp)

theorem declarations_total (entries : Entries) :
    Schema.declarations (.map entries) =
      .ok ((entries.map Schema.propertyAt).map fun p => ({ p.1 with required := true }, p.2)) := by
  have hkeys : ∃ names, (entries.map fun e => Value.scalar e.1).mapM Value.asKey = .ok names := by
    apply except_mapM_total
    intro v hv
    obtain ⟨e, _, rfl⟩ := List.mem_map.mp hv
    exact ⟨e.1, rfl⟩
  obtain ⟨names, hnames⟩ := hkeys
  have hread : (Value.map entries).reading.properties = .ok (entries.map Schema.propertyAt) :=
    congrArg _ (Schema.zipWith_readings entries)
  exact except_bind_ok.mpr ⟨_, rfl, except_bind_ok.mpr ⟨names, hnames, except_bind_ok.mpr ⟨_, hread, rfl⟩⟩⟩

theorem total_schemaSection {name : String} {v : Value} (hj : v.isJson = true)
    (hm : v.isMapOrNull = true)
    (h : ∀ e ∈ heldProperties v, Schema.shaped e.2.propertyNode = true) :
    Total (schemaSection ctx name v) := by
  unfold schemaSection
  unfold heldProperties at h
  split
  · rename_i ht
    obtain ⟨entries, rfl⟩ := Value.map_of_truthy hm ht
    rw [if_pos ht] at h
    have hfields : Total (composeDeclarations ctx.root (.map entries)) := by
      refine gives_after (declarations_total entries) ?_
      apply Schema.total_composeFields
      intro p hp
      obtain ⟨q, hq, rfl⟩ := List.mem_map.mp hp
      obtain ⟨e, he, rfl⟩ := List.mem_map.mp hq
      obtain ⟨hk, hv⟩ := Value.json_map.mp hj e he
      have hc := Schema.composes_propertyAt hk hv
        (Schema.total_shaped (Value.json_propertyNode hv) (h e he) ctx.root)
      exact ⟨hc.comment, hc.name, hc.type⟩
    exact hfields.map _
  · exact total_pure _

theorem total_contentSection {name : String} {v : Value} (hj : v.isJson = true)
    (hm : v.isMapOrNull = true) (h : ∀ e ∈ bodies v, Operation.bodyShaped e.2 = true) :
    Total (contentSection ctx name v) := by
  unfold contentSection
  unfold bodies Value.heldEntries at h
  split
  · rename_i ht
    obtain ⟨entries, rfl⟩ := Value.map_of_truthy hm ht
    rw [if_pos ht] at h
    refine gives_after rfl ?_
    exact (total_namedContents (Value.json_map.mp hj) h).map _
  · exact total_pure _

theorem total_section (s : Section) {v : Value} (hj : v.isJson = true) (h : s.shaped v = true) :
    Total (s.compose ctx v) := by
  cases s <;> rw [Section.shaped, Bool.and_eq_true, List.all_eq_true] at h
  case parameters | schemas => exact total_schemaSection hj h.1 h.2
  case responses | requestBodies => exact total_contentSection hj h.1 h.2

variable {entries : Entries}

/-- An operation that is declared under a name is one of a method of a path item. -/
theorem mem_operationsOf {o : Scalar × Value} (h : o ∈ operationsOf entries) :
    ∃ p ∈ Paths.pathItems (pathsOf entries), ∃ m ∈ Paths.methodEntries p.2,
      Paths.id? m.2 = some o.1 ∧ o.2 = .map m.2 := by
  obtain ⟨p, hp, ho⟩ := List.mem_flatMap.mp (Entries.mem_of_firsts h)
  obtain ⟨m, hm, ho⟩ := List.mem_filterMap.mp ho
  obtain ⟨id, hid, rfl⟩ := Option.map_eq_some_iff.mp ho
  exact ⟨p, hp, m, hm, hid, rfl⟩

theorem json_pathItem {p : Scalar × Entries} (hj : (Value.map entries).isJson = true)
    (hp : p ∈ Paths.pathItems (pathsOf entries)) : (Value.map p.2).isJson = true :=
  (Value.json_mapping (fun _ he => Value.json_heldEntries (Value.json_field hj "paths") he) hp).2

theorem WellShaped.declares (h : WellShaped entries) :
    Total (declaredOperations (contextOf entries) (operationsOf entries)) := by
  rw [declaredOperations_eq]
  refine total_inTurn fun o ho => ?_
  have hshaped := h.operations o ho
  obtain ⟨p, hp, m, hm, hid, hmap⟩ := mem_operationsOf ho
  have hpaths := h.paths
  unfold Paths.shaped Paths.itemShaped at hpaths
  rw [Bool.and_eq_true, List.all_eq_true] at hpaths
  have hitem := hpaths.2 p hp
  rw [Bool.and_eq_true, List.all_eq_true] at hitem
  have hoperation := hitem.1 m hm
  unfold Paths.operationShaped at hoperation
  rw [Bool.and_eq_true] at hoperation
  rw [hmap] at hshaped
  have hj : (Value.map m.2).isJson = true := Paths.json_method (json_pathItem h.json hp) hm
  exact total_declaredOperation (Paths.text_of_id hoperation.1 hid) hmap hj hshaped

theorem json_partsOf (hj : (Value.map entries).isJson = true) :
    (Value.map (partsOf entries)).isJson = true := by
  unfold partsOf sectionOf
  dsimp only
  split
  · exact Value.json_entriesIn (Value.json_field hj "components")
  · rfl

theorem WellShaped.composes (h : WellShaped entries) :
    Total (Generator.components (contextOf entries) (partsOf entries) (sectionOf "schemas" (partsOf entries))) := by
  have hj := json_partsOf h.json
  have hsection : ∀ s : Section, Total (s.compose (contextOf entries)
      (Value.field s.name (partsOf entries))) :=
    fun s => total_section s (Value.json_field hj _) (h.sections s)
  -- The schemas are taken as an empty mapping where they do not hold, and not declared then.
  have hschemas : Total (schemaSection (contextOf entries) "schemas"
      (sectionOf "schemas" (partsOf entries))) := by
    unfold sectionOf
    dsimp only
    split
    · exact hsection .schemas
    · exact total_pure _
  exact (hsection .parameters).bind fun _ => hschemas.bind fun _ =>
    (hsection .responses).bind fun _ => (hsection .requestBodies).map _

theorem WellShaped.document (h : WellShaped entries) :
    ∃ text l, (Generator.document ⟨false, none⟩ entries).exec .empty = (.ok text, l) := by
  have hparts : (sectionOf "components" entries).entriesFor "get" = .ok (partsOf entries) := by
    have hc := h.components
    unfold partsOf sectionOf
    dsimp only
    split
    · rename_i ht
      obtain ⟨es, he⟩ := Value.map_of_truthy hc ht
      rw [he]
      rfl
    · rfl
  have hpaths : Total (pathsBlock (contextOf entries) (pathsOf entries)) :=
    total_pathsBlock (Value.json_field h.json "paths") h.paths
  obtain ⟨paths, l₁, hrun⟩ := hpaths.exec .empty
  -- The named operations are those that the paths have declared on the way.
  obtain ⟨_, _, _, hregistered, _⟩ := Paths.block_ok rfl hrun
  have hnamed : l₁.operations = operationsOf entries := hregistered [] rfl
  have hoperations : ∃ text l, (operationsBlock (contextOf entries)).exec l₁ = (.ok text, l) := by
    obtain ⟨declared, l₂, hdeclared⟩ := h.declares.exec l₁
    rw [← hnamed] at hdeclared
    exact ⟨_, l₂, exec_bind_ok.mpr ⟨l₁, l₁, rfl, exec_bind_ok.mpr ⟨declared, l₂, hdeclared, rfl⟩⟩⟩
  obtain ⟨operations, l₂, hoperations⟩ := hoperations
  have hrest : Total (do
      let components ← Generator.components (contextOf entries) (partsOf entries)
        (sectionOf "schemas" (partsOf entries))
      let imports ← importsBlock
      return imports ++ paths ++ operations ++ interface "components" components) := by
    refine h.composes.bind fun components => ?_
    exact fun l => ⟨_, l, rfl, trivial⟩
  obtain ⟨text, l₃, hrest⟩ := hrest.exec l₂
  refine ⟨text, l₃, ?_⟩
  unfold Generator.document
  dsimp only
  refine exec_bind_ok.mpr ⟨_, _, exec_lift_ok.mpr ⟨hparts, rfl⟩, ?_⟩
  refine exec_bind_ok.mpr ⟨sectionOf "schemas" (partsOf entries), _, rfl, ?_⟩
  refine exec_bind_ok.mpr ⟨paths, l₁, hrun, ?_⟩
  exact exec_bind_ok.mpr ⟨operations, l₂, hoperations, hrest⟩

/-- A well-shaped document is generated, whatever it holds where no shape is asked for. -/
theorem generate_total (h : WellShaped entries) :
    ∃ out, generate ⟨false, none⟩ (.map entries) = .ok out := by
  obtain ⟨text, l, hrun⟩ := h.document
  have hshape : hasShape ⟨false, none⟩ (.map entries) = true := by
    rcases h.present with hpaths | hcomponents
    · simp [hasShape, show (Value.field "paths" entries).isNull = false from hpaths]
    · simp [hasShape, hcomponents]
  refine ⟨⟨text, l.warnings⟩, ?_⟩
  unfold generate compose
  rw [if_pos hshape]
  dsimp only
  rw [if_neg Bool.false_ne_true, hrun]

/-- A document with references that lead nowhere or around, and values of the wrong kind wherever
they are not read. -/
def untidy : Entries :=
  [(.text "paths", .map
      [(.text "/a", .map
        [(.text "get", .map [(.text "operationId", .text "get_a"),
          (.text "parameters", .list [.scalar (.int 5), .map [(.text "$ref", .text "#/nowhere")],
            .map [(.text "$ref", .text "#/components/parameters/p")]]),
          (.text "requestBody", .map [(.text "content", .map
            [(.text "text/plain", .map [(.text "schema", .map [(.text "type", .text "odd")])])])]),
          (.text "responses", .map [(.text "200", .map [(.text "content", .map
              [(.text "text/plain", .scalar (.bool true))])]),
            (.text "204", .list []), (.text "default", .map [(.text "$ref", .text "other.yaml")])])]),
          (.text "put", .text "nothing"),
          (.text "post", .map [(.text "operationId", .text "get_a"), (.text "parameters", .text "x")])]),
        (.text "/b", .scalar (.int 7))]),
    (.text "components", .map
      [(.text "parameters", .map [(.text "p", .map [(.text "in", .text "query"),
          (.text "name", .text "n"),
          (.text "schema", .map [(.text "allOf", .list [.null, .map
            [(.text "$ref", .text "#/components/schemas/A")]])])])]),
        (.text "schemas", .map [(.text "A", .map [(.text "properties", .map
            [(.text "a", .map [(.text "$ref", .text "#/components/schemas/A")]), (.text "b", .list [])]),
          (.text "required", .list [.text "a"])])]),
        (.text "responses", .null)])]

theorem total_untidy : WellShaped untidy ∧ ∃ out, generate ⟨false, none⟩ (.map untidy) = .ok out := by
  have hsections : ∀ s : Section, s.shaped (Value.field s.name (partsOf untidy)) = true := by
    intro s
    cases s <;> decide +kernel
  have hpresent : (pathsOf untidy).isNull = false := by decide +kernel
  have h : WellShaped untidy := ⟨by decide +kernel, .inl hpresent, by decide +kernel,
    by decide +kernel, by decide +kernel, hsections⟩
  exact ⟨h, generate_total h⟩

end Generator

end ApiTypes
