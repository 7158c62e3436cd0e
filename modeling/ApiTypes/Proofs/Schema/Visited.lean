import ApiTypes.Proofs.Compose.Total
import ApiTypes.Proofs.Value.Json

/-!
# The nodes visited from a schema

Which values in a node are schemas depends on its variant. From a node these are
visited, from them theirs, and so on. A schema of JSON composes if every object
node visited from it has parts that can serve.
-/

set_option autoImplicit false

namespace ApiTypes

open Compose

namespace Value

/-- The values in a node that are composed with it: those that count for its variant. -/
def parts (entries : Entries) : List Value :=
  match Variant.ofEntries entries with
  | .oneOf => listAt "oneOf" entries
  | .anyOf => listAt "anyOf" entries
  | .object => basesAt entries ++
    ((propertiesAt entries).map (fun e => e.2.propertyNode) ++ (additionalAt entries).toList)
  | .array => match (field "items" entries).opened with
    | .list items => items
    | _ => [field "items" entries]
  | _ => []

theorem size_parts {entries : Entries} {v : Value} (h : v ∈ parts entries) :
    v.size < (Value.map entries).size := by
  have hf := size_field "items" entries
  unfold parts at h
  split at h
  · exact size_listAt h
  · exact size_listAt h
  · rw [List.mem_append, List.mem_append, List.mem_map, Option.mem_toList] at h
    rcases h with h | ⟨e, he, rfl⟩ | h
    · exact size_basesAt h
    · exact size_propertiesAt he
    · exact size_additionalAt h
  · split at h
    · rename_i items hi
      have hlt := size_list hi h
      rw [size]
      omega
    · rw [List.mem_singleton.mp h, size]
      omega
  · cases h

def nodes : Value → List Entries
  | .map entries => entries :: (parts entries).attach.flatMap fun v => nodes v.1
  | .again _ _ (some v) => nodes v
  | _ => []
termination_by v => v.size
decreasing_by
  · exact size_parts v.2
  · rw [size, sizeContent]
    omega

theorem nodes_map (entries : Entries) :
    nodes (.map entries) = entries :: (parts entries).flatMap nodes := by
  rw [nodes, List.flatMap_subtype (g := nodes) fun _ _ => rfl, List.unattach_attach]

theorem nodes_self (entries : Entries) : entries ∈ nodes (.map entries) := by
  rw [nodes_map]
  exact List.mem_cons_self

theorem nodes_part {entries node : Entries} {v : Value} (hv : v ∈ parts entries) (h : node ∈ v.nodes) :
    node ∈ nodes (.map entries) := by
  rw [nodes_map]
  exact List.mem_cons_of_mem _ (List.mem_flatMap.mpr ⟨v, hv, h⟩)

theorem json_members {v w : Value} (h : v.isJson = true) (hw : w ∈ v.members) : w.isJson = true := by
  cases v with
  | scalar s =>
    cases s with
    | text t =>
      simp only [members, elements?, opened, Option.getD_some, List.mem_map] at hw
      obtain ⟨c, _, rfl⟩ := hw
      rfl
    | _ => cases hw
  | list items => exact json_list.mp h w hw
  | map entries =>
    simp only [members, elements?, opened, Option.getD_some, List.mem_map] at hw
    obtain ⟨e, he, rfl⟩ := hw
    obtain ⟨⟨s, hs⟩, _⟩ := json_map.mp h e he
    rw [hs]
    rfl
  | again isMap forms content => cases h

theorem json_properties {entries : Entries} (h : (Value.map entries).isJson = true)
    {e : Scalar × Value} (he : e ∈ propertiesAt entries) :
    (∃ s, e.1 = .text s) ∧ e.2.isJson = true := by
  unfold propertiesAt at he
  split at he
  · exact json_propertyEntries (json_field h "properties") he
  · cases he

theorem json_parts {entries : Entries} (h : (Value.map entries).isJson = true) {v : Value}
    (hv : v ∈ parts entries) : v.isJson = true := by
  have hitems := json_field h "items"
  unfold parts at hv
  split at hv
  · exact json_listAt h hv
  · exact json_listAt h hv
  · rw [List.mem_append, List.mem_append, List.mem_map, Option.mem_toList] at hv
    rcases hv with hv | ⟨e, he, rfl⟩ | hv
    · unfold basesAt at hv
      split at hv
      · exact json_members (json_field h "allOf") hv
      · cases hv
    · exact json_propertyNode (json_properties h he).2
    · have hadditional := json_field h "additionalProperties"
      unfold additionalAt at hv
      split at hv
      · cases hv
      · cases hv
      · rwa [← Option.some.inj hv]
  · split at hv
    · rename_i items hi
      rw [opened_json hitems] at hi
      rw [hi] at hitems
      exact json_list.mp hitems v hv
    · rwa [List.mem_singleton.mp hv]
  · cases hv

end Value

namespace Schema

/-- The parts of an object node can be gone through for what they should hold. -/
structure Serves (entries : Entries) : Prop where
  bases : ∃ bases, basesOf entries (Value.readingEntries entries) = .ok bases
  properties : ∃ ps, propertiesOf entries (Value.readingEntries entries) = .ok ps

theorem ofValue_serves {entries : Entries} (h : Variant.ofEntries entries = .object)
    (hs : Serves entries) : ofValue (.map entries) = .object ((Value.basesAt entries).map ofValue)
      (markRequired (requiredAt entries) ((Value.propertiesAt entries).map propertyAt))
      ((Value.additionalAt entries).map ofValue) := by
  obtain ⟨bases, hb⟩ := hs.bases
  obtain ⟨ps, hp⟩ := hs.properties
  rw [ofValue_map, ofParts, h]
  dsimp only
  rw [objectOf, hb, hp]
  dsimp only
  rw [basesOf_eq hb, propertiesOf_eq hp, additionalOf_eq]

variable {root : String}

theorem total_composeAll {ss : List Schema} (h : ∀ s ∈ ss, Total (s.compose root)) :
    Total (composeAll root ss) := by
  induction ss with
  | nil =>
    rw [composeAll]
    exact total_pure _
  | cons s rest ih =>
    rw [composeAll]
    exact (h s (by simp)).bind fun _ => (ih fun t ht => h t (by simp [ht])).map _

/-- A property whose comment and name can be written, with a schema that composes. -/
structure Composes (root : String) (p : Property × Schema) : Prop where
  comment : ∃ t, DocComment.ofValue p.1.description = .ok t
  name : ∃ t, p.1.name.plain = .ok t
  type : Total (p.2.compose root)

theorem total_composeFields {ps : List (Property × Schema)} (h : ∀ p ∈ ps, Composes root p) :
    Total (composeFields root ps) := by
  induction ps with
  | nil =>
    rw [composeFields]
    exact total_pure _
  | cons p rest ih =>
    have hp := h p (by simp)
    rw [composeFields]
    exact (total_lift hp.comment).bind fun _ => (total_lift hp.name).bind fun _ =>
      hp.type.bind fun _ => (total_warnIf _ _).bind fun _ => (ih fun q hq => h q (by simp [hq])).map _

theorem composes_propertyAt {e : Scalar × Value} (hk : ∃ s, e.1 = .text s) (hv : e.2.isJson = true)
    (ht : Total ((ofValue e.2.propertyNode).compose root)) : Composes root (propertyAt e) := by
  obtain ⟨hname, _, hschema⟩ := propertyAt_parts e
  obtain ⟨s, hs⟩ := hk
  refine ⟨?_, ⟨s, by rw [hname, hs]; rfl⟩, by rw [hschema]; exact ht⟩
  have ho := Value.opened_json hv
  unfold propertyAt
  cases he : e.2.opened with
  | map entries =>
    rw [ho] at he
    rw [he] at hv
    exact Value.description_json (Value.json_field hv "description")
  | _ => exact ⟨"", rfl⟩

theorem total_primitive {entries : Entries} (kind : Primitive)
    (h : (Variant.ofEntries entries, kind) ∈
      [(Variant.string, Primitive.string), (.number, .number), (.boolean, .boolean)]) :
    Total ((ofValue (.map entries)).compose root) := by
  rw [ofValue_primitive h, compose]
  exact total_pure _

/-- A node of JSON composes if its parts do and, where it is an object, can serve. -/
theorem total_node {entries : Entries} (hj : (Value.map entries).isJson = true)
    (hs : Variant.ofEntries entries = .object → Serves entries)
    (hparts : ∀ v ∈ Value.parts entries, Total ((ofValue v).compose root)) :
    Total ((ofValue (.map entries)).compose root) := by
  have hall : ∀ vs : List Value, vs ⊆ Value.parts entries →
      Total (composeAll root (vs.map ofValue)) := by
    intro vs hvs
    apply total_composeAll
    intro s hmem
    obtain ⟨v, hv, rfl⟩ := List.mem_map.mp hmem
    exact hparts v (hvs hv)
  unfold Value.parts at hall hparts
  cases hv : Variant.ofEntries entries with
  | enumeration =>
    rw [ofValue_enumeration hv, compose]
    exact (total_lift (except_mapM_total fun v hv => Value.literal_json (Value.json_listAt hj hv))).map _
  | oneOf =>
    rw [ofValue_oneOf hv, compose]
    rw [hv] at hall
    exact (hall _ (List.Subset.refl _)).map _
  | anyOf =>
    rw [ofValue_anyOf hv, compose]
    rw [hv] at hall
    exact (hall _ (List.Subset.refl _)).map _
  | object =>
    rw [ofValue_serves hv (hs hv), compose]
    rw [hv] at hall hparts
    have hfields : Total (composeFields root
        (markRequired (requiredAt entries) ((Value.propertiesAt entries).map propertyAt))) := by
      apply total_composeFields
      intro p hp
      obtain ⟨q, hq, rfl⟩ := List.mem_map.mp hp
      obtain ⟨e, he, rfl⟩ := List.mem_map.mp hq
      obtain ⟨hk, hje⟩ := Value.json_properties hj he
      have hc := composes_propertyAt hk hje (hparts _ (by simp [List.mem_map_of_mem he]))
      exact ⟨hc.comment, hc.name, hc.type⟩
    have hrest : Total (composeAdditional root ((Value.additionalAt entries).map ofValue)) := by
      cases ha : Value.additionalAt entries with
      | none =>
        rw [Option.map_none, composeAdditional]
        exact total_pure _
      | some v =>
        rw [Option.map_some, composeAdditional]
        exact (hparts v (by simp [ha])).map _
    split
    · exact total_pure _
    · exact (hall _ (List.subset_append_left _ _)).bind fun _ => hfields.bind fun _ => hrest.map _
  | array =>
    rw [hv] at hall hparts
    cases hi : (Value.field "items" entries).opened with
    | list items =>
      rw [ofValue_tuple hv hi, compose]
      simp only [hi] at hall
      exact (hall _ (List.Subset.refl _)).map _
    | _ =>
      have hne : ∀ items, (Value.field "items" entries).opened ≠ .list items := by
        intro items h
        rw [hi] at h
        cases h
      rw [ofValue_array hv hne, compose]
      simp only [hi, List.mem_singleton, forall_eq] at hparts
      exact hparts.map _
  | reference =>
    rw [ofValue_reference hv, compose]
    exact total_refer _ _
  | string => exact total_primitive .string (by rw [hv]; decide)
  | number => exact total_primitive .number (by rw [hv]; decide)
  | boolean => exact total_primitive .boolean (by rw [hv]; decide)
  | unknown =>
    rw [ofValue_unknown hv, compose]
    exact total_pure _

/-- A schema of JSON composes if every object node visited from it has parts that can serve. -/
theorem total_compose {v : Value} (hj : v.isJson = true)
    (h : ∀ node ∈ v.nodes, Variant.ofEntries node = .object → Serves node) (root : String) :
    Total ((ofValue v).compose root) := by
  -- The parts of a node are made of fewer collections than the node.
  induction hn : v.size using Nat.strongRecOn generalizing v with
  | ind n ih =>
    cases v with
    | scalar s =>
      rw [ofValue_scalar, compose]
      exact total_pure _
    | list items => exact total_pure _
    | map entries =>
      apply total_node hj (h entries (Value.nodes_self entries))
      intro w hw
      have hlt := Value.size_parts hw
      exact ih w.size (by omega) (Value.json_parts hj hw)
        (fun node hm => h node (Value.nodes_part hw hm)) rfl
    | again isMap forms content => cases hj

end Schema

end ApiTypes
