import ApiTypes.Compose.Types
import ApiTypes.Proofs.Schema.Node

/-!
# Only what governs a node counts

Two nodes are alike if they have the same variant and agree on what stands under the
keys of that variant, at every depth. Alike nodes are composed alike: no other key is
read, be it unknown or one that would govern a node of another variant.
-/

set_option autoImplicit false

namespace ApiTypes

namespace Variant

def keys : Variant → List String
  | .enumeration => ["enum"]
  | .oneOf => ["oneOf"]
  | .anyOf => ["anyOf"]
  | .object => ["allOf", "properties", "required", "additionalProperties"]
  | .array => ["items"]
  | .reference => ["$ref"]
  | .string | .number | .boolean | .unknown => []

theorem textOf_field (name : String) (entries : Entries) : textOf name entries =
    match Value.field name entries with
    | .scalar (.text s) => some s
    | _ => none := by
  unfold textOf Value.field
  cases Entries.get? name entries with
  | none => rfl
  | some v =>
    cases v with
    | scalar s => cases s <;> rfl
    | _ => rfl

end Variant

namespace Value

/-- The entries of a node. A scalar and a list say as little as a mapping without entries. There are
none for a mapping inside itself that is not gone through once more. -/
def nodeEntries? : Value → Option Entries
  | .scalar _ => some []
  | .list _ => some []
  | .map entries => some entries
  | .again _ _ (some v) => nodeEntries? v
  | .again true _ none => none
  | .again false _ none => some []

def describedBy (entry : Value) : Value :=
  match entry.opened with
  | .map entries => field "description" entries
  | _ => null

theorem size_nodeEntries {v : Value} {entries : Entries} (h : v.nodeEntries? = some entries)
    (hne : entries ≠ []) : (Value.map entries).size ≤ v.size := by
  match v, h with
  | .scalar _, rfl => exact (hne rfl).elim
  | .list _, rfl => exact (hne rfl).elim
  | .map _, rfl => exact Nat.le_refl _
  | .again isMap forms (some v), h =>
    have hv := size_nodeEntries (v := v) h hne
    have hagain : (again isMap forms (some v)).size = v.size + 1 := by rw [size, sizeContent]
    omega
  | .again false _ none, rfl => exact (hne rfl).elim

theorem size_items {name : String} {entries : Entries} {items : List Value}
    (h : (field name entries).opened = .list items) {v : Value} (hv : v ∈ items) :
    v.size < (Value.map entries).size := by
  have hf := size_field name entries
  have hlt := size_list h hv
  rw [size]
  omega

theorem size_properties {name : String} {entries properties : Entries}
    (h : (field name entries).opened = .map properties) {e : Scalar × Value} (he : e ∈ properties) :
    e.2.propertyNode.size < (Value.map entries).size := by
  have hf := size_field name entries
  have ho := size_opened (field name entries)
  have hn := size_propertyNode e.2
  have hm := size_entry he
  rw [h, size] at ho
  rw [size]
  omega

end Value

namespace Schema

/-- The value is a node of the given variant, with these entries. -/
structure IsNode (variant : Variant) (v : Value) (entries : Entries) : Prop where
  found : v.nodeEntries? = some entries
  governed : Variant.ofEntries entries = variant

mutual

/-- Two nodes that agree on all that counts for their variant. -/
inductive Alike : Value → Value → Prop
  | equal (v : Value) : Alike v v
  | enumeration {v w : Value} {es es' : Entries} (hv : IsNode .enumeration v es)
      (hw : IsNode .enumeration w es') (values : Value.listAt "enum" es = Value.listAt "enum" es') :
      Alike v w
  | oneOf {v w : Value} {es es' : Entries} (hv : IsNode .oneOf v es) (hw : IsNode .oneOf w es')
      (members : List.Forall₂ Alike (Value.listAt "oneOf" es) (Value.listAt "oneOf" es')) : Alike v w
  | anyOf {v w : Value} {es es' : Entries} (hv : IsNode .anyOf v es) (hw : IsNode .anyOf w es')
      (members : List.Forall₂ Alike (Value.listAt "anyOf" es) (Value.listAt "anyOf" es')) : Alike v w
  | object {v w : Value} {es es' : Entries} (hv : IsNode .object v es) (hw : IsNode .object w es')
      (bases : AlikeBases (Value.field "allOf" es) (Value.field "allOf" es'))
      (properties : AlikeProperties (Value.field "properties" es) (Value.field "properties" es'))
      (required : Value.field "required" es = Value.field "required" es')
      (additional : Option.Rel Alike (Value.additionalAt es) (Value.additionalAt es')) : Alike v w
  | array {v w : Value} {es es' : Entries} (hv : IsNode .array v es) (hw : IsNode .array w es')
      (items : AlikeItems (Value.field "items" es) (Value.field "items" es')) : Alike v w
  | reference {v w : Value} {es es' : Entries} (hv : IsNode .reference v es)
      (hw : IsNode .reference w es') (ref : Variant.textOf "$ref" es = Variant.textOf "$ref" es') :
      Alike v w
  /-- Of a primitive or unknown node nothing but the variant counts. -/
  | bare {v w : Value} {es es' : Entries} {variant : Variant} (hv : IsNode variant v es)
      (hw : IsNode variant w es') (keys : variant.keys = []) : Alike v w

/-- What two objects extend: nothing, the same number of nodes, or one and the same value that may be
of the wrong kind. -/
inductive AlikeBases : Value → Value → Prop
  | absent {v w : Value} (hv : v.truthy = false) (hw : w.truthy = false) : AlikeBases v w
  | lists {v w : Value} {items items' : List Value} (hv : v.opened = .list items)
      (hw : w.opened = .list items') (held : v.truthy = w.truthy)
      (members : List.Forall₂ Alike items items') : AlikeBases v w
  | equal (v : Value) : AlikeBases v v

/-- Two mappings of properties: the same names in the same order, with entries that say the same. -/
inductive AlikeProperties : Value → Value → Prop
  | absent {v w : Value} (hv : v.truthy = false) (hw : w.truthy = false) : AlikeProperties v w
  | mappings {v w : Value} {entries entries' : Entries} (hv : v.opened = .map entries)
      (hw : w.opened = .map entries') (held : v.truthy = w.truthy)
      (members : List.Forall₂ AlikeEntry entries entries') : AlikeProperties v w
  | equal (v : Value) : AlikeProperties v v

inductive AlikeEntry : Scalar × Value → Scalar × Value → Prop
  | of {e e' : Scalar × Value} (name : e.1 = e'.1)
      (description : e.2.describedBy = e'.2.describedBy)
      (nullable : e.2.isNullable = e'.2.isNullable)
      (node : Alike e.2.propertyNode e'.2.propertyNode) : AlikeEntry e e'

/-- The items of two arrays: nothing, lists of nodes, or one node each. -/
inductive AlikeItems : Value → Value → Prop
  | absent {v w : Value} (hv : v.truthy = false) (hw : w.truthy = false)
      (hlist : ∀ items, v.opened ≠ .list items) (hlist' : ∀ items, w.opened ≠ .list items) :
      AlikeItems v w
  | lists {v w : Value} {items items' : List Value} (hv : v.opened = .list items)
      (hw : w.opened = .list items') (members : List.Forall₂ Alike items items') : AlikeItems v w
  | nodes {v w : Value} (hlist : ∀ items, v.opened ≠ .list items)
      (hlist' : ∀ items, w.opened ≠ .list items) (node : Alike v w) : AlikeItems v w

end

theorem ofValue_nodeEntries : ∀ {v : Value} {entries : Entries}, v.nodeEntries? = some entries →
    ofValue v = ofValue (.map entries)
  | .scalar _, _, rfl => rfl
  | .list _, _, rfl => rfl
  | .map _, _, rfl => rfl
  | .again _ _ (some v), _, h => ofValue_nodeEntries (v := v) h
  | .again false _ none, _, rfl => rfl

theorem IsNode.ofValue_eq {variant : Variant} {v : Value} {entries : Entries}
    (h : IsNode variant v entries) : ofValue v = ofValue (.map entries) :=
  ofValue_nodeEntries h.found

theorem IsNode.size_le {variant : Variant} {v : Value} {entries : Entries}
    (h : IsNode variant v entries) (hne : variant ≠ .unknown) : (Value.map entries).size ≤ v.size := by
  apply Value.size_nodeEntries h.found
  rintro rfl
  exact hne h.governed.symm

section Reading

variable {v : Value}

theorem ofValue_falsy (h : v.truthy = false) : ofValue v = .unrecognised := by
  cases v with
  | scalar _ => rfl
  | list _ => rfl
  | map entries =>
    cases entries with
    | nil => rfl
    | cons _ _ => cases h
  | again _ _ _ => cases h

theorem elements_of_list {items : List Value} (h : v.opened = .list items) :
    v.reading.elements = .ok (items.map ofValue) := by
  match v, h with
  | .list _, rfl => exact elements_ofList _
  | .again _ _ (some (.list _)), rfl => exact elements_ofList _

theorem properties_of_map {properties : Entries} (h : v.opened = .map properties) :
    v.reading.properties = .ok (properties.map propertyAt) := by
  match v, h with
  | .map _, rfl => exact congrArg Except.ok (zipWith_readings _)
  | .again _ _ (some (.map _)), rfl => exact congrArg Except.ok (zipWith_readings _)

theorem basesOf_field (entries : Entries) : basesOf entries (Value.readingEntries entries) =
    if (Value.field "allOf" entries).truthy then (Value.field "allOf" entries).reading.elements
    else .ok [] := by
  unfold basesOf
  rw [part_reading]
  unfold Value.field
  cases Entries.get? "allOf" entries <;> rfl

theorem propertiesOf_field (entries : Entries) :
    propertiesOf entries (Value.readingEntries entries) =
      if (Value.field "properties" entries).truthy then do
        let names ← requiredNames (Value.field "required" entries)
        let properties ← (Value.field "properties" entries).reading.properties
        return markRequired names properties
      else .ok [] := by
  unfold propertiesOf
  rw [part_reading]
  have hfield : Value.field "properties" entries =
      (Entries.get? "properties" entries).getD .null := rfl
  rw [hfield]
  cases Entries.get? "properties" entries <;> rfl

theorem propertyAt_alike {e e' : Scalar × Value} (hn : e.1 = e'.1)
    (hd : e.2.describedBy = e'.2.describedBy) (hnull : e.2.isNullable = e'.2.isNullable)
    (h : ofValue e.2.propertyNode = ofValue e'.2.propertyNode) : propertyAt e = propertyAt e' := by
  have hform : ∀ f : Scalar × Value, propertyAt f =
      (⟨f.1, false, f.2.isNullable, f.2.describedBy⟩, ofValue f.2.propertyNode) := by
    intro f
    unfold propertyAt Value.isNullable Value.describedBy
    cases f.2.opened <;> rfl
  rw [hform, hform, hn, hd, hnull, h]

end Reading

section Parts

variable {n : Nat}
  (ih : ∀ {v w : Value}, v.size < n → Alike v w → ofValue v = ofValue w)

include ih

theorem map_alike {items items' : List Value} (h : List.Forall₂ Alike items items')
    (hsize : ∀ v ∈ items, v.size < n) : items.map ofValue = items'.map ofValue := by
  induction h with
  | nil => rfl
  | cons hone _ hrest =>
    obtain ⟨hv, hvs⟩ := List.forall_mem_cons.mp hsize
    rw [List.map_cons, List.map_cons, ih hv hone, hrest hvs]

theorem map_propertyAt_alike {es es' : Entries} (h : List.Forall₂ AlikeEntry es es')
    (hsize : ∀ e ∈ es, e.2.propertyNode.size < n) : es.map propertyAt = es'.map propertyAt := by
  induction h with
  | nil => rfl
  | cons hone _ hrest =>
    obtain ⟨he, hes⟩ := List.forall_mem_cons.mp hsize
    cases hone with
    | of hn hd hnull hnode =>
      rw [List.map_cons, List.map_cons, propertyAt_alike hn hd hnull (ih he hnode), hrest hes]

variable {es es' : Entries} (hes : (Value.map es).size ≤ n)

include hes

theorem listAt_alike {name : String}
    (h : List.Forall₂ Alike (Value.listAt name es) (Value.listAt name es')) :
    (Value.listAt name es).map ofValue = (Value.listAt name es').map ofValue :=
  map_alike ih h fun _ hv => Nat.lt_of_lt_of_le (Value.size_listAt hv) hes

theorem basesOf_alike (h : AlikeBases (Value.field "allOf" es) (Value.field "allOf" es')) :
    basesOf es (Value.readingEntries es) = basesOf es' (Value.readingEntries es') := by
  rw [basesOf_field, basesOf_field]
  generalize hf : Value.field "allOf" es = v at h
  generalize Value.field "allOf" es' = w at h
  cases h with
  | absent hv hw => rw [hv, hw]; rfl
  | lists hv hw held members =>
    have hsize : ∀ u ∈ _, Value.size u < n := fun u hu =>
      Nat.lt_of_lt_of_le (Value.size_items (hf ▸ hv) hu) hes
    rw [held, elements_of_list hv, elements_of_list hw, map_alike ih members hsize]
  | equal => rfl

theorem propertiesOf_alike
    (h : AlikeProperties (Value.field "properties" es) (Value.field "properties" es'))
    (hr : Value.field "required" es = Value.field "required" es') :
    propertiesOf es (Value.readingEntries es) = propertiesOf es' (Value.readingEntries es') := by
  rw [propertiesOf_field, propertiesOf_field, hr]
  generalize hf : Value.field "properties" es = v at h
  generalize Value.field "properties" es' = w at h
  cases h with
  | absent hv hw => rw [hv, hw]; rfl
  | mappings hv hw held members =>
    have hsize : ∀ e : Scalar × Value, e ∈ _ → e.2.propertyNode.size < n := fun e he =>
      Nat.lt_of_lt_of_le (Value.size_properties (hf ▸ hv) he) hes
    rw [held, properties_of_map hv, properties_of_map hw, map_propertyAt_alike ih members hsize]
  | equal => rfl

theorem additionalOf_alike (h : Option.Rel Alike (Value.additionalAt es) (Value.additionalAt es')) :
    additionalOf es (Value.readingEntries es) = additionalOf es' (Value.readingEntries es') := by
  rw [additionalOf_eq, additionalOf_eq]
  generalize hv : Value.additionalAt es = v at h
  generalize Value.additionalAt es' = w at h
  cases h with
  | none => rfl
  | some h => exact congrArg some (ih (Nat.lt_of_lt_of_le (Value.size_additionalAt hv) hes) h)

theorem arrayOf_alike (hv : Variant.ofEntries es = .array) (hw : Variant.ofEntries es' = .array)
    (h : AlikeItems (Value.field "items" es) (Value.field "items" es')) :
    ofValue (.map es) = ofValue (.map es') := by
  generalize hf : Value.field "items" es = v at h
  generalize hf' : Value.field "items" es' = w at h
  cases h with
  | absent hfalse hfalse' hlist hlist' =>
    rw [ofValue_array hv (hf ▸ hlist), ofValue_array hw (hf' ▸ hlist'), hf, hf', ofValue_falsy hfalse,
      ofValue_falsy hfalse']
  | lists hitems hitems' members =>
    have hsize : ∀ u ∈ _, Value.size u < n := fun u hu =>
      Nat.lt_of_lt_of_le (Value.size_items (hf ▸ hitems) hu) hes
    rw [ofValue_tuple hv (hf ▸ hitems), ofValue_tuple hw (hf' ▸ hitems'), map_alike ih members hsize]
  | nodes hlist hlist' node =>
    have hsize : v.size < n := by
      have hle := Value.size_field "items" es
      rw [Value.size, hf] at *
      omega
    rw [ofValue_array hv (hf ▸ hlist), ofValue_array hw (hf' ▸ hlist'), hf, hf', ih hsize node]

end Parts

theorem ofValue_alike {v w : Value} (h : Alike v w) : ofValue v = ofValue w := by
  -- What counts in a node is made of fewer collections than the node.
  induction hn : v.size using Nat.strongRecOn generalizing v w with
  | ind n ih =>
    have ih : ∀ {v w : Value}, v.size < n → Alike v w → ofValue v = ofValue w :=
      fun hlt h => ih _ hlt h rfl
    cases h with
    | equal => rfl
    | enumeration hv hw values =>
      rw [hv.ofValue_eq, hw.ofValue_eq, ofValue_enumeration hv.governed,
        ofValue_enumeration hw.governed, values]
    | oneOf hv hw members =>
      have hes := hn ▸ hv.size_le (by decide)
      rw [hv.ofValue_eq, hw.ofValue_eq, ofValue_oneOf hv.governed, ofValue_oneOf hw.governed,
        listAt_alike ih hes members]
    | anyOf hv hw members =>
      have hes := hn ▸ hv.size_le (by decide)
      rw [hv.ofValue_eq, hw.ofValue_eq, ofValue_anyOf hv.governed, ofValue_anyOf hw.governed,
        listAt_alike ih hes members]
    | object hv hw bases properties required additional =>
      have hes := hn ▸ hv.size_le (by decide)
      rw [hv.ofValue_eq, hw.ofValue_eq, ofValue_map, ofValue_map, ofParts, ofParts, hv.governed,
        hw.governed]
      dsimp only
      rw [objectOf, objectOf, basesOf_alike ih hes bases, propertiesOf_alike ih hes properties required,
        additionalOf_alike ih hes additional]
    | array hv hw items =>
      have hes := hn ▸ hv.size_le (by decide)
      rw [hv.ofValue_eq, hw.ofValue_eq, arrayOf_alike ih hes hv.governed hw.governed items]
    | reference hv hw ref =>
      rw [hv.ofValue_eq, hw.ofValue_eq, ofValue_reference hv.governed, ofValue_reference hw.governed, ref]
    | @bare _ _ _ _ variant hv hw keys =>
      rw [hv.ofValue_eq, hw.ofValue_eq, ofValue_map, ofValue_map, ofParts, ofParts, hv.governed,
        hw.governed]
      cases variant <;> first | rfl | cases keys

end Schema

/-- Alike nodes are composed to the same text or the same fault, and record the same. -/
theorem composeType_alike {v w : Value} (h : Schema.Alike v w) (root : String) (l : Ledger) :
    (composeType root v).exec l = (composeType root w).exec l := by
  unfold composeType
  rw [Schema.ofValue_alike h]

def plainNode : Value :=
  .map [(.text "oneOf", .list [.map [(.text "type", .text "string")],
    .map [(.text "required", .list [.text "a"]),
      (.text "properties", .map [(.text "a", .map [(.text "$ref", .text "#/b")])])]])]

/-- The same with keys of other variants and unknown keys around them, and the node of the property
wrapped in its entry. -/
def crowdedNode : Value :=
  .map [(.text "type", .text "array"), (.text "properties", .scalar (.int 5)),
    (.text "oneOf", .list [.map [(.text "format", .text "date"), (.text "type", .text "string")],
      .map [(.text "title", .text "T"), (.text "items", .list []), (.text "$ref", .text "#/c"),
        (.text "properties", .map [(.text "a", .map [(.text "schema",
          .map [(.text "type", .text "number"), (.text "$ref", .text "#/b")])])]),
        (.text "required", .list [.text "a"])]])]

theorem alike_crowdedNode : Schema.Alike plainNode crowdedNode := by
  have hproperty : Schema.Alike (.map [(.text "$ref", .text "#/b")])
      (.map [(.text "type", .text "number"), (.text "$ref", .text "#/b")]) :=
    .reference ⟨rfl, rfl⟩ ⟨rfl, rfl⟩ rfl
  refine .oneOf ⟨rfl, rfl⟩ ⟨rfl, rfl⟩ (.cons ?_ (.cons ?_ .nil))
  · exact .bare ⟨rfl, rfl⟩ ⟨rfl, rfl⟩ rfl
  · exact .object ⟨rfl, rfl⟩ ⟨rfl, rfl⟩ (.absent rfl rfl)
      (.mappings rfl rfl rfl (.cons (.of rfl rfl rfl hproperty) .nil)) rfl .none

theorem compose_crowdedNode : Schema.Alike plainNode crowdedNode ∧
    (composeType "" crowdedNode).exec .empty = (.ok "(string) | (\x7b \"a\": b;\n \x7d)", .empty) := by
  refine ⟨alike_crowdedNode, ?_⟩
  rw [← composeType_alike alike_crowdedNode]
  rfl

end ApiTypes
