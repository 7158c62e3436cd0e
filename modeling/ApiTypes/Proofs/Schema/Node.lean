import ApiTypes.Proofs.Outcome
import ApiTypes.Proofs.Value.Entries
import ApiTypes.Schema.Basic

/-!
# What a schema takes from a node

A schema is read from a node together with all its parts at once. Here each kind
of schema is said in terms of the values under the keys of the node, and of the
schemas of those values.
-/

set_option autoImplicit false

namespace ApiTypes

namespace Value

def listAt (name : String) (entries : Entries) : List Value :=
  match (field name entries).opened with
  | .list items => items
  | _ => []

def members : Value → List Value
  | .again _ _ (some v) => members v
  | v => v.elements?.getD []

def propertyEntries : Value → Entries
  | .map entries => entries
  | .again _ _ (some v) => propertyEntries v
  | _ => []

def propertyNode : Value → Value
  | .map entries => if (field "schema" entries).isNull then .map entries else field "schema" entries
  | .again _ _ (some v) => propertyNode v
  | v => v

def isNullable (entry : Value) : Bool :=
  match entry.opened with
  | .map entries => (field "nullable" entries).truthy
  | _ => false

def basesAt (entries : Entries) : List Value :=
  if (field "allOf" entries).truthy then (field "allOf" entries).members else []

def propertiesAt (entries : Entries) : Entries :=
  if (field "properties" entries).truthy then (field "properties" entries).propertyEntries else []

/-- The node of further properties, unless they are not spoken of or ruled out. -/
def additionalAt (entries : Entries) : Option Value :=
  match field "additionalProperties" entries with
  | .scalar .null => none
  | .scalar (.bool false) => none
  | v => some v

mutual

def size : Value → Nat
  | .scalar _ => 0
  | .list items => sizeItems items + 1
  | .map entries => sizeEntries entries + 1
  | .again _ _ content => sizeContent content + 1

def sizeItems : List Value → Nat
  | [] => 0
  | v :: rest => size v + sizeItems rest

def sizeEntries : List (Scalar × Value) → Nat
  | [] => 0
  | (_, v) :: rest => size v + sizeEntries rest

def sizeContent : Option Value → Nat
  | none => 0
  | some v => size v

end

theorem size_item {items : List Value} {v : Value} (h : v ∈ items) : v.size ≤ sizeItems items := by
  induction items with
  | nil => cases h
  | cons w rest ih =>
    rw [sizeItems]
    rcases List.mem_cons.mp h with rfl | h
    · omega
    · have := ih h
      omega

theorem size_entry {entries : Entries} {e : Scalar × Value} (h : e ∈ entries) :
    e.2.size ≤ sizeEntries entries := by
  induction entries with
  | nil => cases h
  | cons f rest ih =>
    rw [sizeEntries]
    rcases List.mem_cons.mp h with rfl | h
    · omega
    · have := ih h
      omega

theorem size_field (name : String) (entries : Entries) :
    (field name entries).size ≤ sizeEntries entries := by
  unfold field
  cases hg : Entries.get? name entries with
  | none => exact Nat.zero_le _
  | some v =>
    obtain ⟨k, _, hk⟩ := Entries.find?_some hg
    exact size_entry hk

theorem size_opened (v : Value) : v.opened.size ≤ v.size := by
  unfold opened
  split
  · rw [size, sizeContent]
    omega
  · omega

theorem size_list {v : Value} {items : List Value} (h : v.opened = .list items) {w : Value}
    (hw : w ∈ items) : w.size < v.size := by
  have hv := size_opened v
  have hi := size_item hw
  rw [h, size] at hv
  omega

theorem size_listAt {name : String} {entries : Entries} {v : Value} (h : v ∈ listAt name entries) :
    v.size < (Value.map entries).size := by
  have hf := size_field name entries
  unfold listAt at h
  split at h
  · rename_i items ho
    have hlt := size_list ho h
    rw [size]
    omega
  · cases h

theorem size_members : ∀ (v : Value) {w : Value}, w ∈ v.members → w.size ≤ v.size
  | .scalar s, w, h => by
    cases s <;> simp_all [members, elements?, opened, text]
    obtain ⟨c, _, rfl⟩ := h
    simp [size]
  | .list items, w, h => by
    have hi : w.size ≤ sizeItems items := size_item (by simpa [members, elements?, opened] using h)
    rw [size]
    omega
  | .map entries, w, h => by
    simp only [members, elements?, opened, Option.getD_some, List.mem_map] at h
    obtain ⟨e, _, rfl⟩ := h
    simp [size]
  | .again _ _ (some v), w, h => by
    have hv := size_members v h
    rw [size, sizeContent]
    omega
  | .again _ _ none, w, h => by cases h

theorem size_basesAt {entries : Entries} {v : Value} (h : v ∈ basesAt entries) :
    v.size < (Value.map entries).size := by
  have hf := size_field "allOf" entries
  unfold basesAt at h
  split at h
  · have hm := size_members _ h
    rw [size]
    omega
  · cases h

theorem size_propertyNode : ∀ v : Value, v.propertyNode.size ≤ v.size
  | .scalar _ => Nat.le_refl _
  | .list _ => Nat.le_refl _
  | .map entries => by
    have hf := size_field "schema" entries
    rw [propertyNode, size]
    split
    · exact Nat.le_of_eq (by rw [size])
    · omega
  | .again _ _ (some v) => by
    have hv := size_propertyNode v
    rw [propertyNode, size, sizeContent]
    omega
  | .again _ _ none => Nat.le_refl _

theorem size_propertyEntries : ∀ (v : Value) {e : Scalar × Value}, e ∈ v.propertyEntries →
    e.2.size < v.size
  | .map entries, e, h => by
    have he : e.2.size ≤ sizeEntries entries := size_entry h
    rw [size]
    omega
  | .again _ _ (some v), e, h => by
    have hv := size_propertyEntries v h
    rw [size, sizeContent]
    omega

theorem size_propertiesAt {entries : Entries} {e : Scalar × Value} (h : e ∈ propertiesAt entries) :
    e.2.propertyNode.size < (Value.map entries).size := by
  have hf := size_field "properties" entries
  have hn := size_propertyNode e.2
  unfold propertiesAt at h
  split at h
  · have hm := size_propertyEntries _ h
    rw [size]
    omega
  · cases h

theorem size_additionalAt {entries : Entries} {v : Value} (h : additionalAt entries = some v) :
    v.size < (Value.map entries).size := by
  have hf := size_field "additionalProperties" entries
  have hv : v = field "additionalProperties" entries := by
    unfold additionalAt at h
    split at h
    · cases h
    · cases h
    · exact (Option.some.inj h).symm
  rw [size, hv]
  omega

theorem readingItems_eq (items : List Value) : readingItems items = items.map reading := by
  induction items with
  | nil => rfl
  | cons v rest ih => rw [readingItems, ih, List.map_cons]

theorem readingEntries_eq (entries : Entries) :
    readingEntries entries = entries.map fun e => (e.1, e.2.reading) := by
  induction entries with
  | nil => rfl
  | cons e rest ih => rw [readingEntries, ih, List.map_cons]

end Value

namespace Schema

theorem part_reading (name : String) (entries : Entries) :
    part? name (Value.readingEntries entries) = (Entries.get? name entries).map Value.reading := by
  rw [Value.readingEntries_eq]
  exact Entries.find?_map Value.reading _ entries

theorem ofValue_scalar (s : Scalar) : ofValue (.scalar s) = .unrecognised := rfl

theorem ofValue_map (entries : Entries) :
    ofValue (.map entries) = ofParts entries (Value.readingEntries entries) := rfl

theorem elements_ofList (items : List Value) :
    (Reading.ofList (Value.readingItems items)).elements = .ok (items.map ofValue) := by
  rw [Value.readingItems_eq]
  simp only [Reading.ofList, List.map_map]
  rfl

theorem elementsAt_list {name : String} {entries : Entries} {items : List Value}
    (h : (Value.field name entries).opened = .list items) :
    elementsAt name (Value.readingEntries entries) = items.map ofValue := by
  unfold elementsAt
  rw [part_reading]
  unfold Value.field at h
  cases hg : Entries.get? name entries with
  | none => rw [hg] at h; cases h
  | some v =>
    rw [hg, Option.getD_some] at h
    have hread : v.reading.elements = .ok (items.map ofValue) := by
      match v, h with
      | .list _, h =>
        cases h
        exact elements_ofList items
      | .again _ _ (some (.list _)), h =>
        cases h
        exact elements_ofList items
    simp only [Option.map_some, hread]

theorem elementsAt_eq {name : String} {entries : Entries} (h : Variant.holdsList name entries = true) :
    elementsAt name (Value.readingEntries entries) = (Value.listAt name entries).map ofValue := by
  have hlist : ∃ items, (Value.field name entries).opened = .list items := by
    unfold Variant.holdsList at h
    unfold Value.field
    cases hg : Entries.get? name entries with
    | none => rw [hg] at h; cases h
    | some v =>
      rw [hg, Option.map_some] at h
      cases ho : v.opened with
      | list items => exact ⟨items, ho⟩
      | _ => rw [ho] at h; cases h
  obtain ⟨items, hi⟩ := hlist
  rw [elementsAt_list hi, Value.listAt, hi]

theorem elements_eq : ∀ (v : Value) {bases : List Schema}, v.reading.elements = .ok bases →
    bases = v.members.map ofValue
  | .scalar (.text s), _, h => by
    cases h
    simp [Value.members, Value.elements?, Value.opened, ofValue_scalar, Value.text]
  | .scalar .null, _, h => by cases h
  | .scalar (.bool _), _, h => by cases h
  | .scalar (.int _), _, h => by cases h
  | .scalar (.float _), _, h => by cases h
  | .scalar (.date _), _, h => by cases h
  | .scalar (.moment _), _, h => by cases h
  | .list items, _, h => by
    have he := elements_ofList items
    rw [show (Value.list items).reading.elements = _ from he] at h
    exact (Except.ok.inj h).symm
  | .map entries, _, h => by
    cases h
    simp only [Value.members, Value.elements?, Value.opened, Option.getD_some, List.map_map]
    rfl
  | .again _ _ (some v), _, h => elements_eq v h
  | .again _ _ none, _, h => by cases h

theorem basesOf_eq {entries : Entries} {bases : List Schema}
    (h : basesOf entries (Value.readingEntries entries) = .ok bases) :
    bases = (Value.basesAt entries).map ofValue := by
  unfold basesOf at h
  rw [part_reading] at h
  unfold Value.basesAt Value.field at *
  cases hg : Entries.get? "allOf" entries with
  | none =>
    rw [hg] at h
    cases h
    rfl
  | some v =>
    rw [hg] at h
    simp only [Option.map_some, Option.getD_some] at h ⊢
    by_cases ht : v.truthy = true
    · rw [if_pos ht] at h
      rw [if_pos ht]
      exact elements_eq v h
    · rw [if_neg ht] at h
      rw [if_neg ht]
      cases h
      rfl

theorem entry_eq : ∀ v : Value, v.reading.entry = ofValue v.propertyNode
  | .scalar _ => rfl
  | .list _ => rfl
  | .map entries => by
    change Reading.wrapped _ entries (Value.readingEntries entries) = _
    unfold Reading.wrapped
    rw [part_reading]
    unfold Value.propertyNode Value.field
    cases hg : Entries.get? "schema" entries with
    | none => rfl
    | some v =>
      simp only [Option.map_some, Option.getD_some]
      split <;> rfl
  | .again _ _ (some v) => entry_eq v
  | .again true _ none => rfl
  | .again false _ none => rfl

def propertyAt (e : Scalar × Value) : Property × Schema :=
  match e.2.opened with
  | .map entries =>
    (⟨e.1, false, (Value.field "nullable" entries).truthy, Value.field "description" entries⟩,
      ofValue e.2.propertyNode)
  | _ => (⟨e.1, false, false, .null⟩, ofValue e.2.propertyNode)

theorem propertyAt_eq (name : Scalar) (v : Value) :
    Reading.property name v v.reading = propertyAt (name, v) := by
  have hentry := entry_eq v
  unfold Reading.property propertyAt
  dsimp only
  cases v.opened <;> exact congrArg (Prod.mk _) hentry

theorem propertyAt_parts (e : Scalar × Value) :
    (propertyAt e).1.name = e.1 ∧ (propertyAt e).1.nullable = e.2.isNullable ∧
      (propertyAt e).2 = ofValue e.2.propertyNode := by
  unfold propertyAt Value.isNullable
  cases e.2.opened <;> exact ⟨rfl, rfl, rfl⟩

theorem zipWith_readings (entries : Entries) :
    List.zipWith (fun e p => Reading.property e.1 e.2 p.2) entries (Value.readingEntries entries) =
      entries.map propertyAt := by
  induction entries with
  | nil => rfl
  | cons e rest ih =>
    rw [Value.readingEntries, List.zipWith_cons_cons, ih, propertyAt_eq, List.map_cons]

theorem properties_eq : ∀ (v : Value) {ps : List (Property × Schema)},
    v.reading.properties = .ok ps → ps = v.propertyEntries.map propertyAt
  | .scalar _, _, h => by cases h
  | .list _, _, h => by cases h
  | .map entries, _, h => by
    have hz := zipWith_readings entries
    rw [show (Value.map entries).reading.properties = .ok _ from rfl, hz] at h
    exact (Except.ok.inj h).symm
  | .again _ _ (some v), _, h => properties_eq v h
  | .again true _ none, _, h => by cases h
  | .again false _ none, _, h => by cases h

def requiredAt (entries : Entries) : List Scalar :=
  match requiredNames (Value.field "required" entries) with
  | .ok names => names
  | .error _ => []

theorem propertiesOf_eq {entries : Entries} {ps : List (Property × Schema)}
    (h : propertiesOf entries (Value.readingEntries entries) = .ok ps) :
    ps = markRequired (requiredAt entries) ((Value.propertiesAt entries).map propertyAt) := by
  unfold propertiesOf at h
  rw [part_reading] at h
  unfold Value.propertiesAt
  cases hg : Entries.get? "properties" entries with
  | none =>
    rw [hg] at h
    cases h
    simp [Value.field, hg, Value.truthy, Value.null, Scalar.truthy, markRequired]
  | some v =>
    have hv : Value.field "properties" entries = v := by rw [Value.field, hg, Option.getD_some]
    rw [hg, hv] at h
    rw [hv]
    simp only [Option.map_some] at h
    by_cases ht : v.truthy = true
    · rw [if_pos ht] at h
      rw [if_pos ht]
      obtain ⟨names, hn, h⟩ := except_bind_ok.mp h
      obtain ⟨read, hr, h⟩ := except_bind_ok.mp h
      rw [← properties_eq v hr]
      unfold requiredAt
      rw [hn]
      exact (Except.ok.inj h).symm
    · rw [if_neg ht] at h
      rw [if_neg ht]
      cases h
      rfl

theorem additionalOf_eq (entries : Entries) :
    additionalOf entries (Value.readingEntries entries) = (Value.additionalAt entries).map ofValue := by
  unfold additionalOf Value.additionalAt
  rw [part_reading]
  unfold Value.field
  cases hg : Entries.get? "additionalProperties" entries with
  | none => rfl
  | some v =>
    simp only [Option.map_some, Option.getD_some]
    cases v with
    | scalar s =>
      cases s with
      | bool b => cases b <;> rfl
      | _ => rfl
    | _ => rfl

section Variants

variable {entries : Entries}

theorem ofDeclared_ne (declared : String) :
    Variant.ofDeclared declared ≠ .oneOf ∧ Variant.ofDeclared declared ≠ .anyOf := by
  unfold Variant.ofDeclared
  split <;> decide

theorem holdsList_of_variant {name : String} {v : Variant}
    (hv : (name, v) = ("oneOf", .oneOf) ∨ (name, v) = ("anyOf", .anyOf))
    (h : Variant.ofEntries entries = v) : Variant.holdsList name entries = true := by
  unfold Variant.ofEntries at h
  apply Decidable.byContradiction
  intro hne
  have hd := ofDeclared_ne
  rcases hv with hv | hv <;> cases hv <;> rw [if_neg hne] at h
  all_goals
    repeat' split at h
    all_goals first | exact (hd _).1 h | exact (hd _).2 h | cases h

theorem ofValue_enumeration (h : Variant.ofEntries entries = .enumeration) :
    ofValue (.map entries) = .enumeration (Value.listAt "enum" entries) := by
  rw [ofValue_map, ofParts, h]
  rfl

theorem ofValue_oneOf (h : Variant.ofEntries entries = .oneOf) :
    ofValue (.map entries) = .oneOf ((Value.listAt "oneOf" entries).map ofValue) := by
  rw [ofValue_map, ofParts, h]
  exact congrArg _ (elementsAt_eq (holdsList_of_variant (.inl rfl) h))

theorem ofValue_anyOf (h : Variant.ofEntries entries = .anyOf) :
    ofValue (.map entries) = .anyOf ((Value.listAt "anyOf" entries).map ofValue) := by
  rw [ofValue_map, ofParts, h]
  exact congrArg _ (elementsAt_eq (holdsList_of_variant (.inr rfl) h))

theorem ofValue_object (h : Variant.ofEntries entries = .object) :
    (∃ bases fault, ofValue (.map entries) = .malformed bases fault) ∨
      ofValue (.map entries) = .object ((Value.basesAt entries).map ofValue)
        (markRequired (requiredAt entries) ((Value.propertiesAt entries).map propertyAt))
        ((Value.additionalAt entries).map ofValue) := by
  rw [ofValue_map, ofParts, h]
  dsimp only
  unfold objectOf
  cases hb : basesOf entries (Value.readingEntries entries) with
  | error fault => exact Or.inl ⟨_, _, rfl⟩
  | ok bases =>
    cases hp : propertiesOf entries (Value.readingEntries entries) with
    | error fault => exact Or.inl ⟨_, _, rfl⟩
    | ok ps =>
      right
      dsimp only
      rw [basesOf_eq hb, propertiesOf_eq hp, additionalOf_eq]

theorem ofValue_tuple (h : Variant.ofEntries entries = .array) {items : List Value}
    (hi : (Value.field "items" entries).opened = .list items) :
    ofValue (.map entries) = .tuple (items.map ofValue) := by
  rw [ofValue_map, ofParts, h]
  dsimp only
  rw [arrayOf, hi]
  exact congrArg _ (elementsAt_list hi)

theorem ofValue_array (h : Variant.ofEntries entries = .array)
    (hi : ∀ items, (Value.field "items" entries).opened ≠ .list items) :
    ofValue (.map entries) = .array (ofValue (Value.field "items" entries)) := by
  rw [ofValue_map, ofParts, h]
  dsimp only
  unfold arrayOf
  split
  · rename_i items hi'
    exact (hi items hi').elim
  · rw [part_reading]
    unfold Value.field
    cases Entries.get? "items" entries <;> rfl

theorem ofValue_reference (h : Variant.ofEntries entries = .reference) :
    ofValue (.map entries) = .reference ((Variant.textOf "$ref" entries).getD "") := by
  rw [ofValue_map, ofParts, h]

theorem ofValue_primitive {kind : Primitive}
    (h : (Variant.ofEntries entries, kind) ∈
      [(Variant.string, Primitive.string), (.number, .number), (.boolean, .boolean)]) :
    ofValue (.map entries) = .primitive kind := by
  simp only [List.mem_cons, List.not_mem_nil, Prod.mk.injEq, or_false] at h
  rcases h with ⟨h, rfl⟩ | ⟨h, rfl⟩ | ⟨h, rfl⟩ <;> rw [ofValue_map, ofParts, h]

theorem ofValue_unknown (h : Variant.ofEntries entries = .unknown) :
    ofValue (.map entries) = .unrecognised := by
  rw [ofValue_map, ofParts, h]

end Variants

end Schema

end ApiTypes
