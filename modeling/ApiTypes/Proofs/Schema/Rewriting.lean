import ApiTypes.Compose.Types
import ApiTypes.Proofs.Schema.Node

/-!
# Rewriting the references of a node

The references in a schema are replaced, and nothing else. The same can be done to the
node that the schema is read from: which of its parts are schemas again depends on the
role of the value and on the variant of the node, and only the text under `$ref` of a
node that is a reference is replaced.
-/

set_option autoImplicit false

namespace ApiTypes

namespace Schema

variable (f : String → String)

mutual

def mapReferences : Schema → Schema
  | .reference ref => .reference (f ref)
  | .oneOf members => .oneOf (mapReferencesAll members)
  | .anyOf members => .anyOf (mapReferencesAll members)
  | .object bases properties additional =>
    .object (mapReferencesAll bases) (mapReferencesFields properties) (mapReferencesOption additional)
  | .tuple items => .tuple (mapReferencesAll items)
  | .array item => .array (mapReferences item)
  | .malformed bases fault => .malformed (mapReferencesAll bases) fault
  | s => s

def mapReferencesAll : List Schema → List Schema
  | [] => []
  | s :: rest => mapReferences s :: mapReferencesAll rest

def mapReferencesFields : List (Property × Schema) → List (Property × Schema)
  | [] => []
  | (p, s) :: rest => (p, mapReferences s) :: mapReferencesFields rest

def mapReferencesOption : Option Schema → Option Schema
  | none => none
  | some s => some (mapReferences s)

end

theorem mapReferencesAll_eq (ss : List Schema) : mapReferencesAll f ss = ss.map (mapReferences f) := by
  induction ss with
  | nil => rw [mapReferencesAll, List.map_nil]
  | cons s rest ih => rw [mapReferencesAll, ih, List.map_cons]

def mapProperty (p : Property × Schema) : Property × Schema := (p.1, p.2.mapReferences f)

theorem mapReferencesFields_eq (ps : List (Property × Schema)) :
    mapReferencesFields f ps = ps.map (mapProperty f) := by
  induction ps with
  | nil => rw [mapReferencesFields, List.map_nil]
  | cons p rest ih => rw [mapReferencesFields, ih, List.map_cons, mapProperty]

theorem mapReferencesOption_eq (s : Option Schema) :
    mapReferencesOption f s = s.map (mapReferences f) := by
  cases s <;> rw [mapReferencesOption] <;> rfl

theorem markRequired_mapProperty (names : List Scalar) (ps : List (Property × Schema)) :
    markRequired names (ps.map (mapProperty f)) = (markRequired names ps).map (mapProperty f) := by
  unfold markRequired
  rw [List.map_map, List.map_map]
  rfl

/-- Every reference is replaced by one that resolves to the same. -/
def Redirects (root root' : String) : Prop :=
  ∀ ref, Compose.refer root' (f ref) = Compose.refer root ref

variable {f} {root root' : String}

mutual

theorem compose_mapReferences (h : Redirects f root root') :
    ∀ s : Schema, (s.mapReferences f).compose root' = s.compose root
  | .unrecognised => by rw [mapReferences, compose, compose] <;> simp
  | .reference ref => by rw [mapReferences, compose, compose, h ref]
  | .primitive kind => by rw [mapReferences, compose, compose] <;> simp
  | .enumeration values => by rw [mapReferences, compose, compose] <;> simp
  | .oneOf members => by
    rw [mapReferences, compose, compose, composeAll_mapReferences h members]
  | .anyOf members => by
    rw [mapReferences, compose, compose, composeAll_mapReferences h members]
  | .object bases properties additional => by
    have hbases : (mapReferencesAll f bases).isEmpty = bases.isEmpty := by
      rw [mapReferencesAll_eq, List.isEmpty_map]
    have hproperties : (mapReferencesFields f properties).isEmpty = properties.isEmpty := by
      rw [mapReferencesFields_eq, List.isEmpty_map]
    have hadditional : (mapReferencesOption f additional).isNone = additional.isNone := by
      rw [mapReferencesOption_eq, Option.isNone_map]
    rw [mapReferences, compose, compose, hbases, hproperties, hadditional,
      composeAll_mapReferences h bases, composeFields_mapReferences h properties,
      composeAdditional_mapReferences h additional]
  | .tuple items => by
    rw [mapReferences, compose, compose, composeAll_mapReferences h items]
  | .array item => by
    rw [mapReferences, compose, compose, compose_mapReferences h item]
  | .malformed bases fault => by
    rw [mapReferences, compose, compose, composeAll_mapReferences h bases]

theorem composeAll_mapReferences (h : Redirects f root root') : ∀ ss : List Schema,
    composeAll root' (mapReferencesAll f ss) = composeAll root ss
  | [] => by rw [mapReferencesAll, composeAll, composeAll]
  | s :: rest => by
    rw [mapReferencesAll, composeAll, composeAll, compose_mapReferences h s,
      composeAll_mapReferences h rest]

theorem composeFields_mapReferences (h : Redirects f root root') : ∀ ps : List (Property × Schema),
    composeFields root' (mapReferencesFields f ps) = composeFields root ps
  | [] => by rw [mapReferencesFields, composeFields, composeFields]
  | (p, s) :: rest => by
    rw [mapReferencesFields, composeFields, composeFields, compose_mapReferences h s,
      composeFields_mapReferences h rest]

theorem composeAdditional_mapReferences (h : Redirects f root root') : ∀ s : Option Schema,
    composeAdditional root' (mapReferencesOption f s) = composeAdditional root s
  | none => by rw [mapReferencesOption, composeAdditional, composeAdditional]
  | some s => by
    rw [mapReferencesOption, composeAdditional, composeAdditional, compose_mapReferences h s]

end

end Schema

/-- What a value is in the node around it, as far as there are schemas in it. -/
inductive Role where
  /-- a node -/
  | node
  /-- the entry of a property, which is a node or wraps one -/
  | entry
  /-- a list of nodes -/
  | members
  /-- a list of nodes, or a node -/
  | items
  /-- a mapping of property entries -/
  | properties
  /-- the text of a reference -/
  | reference
  deriving DecidableEq, Repr

namespace Role

/-- What stands under a key of a node with the given variant, if it counts for that variant. -/
def inNode (v : Variant) (key : Scalar) : Option Role :=
  match v, key with
  | .oneOf, .text "oneOf" => some .members
  | .anyOf, .text "anyOf" => some .members
  | .object, .text "allOf" => some .members
  | .object, .text "properties" => some .properties
  | .object, .text "additionalProperties" => some .node
  | .array, .text "items" => some .items
  | .reference, .text "$ref" => some .reference
  | _, _ => none

def inWrapper : Scalar → Option Role
  | .text "schema" => some .node
  | _ => none

def inMap (entries : Entries) : Role → Scalar → Option Role
  | .node, key => inNode (Variant.ofEntries entries) key
  | .items, key => inNode (Variant.ofEntries entries) key
  | .entry, key =>
    if (Value.field "schema" entries).isNull then inNode (Variant.ofEntries entries) key
    else inWrapper key
  | .properties, _ => some .entry
  | _, _ => none

theorem inMap_entry (entries : Entries) {name : String} (h : name ∈ ["nullable", "description"]) :
    inMap entries .entry (.text name) = none := by
  have hnode : ∀ v : Variant, inNode v (.text name) = none := by
    simp only [List.mem_cons, List.not_mem_nil, or_false] at h
    rcases h with rfl | rfl <;> intro v <;> cases v <;> rfl
  have hwrapper : inWrapper (.text name) = none := by
    simp only [List.mem_cons, List.not_mem_nil, or_false] at h
    rcases h with rfl | rfl <;> rfl
  rw [inMap, hnode, hwrapper, ite_self]

def inList : Role → Option Role
  | .members => some .node
  | .items => some .node
  | _ => none

end Role

namespace Value

variable (f : String → String)

def rewriteScalar : Role → Scalar → Scalar
  | .reference, .text ref => .text (f ref)
  | _, s => s

mutual

def rewrite : Option Role → Value → Value
  | none, v => v
  | some role, .scalar s => .scalar (rewriteScalar f role s)
  | some role, .list items => .list (rewriteItems role.inList items)
  | some role, .map entries => .map (rewriteEntries (role.inMap entries) entries)
  | some role, .again isMap forms content => .again isMap forms (rewriteContent role content)

def rewriteItems (role : Option Role) : List Value → List Value
  | [] => []
  | v :: rest => rewrite role v :: rewriteItems role rest

def rewriteEntries (role : Scalar → Option Role) : List (Scalar × Value) → List (Scalar × Value)
  | [] => []
  | (k, v) :: rest => (k, rewrite (role k) v) :: rewriteEntries role rest

def rewriteContent (role : Role) : Option Value → Option Value
  | none => none
  | some v => some (rewrite (some role) v)

end

theorem rewriteItems_eq (role : Option Role) (items : List Value) :
    rewriteItems f role items = items.map (rewrite f role) := by
  induction items with
  | nil => rw [rewriteItems, List.map_nil]
  | cons v rest ih => rw [rewriteItems, ih, List.map_cons]

theorem rewriteEntries_eq (role : Scalar → Option Role) (entries : Entries) :
    rewriteEntries f role entries = entries.map fun e => (e.1, rewrite f (role e.1) e.2) := by
  induction entries with
  | nil => rw [rewriteEntries, List.map_nil]
  | cons e rest ih => rw [rewriteEntries, ih, List.map_cons]

theorem rewrite_none (v : Value) : rewrite f none v = v := by rw [rewrite]

theorem rewrite_scalar {role : Role} (h : role ≠ .reference) (s : Scalar) :
    rewrite f (some role) (.scalar s) = .scalar s := by
  rw [rewrite, rewriteScalar]
  intro ref hrole
  exact (h hrole).elim

theorem rewrite_opened (role : Role) (v : Value) :
    (rewrite f (some role) v).opened = rewrite f (some role) v.opened := by
  match v with
  | .again _ _ (some v) =>
    rw [rewrite, rewriteContent]
    rfl
  | .again _ _ none => rfl
  | .list items => rfl
  | .map entries => rfl
  | .scalar s => rfl

theorem rewrite_isNull {role : Role} (h : role ≠ .reference) (v : Value) :
    (rewrite f (some role) v).isNull = v.isNull := by
  cases v with
  | scalar s => rw [rewrite_scalar f h]
  | _ => rfl

theorem rewrite_truthy {role : Role} (h : role ≠ .reference) (v : Value) :
    (rewrite f (some role) v).truthy = v.truthy := by
  cases v with
  | scalar s => rw [rewrite_scalar f h]
  | list items => rw [rewrite, rewriteItems_eq, truthy, truthy, List.isEmpty_map]
  | map entries => rw [rewrite, rewriteEntries_eq, truthy, truthy, List.isEmpty_map]
  | again isMap forms content => rfl

theorem get?_rewriteEntries (role : Scalar → Option Role) (name : String) (entries : Entries) :
    Entries.get? name (rewriteEntries f role entries) =
      (Entries.get? name entries).map (rewrite f (role (.text name))) := by
  induction entries with
  | nil => rfl
  | cons e rest ih =>
    obtain ⟨k, v⟩ := e
    unfold Entries.get? at ih ⊢
    rw [rewriteEntries, Entries.find?_cons, Entries.find?_cons, ih]
    by_cases hk : k.same (.text name) = true
    · rw [if_pos hk, if_pos hk, Scalar.same_text.mp hk, Option.map_some]
    · rw [if_neg hk, if_neg hk]

theorem field_rewriteEntries (role : Scalar → Option Role) (name : String) (entries : Entries) :
    field name (rewriteEntries f role entries) = rewrite f (role (.text name)) (field name entries) := by
  unfold field
  rw [get?_rewriteEntries]
  cases Entries.get? name entries with
  | some v => rfl
  | none =>
    cases role (.text name) with
    | none => rfl
    | some r => cases r <;> rfl

theorem field_kept {role : Scalar → Option Role} {name : String} (h : role (.text name) = none)
    (entries : Entries) : field name (rewriteEntries f role entries) = field name entries := by
  rw [field_rewriteEntries, h, rewrite_none]

end Value

namespace Variant

variable (f : String → String) (role : Scalar → Option Role) (name : String) (entries : Entries)

theorem has_rewriteEntries :
    Entries.has name (Value.rewriteEntries f role entries) = Entries.has name entries := by
  unfold Entries.has
  rw [Value.get?_rewriteEntries, Option.isSome_map]

theorem holdsList_rewriteEntries :
    holdsList name (Value.rewriteEntries f role entries) = holdsList name entries := by
  unfold holdsList
  rw [Value.get?_rewriteEntries]
  cases Entries.get? name entries with
  | none => rfl
  | some v =>
    simp only [Option.map_some]
    cases role (.text name) with
    | none => rw [Value.rewrite_none]
    | some r =>
      rw [Value.rewrite_opened]
      cases v.opened <;> rfl

theorem isSome_textOf_rewriteEntries :
    (textOf name (Value.rewriteEntries f role entries)).isSome = (textOf name entries).isSome := by
  unfold textOf
  rw [Value.get?_rewriteEntries]
  cases Entries.get? name entries with
  | none => rfl
  | some v =>
    simp only [Option.map_some]
    cases role (.text name) with
    | none => rw [Value.rewrite_none]
    | some r =>
      cases v with
      | scalar s => cases r <;> cases s <;> rfl
      | _ => rfl

variable {role name}

theorem textOf_kept (h : role (.text name) = none) :
    textOf name (Value.rewriteEntries f role entries) = textOf name entries := by
  unfold textOf
  rw [Value.get?_rewriteEntries, h]
  cases Entries.get? name entries with
  | none => rfl
  | some v => rw [Option.map_some, Value.rewrite_none]

theorem textOf_reference (h : role (.text name) = some .reference) :
    textOf name (Value.rewriteEntries f role entries) = (textOf name entries).map f := by
  unfold textOf
  rw [Value.get?_rewriteEntries, h]
  cases Entries.get? name entries with
  | none => rfl
  | some v =>
    cases v with
    | scalar s => cases s <;> rfl
    | _ => rfl

theorem ofEntries_rewriteEntries (h : role (.text "type") = none) :
    ofEntries (Value.rewriteEntries f role entries) = ofEntries entries := by
  unfold ofEntries
  simp only [holdsList_rewriteEntries, has_rewriteEntries, textOf_kept f entries h,
    isSome_textOf_rewriteEntries]

theorem textOf_isSome {entries : Entries} (h : ofEntries entries = .reference) :
    (textOf "$ref" entries).isSome = true := by
  apply Decidable.byContradiction
  intro hne
  unfold ofEntries ofDeclared at h
  rw [if_neg hne] at h
  repeat' split at h
  all_goals cases h

end Variant

namespace Schema

open Value (rewrite rewriteEntries rewriteItems)

variable (f : String → String)

/-- The rewritten value reads, in each role, as the value with the references of its schemas replaced. -/
structure Follows (v : Value) : Prop where
  node : (rewrite f (some .node) v).reading.schema = v.reading.schema.mapReferences f
  entry : (rewrite f (some .entry) v).reading.entry = v.reading.entry.mapReferences f
  members : (rewrite f (some .members) v).reading.elements =
    v.reading.elements.map (·.map (mapReferences f))
  item : (rewrite f (some .items) v).reading.schema = v.reading.schema.mapReferences f
  items : (rewrite f (some .items) v).reading.elements =
    v.reading.elements.map (·.map (mapReferences f))
  properties : (rewrite f (some .properties) v).reading.properties =
    v.reading.properties.map (·.map (mapProperty f))

theorem map_unrecognised {α : Type} (as : List α) :
    (as.map fun _ => unrecognised).map (mapReferences f) = as.map fun _ => unrecognised := by
  rw [List.map_map]
  rfl

theorem follows_scalar (s : Scalar) : Follows f (.scalar s) := by
  have helements : (Value.scalar s).reading.elements =
      (Value.scalar s).reading.elements.map (·.map (mapReferences f)) := by
    change (Value.scalar s).elements.map _ = ((Value.scalar s).elements.map _).map _
    cases (Value.scalar s).elements with
    | error x => rfl
    | ok vs => exact congrArg Except.ok (map_unrecognised f vs).symm
  constructor <;> rw [Value.rewrite_scalar f (by decide)]
  case members => exact helements
  case items => exact helements
  all_goals rfl

theorem follows_list {items : List Value} (h : ∀ v ∈ items, Follows f v) : Follows f (.list items) := by
  have hitems : items.map ((ofValue ·) ∘ rewrite f (some .node)) =
      items.map (mapReferences f ∘ ofValue) :=
    List.map_congr_left fun v hv => (h v hv).node
  have helements : (Value.list (rewriteItems f (some .node) items)).reading.elements =
      (Value.list items).reading.elements.map (·.map (mapReferences f)) := by
    rw [Value.rewriteItems_eq]
    change (Reading.ofList (Value.readingItems _)).elements =
      (Reading.ofList (Value.readingItems _)).elements.map _
    rw [elements_ofList, elements_ofList, List.map_map]
    exact congrArg Except.ok (hitems.trans List.map_map.symm)
  constructor <;> rw [rewrite]
  case members => exact helements
  case items => exact helements
  all_goals rfl

section Maps

variable {f} {entries : Entries} {role : Scalar → Option Role} {name : String}

theorem part_rewriteEntries :
    part? name (Value.readingEntries (rewriteEntries f role entries)) =
      (Entries.get? name entries).map fun v => (rewrite f (role (.text name)) v).reading := by
  rw [part_reading, Value.get?_rewriteEntries, Option.map_map]
  rfl

variable (h : ∀ e ∈ entries, Follows f e.2)
include h

theorem follows_get? {v : Value} (hv : Entries.get? name entries = some v) : Follows f v :=
  h _ (Entries.mem_of_get? hv)

theorem elementsAt_rewriteEntries (hr : role (.text name) = some .members ∨ role (.text name) = some .items) :
    elementsAt name (Value.readingEntries (rewriteEntries f role entries)) =
      (elementsAt name (Value.readingEntries entries)).map (mapReferences f) := by
  unfold elementsAt
  rw [part_rewriteEntries, part_reading]
  cases hg : Entries.get? name entries with
  | none => rfl
  | some v =>
    have hv := follows_get? h hg
    have helements : (rewrite f (role (.text name)) v).reading.elements =
        v.reading.elements.map (·.map (mapReferences f)) := by
      rcases hr with hr | hr <;> rw [hr]
      · exact hv.members
      · exact hv.items
    simp only [Option.map_some, helements]
    cases v.reading.elements <;> rfl

theorem basesOf_rewriteEntries (hr : role (.text "allOf") = some .members) :
    basesOf (rewriteEntries f role entries) (Value.readingEntries (rewriteEntries f role entries)) =
      (basesOf entries (Value.readingEntries entries)).map (·.map (mapReferences f)) := by
  unfold basesOf
  rw [part_rewriteEntries, part_reading, Value.field_rewriteEntries, hr,
    Value.rewrite_truthy f (by decide)]
  cases hg : Entries.get? "allOf" entries with
  | none => rfl
  | some v =>
    simp only [Option.map_some, (follows_get? h hg).members]
    split <;> rfl

theorem propertiesOf_rewriteEntries (hr : role (.text "properties") = some .properties)
    (hrequired : role (.text "required") = none) :
    propertiesOf (rewriteEntries f role entries) (Value.readingEntries (rewriteEntries f role entries)) =
      (propertiesOf entries (Value.readingEntries entries)).map (·.map (mapProperty f)) := by
  unfold propertiesOf
  rw [part_rewriteEntries, part_reading, Value.field_rewriteEntries, hr,
    Value.rewrite_truthy f (by decide), Value.field_kept f hrequired]
  cases hg : Entries.get? "properties" entries with
  | none => rfl
  | some v =>
    simp only [Option.map_some, (follows_get? h hg).properties]
    split
    · cases requiredNames (Value.field "required" entries) with
      | error x => rfl
      | ok names =>
        cases v.reading.properties with
        | error x => rfl
        | ok ps => exact congrArg Except.ok (markRequired_mapProperty f names ps)
    · rfl

theorem additionalOf_rewriteEntries (hr : role (.text "additionalProperties") = some .node) :
    additionalOf (rewriteEntries f role entries)
        (Value.readingEntries (rewriteEntries f role entries)) =
      (additionalOf entries (Value.readingEntries entries)).map (mapReferences f) := by
  unfold additionalOf
  rw [part_rewriteEntries, part_reading, Value.field_rewriteEntries, hr]
  cases hg : Entries.get? "additionalProperties" entries with
  | none => rw [Value.field, hg]; rfl
  | some v =>
    have hnode := (follows_get? h hg).node
    rw [Value.field, hg, Option.getD_some]
    simp only [Option.map_some, hnode]
    cases v with
    | scalar s =>
      cases s with
      | bool b => cases b <;> rfl
      | _ => rfl
    | _ => rfl

theorem objectOf_rewriteEntries (hv : role = Role.inNode .object) :
    objectOf (rewriteEntries f role entries) (Value.readingEntries (rewriteEntries f role entries)) =
      (objectOf entries (Value.readingEntries entries)).mapReferences f := by
  subst hv
  unfold objectOf
  rw [basesOf_rewriteEntries h rfl, propertiesOf_rewriteEntries h rfl rfl,
    additionalOf_rewriteEntries h rfl]
  cases basesOf entries (Value.readingEntries entries) with
  | error x => rfl
  | ok bases =>
    cases propertiesOf entries (Value.readingEntries entries) with
    | error x => simp only [Except.map, mapReferences, mapReferencesAll_eq]
    | ok ps =>
      simp only [Except.map, mapReferences, mapReferencesAll_eq, mapReferencesFields_eq,
        mapReferencesOption_eq]

theorem arrayOf_rewriteEntries (hv : role = Role.inNode .array) :
    arrayOf (rewriteEntries f role entries) (Value.readingEntries (rewriteEntries f role entries)) =
      (arrayOf entries (Value.readingEntries entries)).mapReferences f := by
  subst hv
  have hitems : Role.inNode .array (.text "items") = some .items := rfl
  unfold arrayOf
  rw [Value.field_rewriteEntries, hitems, Value.rewrite_opened, elementsAt_rewriteEntries h (.inr rfl),
    part_rewriteEntries, part_reading, hitems]
  have hitem : (((Entries.get? "items" entries).map fun v =>
      (rewrite f (some .items) v).reading).map Reading.schema).getD .unrecognised =
      ((((Entries.get? "items" entries).map Value.reading).map Reading.schema).getD
        .unrecognised).mapReferences f := by
    cases hg : Entries.get? "items" entries with
    | none => rfl
    | some v => exact (follows_get? h hg).item
  rw [hitem]
  cases (Value.field "items" entries).opened with
  | list items => simp only [rewrite, mapReferences, mapReferencesAll_eq]
  | scalar s => simp only [rewrite, mapReferences]
  | map es => simp only [rewrite, mapReferences]
  | again isMap forms content => simp only [rewrite, mapReferences]

/-- Only what counts for the variant of a node is rewritten, and the rest stays as it is. -/
theorem ofParts_rewriteEntries (hv : role = Role.inNode (Variant.ofEntries entries)) :
    ofParts (rewriteEntries f role entries) (Value.readingEntries (rewriteEntries f role entries)) =
      (ofParts entries (Value.readingEntries entries)).mapReferences f := by
  have htype : role (.text "type") = none := by
    rw [hv]
    cases Variant.ofEntries entries <;> rfl
  unfold ofParts
  rw [Variant.ofEntries_rewriteEntries f entries htype]
  cases hvariant : Variant.ofEntries entries <;> rw [hvariant] at hv <;> dsimp only
  case enumeration =>
    rw [Value.field_kept f (by rw [hv]; rfl), mapReferences]
    all_goals simp
  case oneOf => rw [elementsAt_rewriteEntries h (.inl (by rw [hv]; rfl)), mapReferences, mapReferencesAll_eq]
  case anyOf => rw [elementsAt_rewriteEntries h (.inl (by rw [hv]; rfl)), mapReferences, mapReferencesAll_eq]
  case object => exact objectOf_rewriteEntries h hv
  case array => exact arrayOf_rewriteEntries h hv
  case reference =>
    obtain ⟨ref, href⟩ := Option.isSome_iff_exists.mp (Variant.textOf_isSome hvariant)
    rw [Variant.textOf_reference f entries (by rw [hv]; rfl), href, mapReferences]
    rfl
  all_goals rfl

end Maps

variable {f}

theorem property_rewrite {v : Value} (h : Follows f v) (name : Scalar) :
    Reading.property name (rewrite f (some .entry) v) (rewrite f (some .entry) v).reading =
      mapProperty f (Reading.property name v v.reading) := by
  unfold Reading.property
  rw [Value.rewrite_opened, h.entry]
  cases v.opened with
  | map es =>
    have hrole : ∀ name ∈ ["nullable", "description"],
        Role.inMap es .entry (.text name) = none := fun _ h => Role.inMap_entry es h
    have hnullable := Value.field_kept f (hrole "nullable" (by simp)) es
    have hdescription := Value.field_kept f (hrole "description" (by simp)) es
    simp only [rewrite, hnullable, hdescription]
    rfl
  | scalar s => rfl
  | list items => rfl
  | again isMap forms content => rfl

theorem wrapped_null {entries : Entries} (h : (Value.field "schema" entries).isNull = true) (own : Schema)
    (parts : List (Scalar × Reading)) : Reading.wrapped own entries parts = own := by
  unfold Reading.wrapped
  simp only [h, if_true]
  cases part? "schema" parts <;> rfl

theorem wrapped_rewriteEntries {entries : Entries} {role : Scalar → Option Role}
    (h : ∀ e ∈ entries, Follows f e.2) (hr : role (.text "schema") = some .node)
    (hnull : (Value.field "schema" entries).isNull = false) (own own' : Schema) :
    Reading.wrapped own' (rewriteEntries f role entries)
        (Value.readingEntries (rewriteEntries f role entries)) =
      (Reading.wrapped own entries (Value.readingEntries entries)).mapReferences f := by
  unfold Reading.wrapped
  rw [part_rewriteEntries, part_reading, Value.field_rewriteEntries, hr,
    Value.rewrite_isNull f (by decide), hnull]
  unfold Value.field at hnull
  cases hg : Entries.get? "schema" entries with
  | none =>
    rw [hg] at hnull
    cases hnull
  | some v => exact (follows_get? h hg).node

theorem follows_map {entries : Entries} (h : ∀ e ∈ entries, Follows f e.2) :
    Follows f (.map entries) := by
  have hnode : (rewrite f (some .node) (.map entries)).reading.schema =
      (Value.map entries).reading.schema.mapReferences f := by
    rw [rewrite]
    exact ofParts_rewriteEntries h rfl
  have hentry : (rewrite f (some .entry) (.map entries)).reading.entry =
      (Value.map entries).reading.entry.mapReferences f := by
    rw [rewrite]
    change Reading.wrapped (ofParts _ (Value.readingEntries _)) _ (Value.readingEntries _) =
      (Reading.wrapped (ofParts _ (Value.readingEntries _)) _ (Value.readingEntries _)).mapReferences f
    by_cases hnull : (Value.field "schema" entries).isNull = true
    · have hrole : Role.inMap entries .entry = Role.inNode (Variant.ofEntries entries) := by
        funext key
        rw [Role.inMap, if_pos hnull]
      have hschema : Role.inNode (Variant.ofEntries entries) (.text "schema") = none := by
        cases Variant.ofEntries entries <;> rfl
      have hkept := Value.field_kept f hschema entries
      rw [hrole, wrapped_null hnull, wrapped_null (by rw [hkept, hnull])]
      exact ofParts_rewriteEntries h rfl
    · have hschema : Role.inMap entries .entry (.text "schema") = some .node := by
        rw [Role.inMap, if_neg hnull]
        rfl
      exact wrapped_rewriteEntries h hschema (Bool.eq_false_iff.mpr hnull) _ _
  have hkeys : ∀ role : Scalar → Option Role,
      (Value.map (rewriteEntries f role entries)).reading.elements =
        (Value.map entries).reading.elements.map (·.map (mapReferences f)) := by
    intro role
    rw [Value.rewriteEntries_eq]
    change Except.ok ((entries.map _).map fun _ => unrecognised) = Except.ok ((entries.map _).map _)
    rw [List.map_map, map_unrecognised]
    rfl
  constructor
  case node => exact hnode
  case entry => exact hentry
  case members => exact hkeys _
  case item => exact hnode
  case items => exact hkeys _
  case properties =>
    rw [rewrite]
    change Except.ok (List.zipWith _ _ (Value.readingEntries _)) =
      Except.ok ((List.zipWith _ _ (Value.readingEntries _)).map _)
    rw [zipWith_readings, zipWith_readings, Value.rewriteEntries_eq, List.map_map, List.map_map]
    refine congrArg Except.ok (List.map_congr_left fun e he => ?_)
    change propertyAt (e.1, rewrite f (some .entry) e.2) = mapProperty f (propertyAt e)
    rw [← propertyAt_eq, property_rewrite (h e he), propertyAt_eq]

theorem follows_again (isMap : Bool) (forms : List String) {content : Option Value}
    (h : ∀ v, content = some v → Follows f v) : Follows f (.again isMap forms content) := by
  cases content with
  | none => constructor <;> cases isMap <;> rfl
  | some v =>
    have hv := h v rfl
    exact ⟨hv.node, hv.entry, hv.members, hv.item, hv.items, hv.properties⟩

mutual

theorem follows : ∀ v : Value, Follows f v
  | .scalar s => follows_scalar f s
  | .list items => follows_list f (follows_items items)
  | .map entries => follows_map (follows_entries entries)
  | .again isMap forms content => follows_again isMap forms (follows_content content)

theorem follows_items : ∀ items : List Value, ∀ v ∈ items, Follows f v
  | [] => by simp
  | v :: rest => List.forall_mem_cons.mpr ⟨follows v, follows_items rest⟩

theorem follows_entries : ∀ entries : List (Scalar × Value), ∀ e ∈ entries, Follows f e.2
  | [] => by simp
  | (_, v) :: rest => List.forall_mem_cons.mpr ⟨follows v, follows_entries rest⟩

theorem follows_content : ∀ content : Option Value, ∀ v, content = some v → Follows f v
  | none => by simp
  | some v => by simpa using follows v

end

end Schema

end ApiTypes
