import ApiTypes.Proofs.Schema.Node
import ApiTypes.Proofs.Type.Literal

/-!
# The type that a node means

The type of a node, by its variant, and the types that can be written and read
back at all: their names are words, their indices and field names can stand
between quotes, and none is the tuple of one slot without a type.
-/

set_option autoImplicit false

namespace ApiTypes

namespace TypeText.Tree

def orAny : Tree → Tree
  | .name [] [] => word "any"
  | t => t

def orNull (nullable : Bool) (t : Tree) : Tree := if nullable then .union [t, word "null"] else t

/-- The type of an object from the types it extends, its fields and the type of further ones. -/
def objectOf (bases : List Tree) (fields : List Field) (additional : Option Tree) : Tree :=
  if bases.isEmpty && fields.isEmpty && additional.isNone then .openMap (word "any")
  else intersectionOf (bases ++ (if fields.isEmpty then [] else [.record fields]) ++
    (additional.map fun t => .openMap t.orAny).toList)

def ofPath : List (List Char) → Tree
  | [] => missing
  | head :: rest => .name head (rest.map Reference.unescape)

def ofReference (root ref : String) : Tree :=
  match Reference.target ref with
  | .inside path => ofPath (Text.split '/' (root.toList ++ path))
  | .outside key path => .name "external".toList
      (key :: if path.isEmpty then [] else (Text.split '/' path).map Reference.unescape)

/-- The types whose text can be read back. -/
inductive Legible : Tree → Prop
  | name {head : List Char} {indices : List (List Char)} (hw : Wordlike head)
      (hne : head = [] → indices = []) (hq : ∀ n ∈ indices, Quotable n) : Legible (.name head indices)
  | literal (s : List Char) : Legible (.literal s)
  | union {ts : List Tree} (h : ∀ t ∈ ts, Legible t) : Legible (.union ts)
  | intersection {ts : List Tree} (h : ∀ t ∈ ts, Legible t) : Legible (.intersection ts)
  | partialOf {t : Tree} (h : Legible t) : Legible (.partialOf t)
  | array {t : Tree} (h : Legible t) : Legible (.array t)
  | tuple {ts : List Tree} (h : ∀ t ∈ ts, Legible t) (hne : ts ≠ [.missing]) : Legible (.tuple ts)
  | record {fields : List Field} (hq : ∀ f ∈ fields, Quotable f.1) (h : ∀ f ∈ fields, Legible f.2.2) :
      Legible (.record fields)
  | openMap {t : Tree} (h : Legible t) : Legible (.openMap t)

end TypeText.Tree

namespace Value

open TypeText

def keyName (key : Scalar) : List Char :=
  match key.plain with
  | .ok s => s.toList
  | .error _ => []

def tree (root : String) : Value → Tree
  | .map entries =>
    match Variant.ofEntries entries with
    | .enumeration => .unionOf ((listAt "enum" entries).map .ofLiteral)
    | .oneOf => .unionOf ((listAt "oneOf" entries).attach.map fun v => tree root v.1)
    | .anyOf => .intersectionOf ((listAt "anyOf" entries).attach.map fun v => .partialOf (tree root v.1))
    | .object =>
      let fields := (propertiesAt entries).attach.map fun e =>
        (keyName e.1.1, holdsName (Schema.requiredAt entries) e.1.1,
          Tree.orNull (isNullable e.1.2) (tree root e.1.2.propertyNode))
      let additional := match _h : additionalAt entries with
        | some v => some (tree root v)
        | none => none
      .objectOf ((basesAt entries).attach.map fun v => tree root v.1) fields additional
    | .array =>
      match _h : (field "items" entries).opened with
      | .list items => .tuple (items.attach.map fun v => tree root v.1)
      | _ => .array (tree root (field "items" entries)).orAny
    | .reference => .ofReference root ((Variant.textOf "$ref" entries).getD "")
    | .string => .word "string"
    | .number => .word "number"
    | .boolean => .word "boolean"
    | .unknown => .missing
  | .again _ _ (some v) => tree root v
  | _ => .missing
termination_by v => v.size
decreasing_by
  · exact size_listAt v.2
  · exact size_listAt v.2
  · exact size_propertiesAt e.2
  · exact size_additionalAt _h
  · exact size_basesAt v.2
  · have := size_list _h v.2
    have := size_field "items" entries
    rw [size]
    omega
  · have := size_field "items" entries
    rw [size]
    omega
  · rw [size, sizeContent]
    omega

def fieldTree (root : String) (required : List Scalar) (e : Scalar × Value) : Field :=
  (keyName e.1, holdsName required e.1, Tree.orNull (isNullable e.2) (tree root e.2.propertyNode))

/-- The type of a mapping by its variant, in terms of the types of its parts. -/
def nodeTree (root : String) (entries : Entries) : Tree :=
  match Variant.ofEntries entries with
  | .enumeration => .unionOf ((listAt "enum" entries).map .ofLiteral)
  | .oneOf => .unionOf ((listAt "oneOf" entries).map (tree root))
  | .anyOf => .intersectionOf ((listAt "anyOf" entries).map fun v => .partialOf (tree root v))
  | .object => .objectOf ((basesAt entries).map (tree root))
      ((propertiesAt entries).map (fieldTree root (Schema.requiredAt entries)))
      ((additionalAt entries).map (tree root))
  | .array =>
    match (field "items" entries).opened with
    | .list items => .tuple (items.map (tree root))
    | _ => .array (tree root (field "items" entries)).orAny
  | .reference => .ofReference root ((Variant.textOf "$ref" entries).getD "")
  | .string => .word "string"
  | .number => .word "number"
  | .boolean => .word "boolean"
  | .unknown => .missing

section Variants

variable {root : String} {entries : Entries}

theorem tree_map : tree root (.map entries) = nodeTree root entries := by
  rw [tree, nodeTree]
  cases Variant.ofEntries entries with
  | oneOf => simp only [List.attach_map_val]
  | anyOf => simp only [List.attach_map_val (f := fun v => Tree.partialOf (tree root v))]
  | object =>
    dsimp only
    congr 1
    · exact List.attach_map_val (f := tree root)
    · exact List.attach_map_val (f := fieldTree root (Schema.requiredAt entries))
    · split <;> rename_i ha <;> rw [ha] <;> rfl
  | array =>
    dsimp only
    split
    · rename_i items hi
      rw [hi, List.attach_map_val]
    · rename_i hne
      split
      · rename_i items hi
        exact (hne items hi).elim
      · rfl
  | _ => rfl

theorem tree_enumeration (h : Variant.ofEntries entries = .enumeration) :
    tree root (.map entries) = .unionOf ((listAt "enum" entries).map .ofLiteral) := by
  rw [tree_map, nodeTree, h]

theorem tree_oneOf (h : Variant.ofEntries entries = .oneOf) :
    tree root (.map entries) = .unionOf ((listAt "oneOf" entries).map (tree root)) := by
  rw [tree_map, nodeTree, h]

theorem tree_anyOf (h : Variant.ofEntries entries = .anyOf) :
    tree root (.map entries) =
      .intersectionOf ((listAt "anyOf" entries).map fun v => .partialOf (tree root v)) := by
  rw [tree_map, nodeTree, h]

theorem tree_object (h : Variant.ofEntries entries = .object) :
    tree root (.map entries) = .objectOf ((basesAt entries).map (tree root))
      ((propertiesAt entries).map (fieldTree root (Schema.requiredAt entries)))
      ((additionalAt entries).map (tree root)) := by
  rw [tree_map, nodeTree, h]

theorem tree_tuple (h : Variant.ofEntries entries = .array) {items : List Value}
    (hi : (field "items" entries).opened = .list items) :
    tree root (.map entries) = .tuple (items.map (tree root)) := by
  rw [tree_map, nodeTree, h]
  dsimp only
  rw [hi]

theorem tree_array (h : Variant.ofEntries entries = .array)
    (hi : ∀ items, (field "items" entries).opened ≠ .list items) :
    tree root (.map entries) = .array (tree root (field "items" entries)).orAny := by
  rw [tree_map, nodeTree, h]
  dsimp only
  split
  · rename_i items hi'
    exact (hi items hi').elim
  · rfl

theorem tree_reference (h : Variant.ofEntries entries = .reference) :
    tree root (.map entries) = .ofReference root ((Variant.textOf "$ref" entries).getD "") := by
  rw [tree_map, nodeTree, h]

theorem tree_primitive {kind : Primitive}
    (h : (Variant.ofEntries entries, kind) ∈
      [(Variant.string, Primitive.string), (.number, .number), (.boolean, .boolean)]) :
    tree root (.map entries) = .word kind.word := by
  simp only [List.mem_cons, List.not_mem_nil, Prod.mk.injEq, or_false] at h
  rcases h with ⟨h, rfl⟩ | ⟨h, rfl⟩ | ⟨h, rfl⟩ <;> rw [tree_map, nodeTree, h] <;> rfl

theorem tree_unknown (h : Variant.ofEntries entries = .unknown) :
    tree root (.map entries) = .missing := by
  rw [tree_map, nodeTree, h]

theorem tree_again (isMap : Bool) (forms : List String) (v : Value) :
    tree root (.again isMap forms (some v)) = tree root v := by
  rw [tree]

end Variants

end Value

end ApiTypes
