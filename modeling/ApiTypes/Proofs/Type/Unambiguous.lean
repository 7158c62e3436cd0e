import ApiTypes.Proofs.Type.Meaning

/-!
# The text of a type stands for one type

The text composed for a node is read as the type of the node, if that type can be
written. So two nodes with the same text have the same type.

Names are written as they are. A name with a quote in it can make one field look
like two, and a tuple with one empty slot looks like the tuple without any.
-/

set_option autoImplicit false

namespace ApiTypes.TypeText

def composed? (root : String) (v : Value) : Option String :=
  match (composeType root v).exec .empty with
  | (.ok text, _) => some text
  | _ => none

theorem exec_of_composed {root text : String} {v : Value} (h : composed? root v = some text) :
    ∃ l, (composeType root v).exec .empty = (.ok text, l) := by
  unfold composed? at h
  split at h
  · rename_i t l he
    cases h
    exact ⟨l, he⟩
  · cases h

/-- The text composed for a node is read as its type, and stands for no other type. -/
theorem read_composeType {root text : String} {v : Value} {l l' : Ledger}
    (hc : (composeType root v).exec l = (.ok text, l')) (hl : (v.tree root).Legible) :
    Tree.read text.toList = some (v.tree root) ∧
      ∀ (w : Value) (m m' : Ledger), (composeType root w).exec m = (.ok text, m') →
        (w.tree root).Legible → w.tree root = v.tree root := by
  have hread : ∀ (w : Value) (m m' : Ledger), (composeType root w).exec m = (.ok text, m') →
      (w.tree root).Legible → Tree.read text.toList = some (w.tree root) := by
    intro w m m' hw hwl
    exact ((sound_type root w m m' text hw).reads hwl).read
  have hv := hread v l l' hc hl
  refine ⟨hv, fun w m m' hw hwl => ?_⟩
  have heq : some (w.tree root) = some (v.tree root) := (hread w m m' hw hwl).symm.trans hv
  exact Option.some.inj heq

def fieldsNode (required : List Value) (fields : Entries) : Value :=
  .map [(.text "required", .list required), (.text "properties", .map fields)]

theorem tree_fieldsNode (required : List Value) (first : Scalar × Value) (rest : Entries) :
    (fieldsNode required (first :: rest)).tree "" = .record ((first :: rest).map
      (Value.fieldTree "" (Schema.requiredAt [(.text "required", .list required),
        (.text "properties", .map (first :: rest))]))) := by
  rw [fieldsNode, Value.tree_object rfl]
  rfl

/-- A required field with a remark about quotes, that is one of two words or null. -/
def modeNode : Value :=
  fieldsNode [.text "mode"] [(.text "mode", .map [(.text "nullable", .scalar (.bool true)),
    (.text "description", .text "\"on\" */ or 'off';"),
    (.text "enum", .list [.text "it's", .scalar .null])])]

def modeTree : Tree :=
  .record [("mode".toList, true, .union [.union [.literal "it's".toList, .word "null"], .word "null"])]

theorem tree_modeNode : modeNode.tree "" = modeTree := by
  rw [modeNode, tree_fieldsNode, List.map_singleton, Value.fieldTree, Value.propertyNode,
    if_pos (by decide), Value.tree_enumeration (by decide)]
  rfl

theorem legible_modeTree : modeTree.Legible := by
  have hnull : (Tree.word "null").Legible := .name (by decide) (by decide) (by simp)
  have hwords : (Tree.union [.literal "it's".toList, .word "null"]).Legible := by
    refine .union ?_
    simp only [List.mem_cons, List.not_mem_nil, or_false, forall_eq_or_imp, forall_eq]
    exact ⟨.literal _, hnull⟩
  refine .record (by decide) ?_
  simp only [List.mem_singleton, forall_eq]
  refine .union ?_
  simp only [List.mem_cons, List.not_mem_nil, or_false, forall_eq_or_imp, forall_eq]
  exact ⟨hwords, hnull⟩

theorem read_modeNode : (modeNode.tree "").Legible ∧ ∃ text l,
    (composeType "" modeNode).exec .empty = (.ok text, l) ∧
      Tree.read text.toList = some (modeNode.tree "") := by
  have hl : (modeNode.tree "").Legible := tree_modeNode ▸ legible_modeTree
  have hc : composed? "" modeNode =
      some "\x7b /** \"on\" *\\/ or 'off'; */\n\"mode\": (('it\\'s') | (null)) | null;\n \x7d" := by
    decide +kernel
  obtain ⟨l, he⟩ := exec_of_composed hc
  exact ⟨hl, _, l, he, (read_composeType he hl).1⟩

def splitName : Value :=
  fieldsNode [] [(.text "a\"?: string;\n\"b", .map [(.text "type", .text "string")])]

def twoNames : Value :=
  fieldsNode [] [(.text "a", .map [(.text "type", .text "string")]),
    (.text "b", .map [(.text "type", .text "string")])]

def itemsNode (items : List Value) : Value := .map [(.text "items", .list items)]

/-- A name with a quote in it, and a slot without a type, make different types look alike. -/
theorem one_text_two_types :
    (∃ text, composed? "" splitName = some text ∧ composed? "" twoNames = some text ∧
      splitName.tree "" ≠ twoNames.tree "") ∧
    (∃ text, composed? "" (itemsNode [.map []]) = some text ∧ composed? "" (itemsNode []) = some text ∧
      (itemsNode [.map []]).tree "" ≠ (itemsNode []).tree "") := by
  refine ⟨⟨"\x7b \"a\"?: string;\n\"b\"?: string;\n \x7d", by decide +kernel, by decide +kernel, ?_⟩,
    ⟨"[]", by decide +kernel, by decide +kernel, ?_⟩⟩
  · intro h
    rw [splitName, twoNames, tree_fieldsNode, tree_fieldsNode] at h
    cases h
  · intro h
    rw [itemsNode, itemsNode, Value.tree_tuple rfl rfl, Value.tree_tuple rfl rfl] at h
    cases h

end ApiTypes.TypeText
