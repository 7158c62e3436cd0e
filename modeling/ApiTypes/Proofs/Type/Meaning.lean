import ApiTypes.Proofs.Outcome
import ApiTypes.Proofs.Type.Legible

/-!
# The text of a node is read as its type

A node whose text is composed has the empty text exactly if no type is known for
it, and its text is read back as its type if that can be written at all.
-/

set_option autoImplicit false

namespace ApiTypes.TypeText

open Compose

/-- What holds of the text of a type. -/
structure Written (text : String) (t : Tree) : Prop where
  empty_iff : text = "" ↔ t = .missing
  reads : t.Legible → Reads text.toList t

theorem ne_empty_of_toList {s : String} (h : s.toList ≠ []) : s ≠ "" := by
  rintro rfl
  exact h rfl

theorem empty_iff_missing {s : String} {t : Tree} (hs : s.toList ≠ []) (ht : t ≠ .missing) :
    s = "" ↔ t = .missing := by
  constructor
  · intro he
    exact (ne_empty_of_toList hs he).elim
  · intro he
    exact (ht he).elim

theorem Tree.legible_of_mem_joinedOf {whole : List Tree → Tree} {empty : String}
    (hwhole : ∀ {ts}, (whole ts).Legible → ∀ t ∈ ts, t.Legible) {ts : List Tree}
    (h : (Tree.joinedOf whole empty ts).Legible) : ∀ t ∈ ts, t.Legible := by
  match ts, h with
  | [], _ => simp
  | [t], h =>
    intro u hu
    rw [List.mem_singleton.mp hu]
    exact h
  | _ :: _ :: _, h => exact hwhole h

theorem Tree.legible_of_mem_unionOf {ts : List Tree} (h : (Tree.unionOf ts).Legible) :
    ∀ t ∈ ts, t.Legible :=
  Tree.legible_of_mem_joinedOf (fun hl => by cases hl with | union hts => exact hts) h

theorem Tree.legible_of_mem_intersectionOf {ts : List Tree} (h : (Tree.intersectionOf ts).Legible) :
    ∀ t ∈ ts, t.Legible :=
  Tree.legible_of_mem_joinedOf (fun hl => by cases hl with | intersection hts => exact hts) h

theorem reads_of_written {texts : List String} {types : List Tree}
    (h : List.Forall₂ Written texts types) (hl : ∀ t ∈ types, t.Legible) :
    List.Forall₂ (fun s t => Reads s.toList t) texts types := by
  induction h with
  | nil => exact .nil
  | cons hw _ ih =>
    exact .cons (hw.reads (hl _ (by simp))) (ih fun t ht => hl t (by simp [ht]))

/-- The text of types put together is empty only if it is that of a single one which is missing. -/
theorem joined_empty_iff {sep empty : String} {whole : List Tree → Tree} (hempty : empty.toList ≠ [])
    (hwhole : ∀ ts, whole ts ≠ .missing) {texts : List String} {types : List Tree}
    (h : List.Forall₂ Written texts types) :
    Expression.joined sep empty texts = "" ↔ Tree.joinedOf whole empty types = .missing := by
  match texts, types, h with
  | [], [], _ =>
    exact empty_iff_missing hempty fun he => hempty (Tree.name.inj he).1
  | [_], [_], .cons h .nil => exact h.empty_iff
  | _ :: _ :: _, _ :: _ :: _, .cons _ (.cons _ _) =>
    exact empty_iff_missing (by simp [Expression.joined]) (hwhole _)

theorem written_union {texts : List String} {types : List Tree}
    (h : List.Forall₂ Written texts types) : Written (Expression.union texts) (Tree.unionOf types) where
  empty_iff := joined_empty_iff (by decide) (fun _ he => by cases he) h
  reads hl := reads_union (reads_of_written h (Tree.legible_of_mem_unionOf hl))

theorem written_intersection {texts : List String} {types : List Tree}
    (h : List.Forall₂ Written texts types) :
    Written (Expression.intersection texts) (Tree.intersectionOf types) where
  empty_iff := joined_empty_iff (by decide) (fun _ he => by cases he) h
  reads hl := reads_intersection (reads_of_written h (Tree.legible_of_mem_intersectionOf hl))

theorem written_partial {text : String} {t : Tree} (h : Written text t) :
    Written (Expression.partialOf text) (.partialOf t) where
  empty_iff := by
    apply empty_iff_missing
    · simp [Expression.partialOf]
    · intro he
      cases he
  reads hl := by
    cases hl with
    | partialOf hl => exact reads_partial (h.reads hl)

theorem written_tuple {texts : List String} {types : List Tree} (h : List.Forall₂ Written texts types) :
    Written (Expression.tuple texts) (.tuple types) where
  empty_iff := by
    apply empty_iff_missing
    · simp [Expression.tuple]
    · intro he
      cases he
  reads hl := by
    cases hl with
    | tuple hl hne => exact reads_tuple (reads_of_written h hl) hne

theorem reads_orAnything {text : String} {t : Tree} (h : Written text t) (hl : t.orAny.Legible) :
    Reads (Expression.orAnything text).toList t.orAny := by
  by_cases ht : t = .missing
  · rw [ht, h.empty_iff.mpr ht]
    exact reads_named "any" (by decide) (by decide)
  · have htext : text ≠ Expression.unconstrained := fun he => ht (h.empty_iff.mp he)
    have htree : t.orAny = t := by
      unfold Tree.orAny
      split
      · exact (ht rfl).elim
      · rfl
    rw [htree] at hl ⊢
    rw [Expression.orAnything, if_neg htext]
    exact h.reads hl

theorem written_array {text : String} {t : Tree} (h : Written text t) :
    Written (Expression.array (Expression.orAnything text)) (.array t.orAny) where
  empty_iff := by
    apply empty_iff_missing
    · simp [Expression.array]
    · intro he
      cases he
  reads hl := by
    cases hl with
    | array hl => exact reads_array (reads_orAnything h hl)

theorem written_openMap {text : String} {t : Tree} (h : Written text t) :
    Written (Expression.openMap (Expression.orAnything text)) (.openMap t.orAny) where
  empty_iff := by
    apply empty_iff_missing
    · simp [Expression.openMap, Expression.braced]
    · intro he
      cases he
  reads hl := by
    cases hl with
    | openMap hl => exact reads_openMap (reads_orAnything h hl)

theorem written_named (w : String) (hw : Wordlike w.toList) (hne : w.toList ≠ []) :
    Written w (Tree.word w) where
  empty_iff := by
    apply empty_iff_missing hne
    intro he
    simp only [Tree.word, Tree.missing, Tree.name.injEq] at he
    exact hne he.1
  reads _ := reads_named w hw hne

theorem written_literal {v : Value} {text : String} (h : Expression.literal v = .ok text) :
    Written text (Tree.ofLiteral v) := by
  rcases literal_form h with ⟨hw, hne, ht⟩ | ⟨s, rfl, ht⟩
  · rw [ht]
    exact written_named text hw hne
  · rw [ht]
    constructor
    · apply empty_iff_missing
      · simp [Expression.textLiteral]
      · intro he
        cases he
    · intro _
      exact reads_textLiteral s

theorem outside_expression (root key path : List Char) :
    (Reference.Target.outside key path).expression root = "external".toList ++
      (key :: if path.isEmpty then [] else (Text.split '/' path).map Reference.unescape).flatMap
        Reference.bracket := by
  have hpath : (if path.isEmpty then [] else Reference.index (Text.split '/' path)) =
      (if path.isEmpty then [] else (Text.split '/' path).map Reference.unescape).flatMap
        Reference.bracket := by
    by_cases hp : path.isEmpty = true
    · rw [if_pos hp, if_pos hp, List.flatMap_nil]
    · rw [if_neg hp, if_neg hp, Reference.index, List.flatMap_map]
  rw [List.flatMap_cons, ← hpath, ← List.append_assoc]
  rfl

theorem expression_form (root ref : String) : ∃ head names,
    (Reference.expression root ref).toList = head ++ names.flatMap Reference.bracket ∧
      Tree.ofReference root ref = .name head names := by
  unfold Reference.expression Tree.ofReference
  rw [String.toList_ofList]
  cases Reference.target ref with
  | inside path =>
    obtain ⟨head, rest, hs⟩ := List.exists_cons_of_ne_nil (Text.split_ne_nil '/' (root.toList ++ path))
    refine ⟨head, rest.map Reference.unescape, ?_, ?_⟩
    · change Reference.address (root.toList ++ path) = _
      simp only [Reference.address, hs, Reference.index, List.flatMap_map]
    · simp only [hs, Tree.ofPath]
  | outside key path => exact ⟨_, _, outside_expression root.toList key path, rfl⟩

theorem written_reference (root ref : String) :
    Written (Reference.expression root ref) (Tree.ofReference root ref) := by
  obtain ⟨head, names, htext, htree⟩ := expression_form root ref
  rw [htree]
  refine ⟨?_, fun hl => ?_⟩
  · rw [← String.toList_inj, htext, String.toList_empty]
    simp only [Tree.missing, Tree.name.injEq, List.append_eq_nil_iff, List.flatMap_eq_nil_iff]
    refine and_congr_right fun _ => ⟨fun h => ?_, fun h => by simp [h]⟩
    exact List.eq_nil_iff_forall_not_mem.mpr fun n hn => by simpa [Reference.bracket] using h n hn
  · cases hl with
    | name hw hne hq =>
      rw [htext]
      exact reads_name hw hne hq

theorem written_nullable {text : String} {t : Tree} (h : Written text t) (nullable : Bool)
    (hl : (Tree.orNull nullable t).Legible) :
    Reads (if nullable then Expression.orNull text else text).toList (Tree.orNull nullable t) := by
  cases nullable with
  | false => exact h.reads hl
  | true =>
    have ht : t.Legible := by
      cases hl with
      | union hl => exact hl t (by simp)
    exact reads_orNull (h.reads ht)

theorem composeAll_ok {root : String} {ss : List Schema} {l l' : Ledger} {texts : List String}
    (h : (Schema.composeAll root ss).exec l = (.ok texts, l')) :
    List.Forall₂ (fun s text => ∃ l l', (s.compose root).exec l = (.ok text, l')) ss texts := by
  induction ss generalizing l texts with
  | nil =>
    rw [Schema.composeAll] at h
    cases h
    exact .nil
  | cons s rest ih =>
    rw [Schema.composeAll] at h
    obtain ⟨text, l₁, hs, h⟩ := exec_bind_ok.mp h
    obtain ⟨texts', l₂, hrest, h⟩ := exec_bind_ok.mp h
    cases h
    exact .cons ⟨l, l₁, hs⟩ (ih hrest)

theorem literals_ok {values : List Value} {texts : List String}
    (h : Expression.literals values = .ok texts) :
    List.Forall₂ Written texts (values.map Tree.ofLiteral) := by
  rw [List.forall₂_map_right_iff]
  exact (except_mapM_ok h).flip.imp fun _ _ => written_literal

theorem closes_description {v : Value} {text : String} (h : DocComment.ofValue v = .ok text) :
    Closes text.toList [] := by
  unfold DocComment.ofValue at h
  split at h
  · obtain ⟨s, _, rfl⟩ := except_map_ok.mp h
    rw [DocComment.render, String.toList_ofList]
    exact closes_comment _
  · cases h
    exact closes_nil

theorem keyName_of_plain {key : Scalar} {name : String} (h : key.plain = .ok name) :
    Value.keyName key = name.toList := by
  rw [Value.keyName, h]

/-- What is said of a node: any text composed for it is read as its type. -/
def Sound (root : String) (v : Value) : Prop :=
  ∀ (l l' : Ledger) (text : String), (composeType root v).exec l = (.ok text, l') →
    Written text (v.tree root)

theorem written_all {root : String} {vs : List Value} (hs : ∀ v ∈ vs, Sound root v)
    {l l' : Ledger} {texts : List String}
    (h : (Schema.composeAll root (vs.map Schema.ofValue)).exec l = (.ok texts, l')) :
    List.Forall₂ Written texts (vs.map (Value.tree root)) := by
  have hall := composeAll_ok h
  rw [List.forall₂_map_left_iff] at hall
  rw [List.forall₂_map_right_iff]
  clear h
  induction hall with
  | nil => exact .nil
  | cons hv _ ih =>
    obtain ⟨l₁, l₂, hv⟩ := hv
    exact .cons (hs _ (by simp) l₁ l₂ _ hv) (ih fun w hw => hs w (by simp [hw]))

theorem readsFields_of_compose {root : String} {names : List Scalar} {es : Entries}
    (hs : ∀ e ∈ es, Sound root e.2.propertyNode) {l l' : Ledger} {text : String}
    (h : (Schema.composeFields root
      (markRequired names (es.map Schema.propertyAt))).exec l = (.ok text, l'))
    (hq : ∀ f ∈ es.map (Value.fieldTree root names), Quotable f.1)
    (hl : ∀ f ∈ es.map (Value.fieldTree root names), f.2.2.Legible) :
    ReadsFields text.toList (es.map (Value.fieldTree root names)) := by
  induction es generalizing l text with
  | nil =>
    simp only [markRequired, List.map_nil, Schema.composeFields] at h
    cases h
    exact readsFields_nil
  | cons e rest ih =>
    obtain ⟨hname, hnull, hschema⟩ := Schema.propertyAt_parts e
    simp only [markRequired, List.map_cons, Schema.composeFields] at h
    obtain ⟨comment, l₁, hc, h⟩ := exec_bind_ok.mp h
    obtain ⟨name, l₂, hn, h⟩ := exec_bind_ok.mp h
    obtain ⟨type, l₃, ht, h⟩ := exec_bind_ok.mp h
    obtain ⟨_, l₄, _, h⟩ := exec_bind_ok.mp h
    obtain ⟨fields, l₅, hrest, h⟩ := exec_bind_ok.mp h
    cases h
    have hcomment := closes_description (exec_lift_ok.mp hc).1
    have hkey : Value.keyName e.1 = name.toList := by
      rw [← keyName_of_plain (exec_lift_ok.mp hn).1, hname]
    rw [hschema] at ht
    have hw : Written type (e.2.propertyNode.tree root) := hs e (by simp) _ _ _ ht
    have hquot : Quotable name.toList := hkey ▸ hq (Value.fieldTree root names e) (by simp)
    have hleg := hl (Value.fieldTree root names e) (by simp)
    have hone := readsFields_one (holdsName names e.1) hcomment hquot
      (written_nullable hw e.2.isNullable hleg)
    have hmore := ih (fun f hf => hs f (by simp [hf])) hrest
      (fun f hf => hq f (by simp [hf])) (fun f hf => hl f (by simp [hf]))
    rw [List.map_cons, Value.fieldTree, hkey, String.toList_append, Property.declare, hnull, hname]
    exact hone.append hmore

theorem written_record {fields : List Field} {text : String}
    (h : (∀ f ∈ fields, Quotable f.1) → (∀ f ∈ fields, f.2.2.Legible) →
      ReadsFields text.toList fields) : Written (Expression.record text) (.record fields) where
  empty_iff := by
    apply empty_iff_missing
    · simp [Expression.record, Expression.braced]
    · intro he
      cases he
  reads hl := by
    cases hl with
    | record hq hl => exact reads_record (h hq hl)

theorem written_openObject : Written Expression.openObject (.openMap (Tree.word "any")) where
  empty_iff := by
    apply empty_iff_missing
    · simp [Expression.openObject, Expression.openMap, Expression.braced]
    · intro he
      cases he
  reads _ := reads_openMap (reads_named "any" (by decide) (by decide))

section Variants

variable {root : String} {entries : Entries}

theorem sound_enumeration (h : Variant.ofEntries entries = .enumeration) :
    Sound root (.map entries) := by
  intro l l' text hc
  rw [composeType, Schema.ofValue_enumeration h, Schema.compose] at hc
  obtain ⟨texts, l₁, ht, hc⟩ := exec_bind_ok.mp hc
  cases hc
  rw [Value.tree_enumeration h]
  exact written_union (literals_ok (exec_lift_ok.mp ht).1)

theorem sound_oneOf (h : Variant.ofEntries entries = .oneOf)
    (hs : ∀ v ∈ Value.listAt "oneOf" entries, Sound root v) : Sound root (.map entries) := by
  intro l l' text hc
  rw [composeType, Schema.ofValue_oneOf h, Schema.compose] at hc
  obtain ⟨texts, l₁, ht, hc⟩ := exec_bind_ok.mp hc
  cases hc
  rw [Value.tree_oneOf h]
  exact written_union (written_all hs ht)

theorem sound_anyOf (h : Variant.ofEntries entries = .anyOf)
    (hs : ∀ v ∈ Value.listAt "anyOf" entries, Sound root v) : Sound root (.map entries) := by
  intro l l' text hc
  rw [composeType, Schema.ofValue_anyOf h, Schema.compose] at hc
  obtain ⟨texts, l₁, ht, hc⟩ := exec_bind_ok.mp hc
  cases hc
  have hall := written_all hs ht
  rw [Value.tree_anyOf h]
  refine written_intersection ?_
  rw [List.forall₂_map_left_iff, List.forall₂_map_right_iff]
  rw [List.forall₂_map_right_iff] at hall
  exact hall.imp fun _ _ => written_partial

theorem sound_additional {v : Option Value} (hs : ∀ w ∈ v, Sound root w) {l l' : Ledger}
    {texts : List String}
    (h : (Schema.composeAdditional root (v.map Schema.ofValue)).exec l = (.ok texts, l')) :
    List.Forall₂ Written texts ((v.map (Value.tree root)).map fun t => .openMap t.orAny).toList := by
  cases v with
  | none =>
    rw [Option.map_none, Schema.composeAdditional] at h
    cases h
    exact .nil
  | some v =>
    rw [Option.map_some, Schema.composeAdditional] at h
    obtain ⟨text, l₁, ht, h⟩ := exec_bind_ok.mp h
    cases h
    exact .cons (written_openMap (hs v rfl _ _ _ ht)) .nil

theorem sound_object (h : Variant.ofEntries entries = .object)
    (hb : ∀ v ∈ Value.basesAt entries, Sound root v)
    (hp : ∀ e ∈ Value.propertiesAt entries, Sound root e.2.propertyNode)
    (ha : ∀ v ∈ Value.additionalAt entries, Sound root v) : Sound root (.map entries) := by
  intro l l' text hc
  rw [composeType] at hc
  rw [Value.tree_object h]
  rcases Schema.ofValue_object h with ⟨bases, fault, ho⟩ | ho
  · rw [ho, Schema.compose] at hc
    obtain ⟨_, _, _, hc⟩ := exec_bind_ok.mp hc
    cases hc
  · rw [ho, Schema.compose] at hc
    have hempty : (((Value.basesAt entries).map Schema.ofValue).isEmpty &&
        (markRequired (Schema.requiredAt entries)
          ((Value.propertiesAt entries).map Schema.propertyAt)).isEmpty &&
        ((Value.additionalAt entries).map Schema.ofValue).isNone) =
        (((Value.basesAt entries).map (Value.tree root)).isEmpty &&
        ((Value.propertiesAt entries).map
          (Value.fieldTree root (Schema.requiredAt entries))).isEmpty &&
        ((Value.additionalAt entries).map (Value.tree root)).isNone) := by
      simp [markRequired]
    unfold Tree.objectOf
    rw [hempty] at hc
    split at hc
    · rename_i he
      rw [if_pos he]
      cases hc
      exact written_openObject
    · rename_i he
      rw [if_neg he]
      obtain ⟨types, l₁, ht, hc⟩ := exec_bind_ok.mp hc
      obtain ⟨fields, l₂, hf, hc⟩ := exec_bind_ok.mp hc
      obtain ⟨rest, l₃, hr, hc⟩ := exec_bind_ok.mp hc
      cases hc
      have hrecord : List.Forall₂ Written
          (Expression.recordOf (markRequired (Schema.requiredAt entries)
            ((Value.propertiesAt entries).map Schema.propertyAt)).isEmpty fields)
          (if ((Value.propertiesAt entries).map
              (Value.fieldTree root (Schema.requiredAt entries))).isEmpty then []
            else [.record ((Value.propertiesAt entries).map
              (Value.fieldTree root (Schema.requiredAt entries)))]) := by
        simp only [Expression.recordOf, markRequired, List.isEmpty_map]
        split
        · exact .nil
        · exact .cons (written_record fun hq hl => readsFields_of_compose hp hf hq hl) .nil
      exact written_intersection
        (List.rel_append (List.rel_append (written_all hb ht) hrecord) (sound_additional ha hr))

theorem sound_tuple (h : Variant.ofEntries entries = .array) {items : List Value}
    (hi : (Value.field "items" entries).opened = .list items) (hs : ∀ v ∈ items, Sound root v) :
    Sound root (.map entries) := by
  intro l l' text hc
  rw [composeType, Schema.ofValue_tuple h hi, Schema.compose] at hc
  obtain ⟨texts, l₁, ht, hc⟩ := exec_bind_ok.mp hc
  cases hc
  rw [Value.tree_tuple h hi]
  exact written_tuple (written_all hs ht)

theorem sound_array (h : Variant.ofEntries entries = .array)
    (hi : ∀ items, (Value.field "items" entries).opened ≠ .list items)
    (hs : Sound root (Value.field "items" entries)) : Sound root (.map entries) := by
  intro l l' text hc
  rw [composeType, Schema.ofValue_array h hi, Schema.compose] at hc
  obtain ⟨item, l₁, ht, hc⟩ := exec_bind_ok.mp hc
  cases hc
  rw [Value.tree_array h hi]
  exact written_array (hs _ _ _ ht)

theorem sound_reference (h : Variant.ofEntries entries = .reference) : Sound root (.map entries) := by
  intro l l' text hc
  rw [composeType, Schema.ofValue_reference h, Schema.compose] at hc
  rw [(refer_ok.mp hc).1, Value.tree_reference h]
  exact written_reference root _

theorem sound_primitive (kind : Primitive)
    (h : (Variant.ofEntries entries, kind) ∈
      [(Variant.string, Primitive.string), (.number, .number), (.boolean, .boolean)]) :
    Sound root (.map entries) := by
  intro l l' text hc
  rw [composeType, Schema.ofValue_primitive h, Schema.compose] at hc
  cases hc
  rw [Value.tree_primitive h]
  cases kind <;> exact written_named _ (by decide) (by decide)

theorem written_unconstrained : Written Expression.unconstrained .missing where
  empty_iff := ⟨fun _ => rfl, fun _ => rfl⟩
  reads _ := reads_missing

end Variants

theorem sound_type (root : String) (v : Value) : Sound root v := by
  -- Members are reached through collections that are opened, so the size carries the induction.
  induction hn : v.size using Nat.strong_induction_on generalizing v with
  | _ n ih =>
    subst hn
    match v with
    | .scalar s | .list items | .again false forms none =>
      intro l l' text hc
      cases hc
      rw [Value.tree]
      · exact written_unconstrained
      all_goals simp
    | .again true forms none =>
      intro l l' text hc
      cases hc
    | .again b forms (some v) =>
      intro l l' text hc
      rw [Value.tree_again]
      refine ih v.size ?_ v rfl _ _ _ hc
      rw [Value.size, Value.sizeContent]
      omega
    | .map entries =>
      have hin : ∀ w : Value, w.size < (Value.map entries).size → Sound root w :=
        fun w hw => ih w.size hw w rfl
      cases h : Variant.ofEntries entries with
      | enumeration => exact sound_enumeration h
      | oneOf => exact sound_oneOf h fun w hw => hin w (Value.size_listAt hw)
      | anyOf => exact sound_anyOf h fun w hw => hin w (Value.size_listAt hw)
      | object =>
        exact sound_object h (fun w hw => hin w (Value.size_basesAt hw))
          (fun e he => hin _ (Value.size_propertiesAt he))
          fun w hw => hin w (Value.size_additionalAt hw)
      | array =>
        have hf := Value.size_field "items" entries
        by_cases hi : ∃ items, (Value.field "items" entries).opened = .list items
        · obtain ⟨items, hi⟩ := hi
          refine sound_tuple h hi fun w hw => hin w ?_
          have := Value.size_list hi hw
          rw [Value.size]
          omega
        · refine sound_array h (fun items he => hi ⟨items, he⟩) (hin _ ?_)
          rw [Value.size]
          omega
      | reference => exact sound_reference h
      | string => exact sound_primitive .string (by simp [h])
      | number => exact sound_primitive .number (by simp [h])
      | boolean => exact sound_primitive .boolean (by simp [h])
      | unknown =>
        intro l l' text hc
        rw [composeType, Schema.ofValue_unknown h] at hc
        cases hc
        rw [Value.tree_unknown h]
        exact written_unconstrained

end ApiTypes.TypeText
