import ApiTypes.Proofs.Compose.Alone
import ApiTypes.Proofs.Reference.Address
import ApiTypes.Proofs.Schema.Governing
import ApiTypes.Proofs.Type.Meaning
import Mathlib.Data.List.TakeWhile

/-!
# Which types are empty

The empty text stands for a node without a recognised shape. A union or an
intersection of one member passes it on, and so does a reference to the document
itself; every other shape has a text of its own. The item of an array and the
value of an open map are never empty, since `any` stands where no type is known.
-/

set_option autoImplicit false

namespace ApiTypes

open Compose

namespace Expression

theorem braced_ne_empty (body : String) : braced body ≠ "" := by
  simp [braced]

theorem openMap_ne_empty (t : String) : openMap t ≠ "" := braced_ne_empty _

theorem record_ne_empty (fields : String) : record fields ≠ "" := braced_ne_empty _

theorem partialOf_ne_empty (t : String) : partialOf t ≠ "" := by
  simp [partialOf]

theorem array_ne_empty (t : String) : array t ≠ "" := by
  simp [array]

theorem tuple_ne_empty (ts : List String) : tuple ts ≠ "" := by
  simp [tuple]

theorem joined_empty {sep empty : String} (hempty : empty ≠ "") {ts : List String} :
    joined sep empty ts = "" ↔ ts = [""] := by
  unfold joined
  split
  · simp [hempty]
  · simp
  · rename_i hone
    exact ⟨fun h => by simp at h, fun h => (hone _ h).elim⟩

theorem union_empty {ts : List String} : union ts = "" ↔ ts = [""] := joined_empty (by decide)

theorem intersection_empty {ts : List String} : intersection ts = "" ↔ ts = [""] :=
  joined_empty (by decide)

theorem literal_ne_empty {v : Value} {t : String} (h : literal v = .ok t) : t ≠ "" := by
  rcases TypeText.literal_form h with ⟨-, hne, -⟩ | ⟨s, rfl, -⟩
  · rintro rfl
    exact hne rfl
  · simp [textLiteral]

/-- A slot that must hold a type holds `any` if the type is empty, and the type otherwise. -/
theorem orAnything_eq (t : String) :
    orAnything t ≠ "" ∧ orAnything t = if t = "" then "any" else t := by
  unfold orAnything unconstrained anything
  split
  · exact ⟨by decide, rfl⟩
  · rename_i h
    exact ⟨h, rfl⟩

end Expression

namespace Reference

/-- A hash with nothing but slashes behind it. -/
def IsBare (ref : String) : Prop := ∃ n, ref.toList = '#' :: List.replicate n '/'

theorem address_empty {path : List Char} (h : path.head? ≠ some '/') :
    address path = [] ↔ path = [] := by
  cases path with
  | nil => exact ⟨fun _ => rfl, fun _ => rfl⟩
  | cons c rest =>
    have hc : c ≠ '/' := fun he => h (by simp [he])
    obtain ⟨piece, others, hs⟩ := List.exists_cons_of_ne_nil (Text.split_ne_nil '/' rest)
    have hsplit : Text.split '/' (c :: rest) = (c :: piece) :: others := by
      rw [Text.split, if_neg hc, hs]
    simp [address, hsplit]

theorem dropWhile_slashes {path : List Char} :
    path.dropWhile (· = '/') = [] ↔ ∃ n, path = List.replicate n '/' := by
  rw [List.dropWhile_eq_nil_iff]
  constructor
  · intro h
    exact ⟨path.length, List.eq_replicate_iff.mpr ⟨rfl, fun c hc => by simpa using h c hc⟩⟩
  · rintro ⟨n, rfl⟩ c hc
    simpa using List.eq_of_mem_replicate hc

theorem expression_empty {root ref : String} (hroot : root = "" ∨ root = "schemas/") :
    expression root ref = "" ↔ root = "" ∧ IsBare ref := by
  have hchars : expression root ref = "" ↔ (target ref).expression root.toList = [] := by
    unfold expression
    generalize (target ref).expression root.toList = cs
    rw [String.ofList_eq_empty_iff]
  rw [hchars, IsBare, target]
  by_cases hinside : ref.toList.head? = some '#'
  · obtain ⟨path, hpath⟩ := List.head?_eq_some_iff.mp hinside
    have hbare : (∃ n, '#' :: path = '#' :: List.replicate n '/') ↔
        path.dropWhile (· = '/') = [] := by
      rw [dropWhile_slashes]
      simp
    have hhead : (path.dropWhile (· = '/')).head? ≠ some '/' := fun h => by
      have hnot := List.head?_dropWhile_not (· = '/') path
      rw [h] at hnot
      simp at hnot
    rw [hpath, hbare]
    change address (root.toList ++ path.dropWhile (· = '/')) = [] ↔ _
    rcases hroot with rfl | rfl
    · rw [String.toList_empty, List.nil_append, address_empty hhead]
      simp
    · rw [address_empty (by simp)]
      simp
  · obtain ⟨key, path, htarget⟩ : ∃ key path, Target.ofChars ref.toList = .outside key path :=
      ⟨_, _, ofChars_outside hinside⟩
    rw [htarget]
    constructor
    · intro h
      obtain ⟨hslot, -⟩ := List.append_eq_nil_iff.mp h
      exact absurd (List.append_eq_nil_iff.mp hslot).1 (by decide)
    · rintro ⟨_, n, hn⟩
      have hhead : ref.toList.head? = some '#' := by rw [hn, List.head?_cons]
      exact (hinside hhead).elim

end Reference

namespace Schema

variable {root : String}

theorem composeAll_result {ss : List Schema} {ts : List String}
    (h : (composeAll root ss).result = .ok ts) :
    List.Forall₂ (fun s t => (s.compose root).result = .ok t) ss ts := by
  have hall := TypeText.composeAll_ok (Prod.ext h rfl)
  exact hall.imp fun s t ⟨l, l', hrun⟩ => (result_of_exec (additive_compose s) hrun).1

theorem singleton_empty {ss : List Schema} {ts : List String}
    (h : (composeAll root ss).result = .ok ts) :
    ts = [""] ↔ ∃ s, ss = [s] ∧ (s.compose root).result = .ok "" := by
  have hall := composeAll_result h
  constructor
  · rintro rfl
    cases hall with
    | cons hs hnil =>
      cases hnil
      exact ⟨_, rfl, hs⟩
  · rintro ⟨s, rfl, hs⟩
    cases hall with
    | cons ht hnil =>
      cases hnil
      cases hs.symm.trans ht
      rfl

/-- The item of an array or the value of an open map: the type, or `any` if that is empty. -/
def Fills (inner slot : String) : Prop := slot ≠ "" ∧ slot = if inner = "" then "any" else inner

theorem oneOf_empty {ss : List Schema} {text : String}
    (h : ((Schema.oneOf ss).compose root).result = .ok text) :
    text = "" ↔ ∃ s, ss = [s] ∧ (s.compose root).result = .ok "" := by
  rw [compose] at h
  obtain ⟨ts, hall, h⟩ := (result_bind_ok fun _ => closed_additive.pure _).mp h
  cases h
  rw [Expression.union_empty, singleton_empty hall]

theorem reference_empty {ref text : String} (hroot : root = "" ∨ root = "schemas/")
    (h : ((Schema.reference ref).compose root).result = .ok text) :
    text = "" ↔ root = "" ∧ Reference.IsBare ref := by
  rw [compose] at h
  obtain ⟨rfl, -⟩ := refer_ok.mp (Prod.ext h rfl)
  exact Reference.expression_empty hroot

theorem enumeration_ne_empty {values : List Value} {text : String}
    (h : ((Schema.enumeration values).compose root).result = .ok text) : text ≠ "" := by
  rw [compose] at h
  obtain ⟨ts, hts, h⟩ := (result_bind_ok fun _ => closed_additive.pure _).mp h
  cases h
  rw [Compose.result, exec_lift] at hts
  intro hempty
  rw [Expression.union_empty] at hempty
  obtain ⟨v, -, hv⟩ := except_mapM_mem hts (b := "") (by simp [hempty])
  exact Expression.literal_ne_empty hv rfl

theorem anyOf_ne_empty {ss : List Schema} {text : String}
    (h : ((Schema.anyOf ss).compose root).result = .ok text) : text ≠ "" := by
  rw [compose] at h
  obtain ⟨ts, -, h⟩ := (result_bind_ok fun _ => closed_additive.pure _).mp h
  cases h
  intro hempty
  rw [Expression.intersection_empty] at hempty
  obtain ⟨t, -, ht⟩ := List.map_eq_singleton_iff.mp hempty
  exact Expression.partialOf_ne_empty t ht

theorem tuple_ne_empty {ss : List Schema} {text : String}
    (h : ((Schema.tuple ss).compose root).result = .ok text) : text ≠ "" := by
  rw [compose] at h
  obtain ⟨ts, -, h⟩ := (result_bind_ok fun _ => closed_additive.pure _).mp h
  cases h
  exact Expression.tuple_ne_empty ts

theorem array_result {s : Schema} {text : String}
    (h : ((Schema.array s).compose root).result = .ok text) :
    ∃ inner slot, (s.compose root).result = .ok inner ∧ Fills inner slot ∧
      text = Expression.array slot := by
  rw [compose] at h
  obtain ⟨inner, hs, h⟩ := (result_bind_ok fun _ => closed_additive.pure _).mp h
  cases h
  exact ⟨inner, _, hs, Expression.orAnything_eq inner, rfl⟩

/-- What the further properties of an object come to: nothing, or an open map. -/
inductive AdditionalText (root : String) : Option Schema → List String → Prop
  | none : AdditionalText root none []
  | some {s : Schema} {inner slot : String} (text : (s.compose root).result = .ok inner)
      (fills : Fills inner slot) : AdditionalText root (some s) [Expression.openMap slot]

theorem additional_result {s : Option Schema} {ts : List String}
    (h : (composeAdditional root s).result = .ok ts) : AdditionalText root s ts := by
  cases s with
  | none =>
    rw [composeAdditional] at h
    cases h
    exact .none
  | some s =>
    rw [composeAdditional] at h
    obtain ⟨inner, hs, h⟩ := (result_bind_ok fun _ => closed_additive.pure _).mp h
    cases h
    exact .some hs (Expression.orAnything_eq inner)

/-- An object without any parts is open; the others are the intersection of their parts. -/
theorem object_result {bases : List Schema} {ps : List (Property × Schema)} {s : Option Schema}
    {text : String} (h : ((Schema.object bases ps s).compose root).result = .ok text) :
    (bases = [] ∧ ps = [] ∧ s = none ∧ text = Expression.openMap "any") ∨
      ∃ ts fields rest, (composeAll root bases).result = .ok ts ∧ AdditionalText root s rest ∧
        text = Expression.intersection (ts ++ Expression.recordOf ps.isEmpty fields ++ rest) := by
  rw [compose] at h
  split at h
  · rename_i hnone
    simp only [Bool.and_eq_true, List.isEmpty_iff, Option.isNone_iff_eq_none] at hnone
    cases h
    exact .inl ⟨hnone.1.1, hnone.1.2, hnone.2, rfl⟩
  · obtain ⟨ts, hbases, h⟩ := (result_bind_ok fun _ =>
      closed_additive.bind (additive_composeFields ps) fun _ =>
        closed_additive.map (additive_composeAdditional s) _).mp h
    obtain ⟨fields, -, h⟩ := (result_bind_ok fun _ =>
      closed_additive.map (additive_composeAdditional s) _).mp h
    obtain ⟨rest, hrest, h⟩ := (result_bind_ok fun _ => closed_additive.pure _).mp h
    cases h
    exact .inr ⟨ts, fields, rest, hbases, additional_result hrest, rfl⟩

/-- The text of an object is empty if it is that of a single base and there is nothing else. -/
theorem object_empty {bases : List Schema} {ps : List (Property × Schema)} {s : Option Schema}
    {text : String} (h : ((Schema.object bases ps s).compose root).result = .ok text) :
    text = "" ↔
      ps = [] ∧ s = none ∧ ∃ base, bases = [base] ∧ (base.compose root).result = .ok "" := by
  rcases object_result h with ⟨rfl, rfl, rfl, rfl⟩ | ⟨ts, fields, rest, hbases, hrest, rfl⟩
  · refine iff_of_false (Expression.openMap_ne_empty _) ?_
    rintro ⟨-, -, base, hbase, -⟩
    cases hbase
  · -- A record or an open map beside the bases would be a member that is not empty.
    have hmember : ∀ {ts : List String} {t : String}, t ∈ ts → t ≠ "" → ts ≠ [""] := by
      rintro ts t ht hne rfl
      exact hne (List.mem_singleton.mp ht)
    rw [Expression.intersection_empty]
    cases hrest with
    | @some _ _ slot _ _ =>
      have hopen : Expression.openMap slot ∈
          ts ++ Expression.recordOf ps.isEmpty fields ++ [Expression.openMap slot] := by
        simp
      refine iff_of_false (hmember hopen (Expression.openMap_ne_empty _)) ?_
      rintro ⟨-, hnone, -⟩
      cases hnone
    | none =>
      cases ps with
      | cons p ps =>
        have hrecord : Expression.record fields ∈
            ts ++ Expression.recordOf (p :: ps).isEmpty fields ++ [] := by
          simp [Expression.recordOf]
        refine iff_of_false (hmember hrecord (Expression.record_ne_empty _)) ?_
        rintro ⟨hnil, -, -⟩
        cases hnil
      | nil =>
        rw [List.isEmpty_nil, Expression.recordOf, if_pos rfl, List.append_nil, List.append_nil,
          singleton_empty hbases]
        exact ⟨fun hone => ⟨rfl, rfl, hone⟩, fun hone => hone.2.2⟩

theorem malformed_fails {bases : List Schema} {fault : Fault} {text : String}
    (h : ((Schema.malformed bases fault).compose root).result = .ok text) : False := by
  rw [compose] at h
  obtain ⟨_, -, h⟩ := (result_bind_ok fun _ => closed_additive.throw _).mp h
  cases h

theorem ofValue_object_result {entries : Entries} {text : String}
    (hv : Variant.ofEntries entries = .object)
    (h : ((ofValue (.map entries)).compose root).result = .ok text) :
    ofValue (.map entries) = .object ((Value.basesAt entries).map ofValue)
      (markRequired (requiredAt entries) ((Value.propertiesAt entries).map propertyAt))
      ((Value.additionalAt entries).map ofValue) := by
  rcases ofValue_object hv with ⟨bases, fault, hmalformed⟩ | hobject
  · rw [hmalformed] at h
    exact (malformed_fails h).elim
  · exact hobject

/-- An object node that comes to a type has no properties only where they are absent or do not
hold: other properties are a mapping with entries, as a mapping inside itself has some. -/
theorem propertiesAt_nil_iff {entries : Entries} {text : String}
    (hv : Variant.ofEntries entries = .object)
    (h : ((ofValue (.map entries)).compose root).result = .ok text)
    (hself : ∀ isMap forms content, Value.field "properties" entries =
      .again isMap forms (some content) → content.propertyEntries ≠ []) :
    Value.propertiesAt entries = [] ↔ (Value.field "properties" entries).truthy = false := by
  have hparts : ∃ ps, propertiesOf entries (Value.readingEntries entries) = .ok ps := by
    rw [ofValue_map, ofParts, hv] at h
    unfold objectOf at h
    dsimp only at h
    split at h
    · exact (malformed_fails h).elim
    · split at h
      · exact (malformed_fails h).elim
      · exact ⟨_, ‹_›⟩
  obtain ⟨ps, hps⟩ := hparts
  rw [propertiesOf_field] at hps
  unfold Value.propertiesAt
  generalize Value.field "properties" entries = v at hps hself ⊢
  by_cases ht : v.truthy = true
  · rw [if_pos ht] at hps
    rw [if_pos ht, ht]
    obtain ⟨names, -, hps⟩ := except_bind_ok.mp hps
    obtain ⟨read, hread, -⟩ := except_bind_ok.mp hps
    cases v with
    | scalar _ => cases hread
    | list _ => cases hread
    | map es =>
      cases es with
      | nil => cases ht
      | cons e es => simp [Value.propertyEntries]
    | again isMap forms content =>
      cases content with
      | none => cases isMap <;> cases hread
      | some content => exact iff_of_false (hself isMap forms content rfl) Bool.noConfusion
  · simp [ht]

theorem nodeEntries_of_result : ∀ {v : Value} {text : String},
    (composeType root v).result = .ok text → ∃ entries, v.nodeEntries? = some entries
  | .scalar _, _, _ => ⟨_, rfl⟩
  | .list _, _, _ => ⟨_, rfl⟩
  | .map entries, _, _ => ⟨entries, rfl⟩
  | .again _ _ (some v), _, h => nodeEntries_of_result (v := v) h
  | .again false _ none, _, _ => ⟨_, rfl⟩
  | .again true _ none, _, h => by
    have hmalformed : ((Schema.malformed [] .endless).compose root).result = .ok _ := h
    exact (malformed_fails hmalformed).elim

/-- What a node of each variant says if its type is empty. -/
def BlankAt (root : String) (entries : Entries) : Variant → Prop
  | .unknown => True
  | .reference => root = "" ∧ Reference.IsBare ((Variant.textOf "$ref" entries).getD "")
  | .oneOf => ∃ m, Value.listAt "oneOf" entries = [m] ∧ (composeType root m).result = .ok ""
  | .object => Value.propertiesAt entries = [] ∧ Value.additionalAt entries = none ∧
      ∃ m, Value.basesAt entries = [m] ∧ (composeType root m).result = .ok ""
  | _ => False

theorem single_ofValue {vs : List Value} {t : String} :
    (∃ s, vs.map ofValue = [s] ∧ (s.compose root).result = .ok t) ↔
      ∃ v, vs = [v] ∧ (composeType root v).result = .ok t := by
  constructor
  · rintro ⟨s, hs, ht⟩
    obtain ⟨v, rfl, rfl⟩ := List.map_eq_singleton_iff.mp hs
    exact ⟨v, rfl, ht⟩
  · rintro ⟨v, rfl, ht⟩
    exact ⟨ofValue v, rfl, ht⟩

theorem markRequired_nil {names : List Scalar} {es : Entries} :
    markRequired names (es.map propertyAt) = [] ↔ es = [] := by
  simp [markRequired]

theorem array_ne_empty {entries : Entries} {text : String} (hv : Variant.ofEntries entries = .array)
    (h : ((ofValue (.map entries)).compose root).result = .ok text) : text ≠ "" := by
  by_cases hlist : ∃ items, (Value.field "items" entries).opened = .list items
  · obtain ⟨items, hitems⟩ := hlist
    rw [ofValue_tuple hv hitems] at h
    exact tuple_ne_empty h
  · rw [ofValue_array hv fun items hi => hlist ⟨items, hi⟩] at h
    obtain ⟨inner, slot, -, -, rfl⟩ := array_result h
    exact Expression.array_ne_empty slot

theorem primitive_ne_empty {entries : Entries} {text : String} (kind : Primitive)
    (hkind : (Variant.ofEntries entries, kind) ∈
      [(Variant.string, Primitive.string), (.number, .number), (.boolean, .boolean)])
    (h : ((ofValue (.map entries)).compose root).result = .ok text) : text ≠ "" := by
  rw [ofValue_primitive hkind, compose] at h
  cases h
  cases kind <;> decide

theorem empty_iff_blankAt {entries : Entries} {text : String}
    (hroot : root = "" ∨ root = "schemas/")
    (h : ((ofValue (.map entries)).compose root).result = .ok text) :
    text = "" ↔ BlankAt root entries (Variant.ofEntries entries) := by
  cases hv : Variant.ofEntries entries with
  | unknown =>
    rw [ofValue_unknown hv, compose] at h
    cases h
    exact ⟨fun _ => trivial, fun _ => rfl⟩
  | reference =>
    rw [ofValue_reference hv] at h
    exact reference_empty hroot h
  | oneOf =>
    rw [ofValue_oneOf hv] at h
    rw [oneOf_empty h, single_ofValue]
    rfl
  | object =>
    rw [ofValue_object_result hv h] at h
    rw [object_empty h, single_ofValue, markRequired_nil, Option.map_eq_none_iff]
    rfl
  | enumeration =>
    rw [ofValue_enumeration hv] at h
    exact iff_of_false (enumeration_ne_empty h) id
  | anyOf =>
    rw [ofValue_anyOf hv] at h
    exact iff_of_false (anyOf_ne_empty h) id
  | array => exact iff_of_false (array_ne_empty hv h) id
  | string => exact iff_of_false (primitive_ne_empty .string (by simp [hv]) h) id
  | number => exact iff_of_false (primitive_ne_empty .number (by simp [hv]) h) id
  | boolean => exact iff_of_false (primitive_ne_empty .boolean (by simp [hv]) h) id

/-- The slots of a node that must hold a type: the item of an array that is no tuple, and the value
of an open map. The properties of an object are without entries exactly if they do not hold, as a
mapping inside itself has entries. -/
structure Slots (root : String) (entries : Entries) (text : String) : Prop where
  item : Variant.ofEntries entries = .array →
    (∀ items, (Value.field "items" entries).opened ≠ .list items) →
      ∃ inner slot, (composeType root (Value.field "items" entries)).result = .ok inner ∧
        Fills inner slot ∧ text = Expression.array slot
  additional : Variant.ofEntries entries = .object → ∀ node ∈ Value.additionalAt entries,
    ∃ inner slot members, (composeType root node).result = .ok inner ∧ Fills inner slot ∧
      text = Expression.intersection (members ++ [Expression.openMap slot])
  bare : Variant.ofEntries entries = .object → Value.basesAt entries = [] →
    Value.propertiesAt entries = [] → Value.additionalAt entries = none →
      text = Expression.openMap "any"
  properties : Variant.ofEntries entries = .object →
    (∀ isMap forms content, Value.field "properties" entries = .again isMap forms (some content) →
      content.propertyEntries ≠ []) →
        (Value.propertiesAt entries = [] ↔ (Value.field "properties" entries).truthy = false)

theorem slots_of_result {entries : Entries} {text : String}
    (h : ((ofValue (.map entries)).compose root).result = .ok text) : Slots root entries text := by
  constructor
  case item =>
    intro hv hlist
    rw [ofValue_array hv hlist] at h
    exact array_result h
  case additional =>
    intro hv node hnode
    rw [ofValue_object_result hv h, Option.mem_def.mp hnode] at h
    rcases object_result h with ⟨-, -, hnone, -⟩ | ⟨ts, fields, rest, -, hrest, rfl⟩
    · cases hnone
    · cases hrest with
      | some hinner hfills => exact ⟨_, _, _, hinner, hfills, rfl⟩
  case bare =>
    intro hv hbases hproperties hadditional
    rw [ofValue_object_result hv h, hbases, hproperties, hadditional] at h
    rw [markRequired_nil.mpr rfl] at h
    cases h
    rfl
  case properties => exact fun hv hself => propertiesAt_nil_iff hv h hself

/-- A text that is composed for a node is empty exactly if the node is unrecognised, is a bare
reference without a root, or passes on the empty text of the only member that it has. The item of an
array and the value of an open map are `any` wherever their own text is empty. -/
theorem empty_text_iff (hroot : root = "" ∨ root = "schemas/") {v : Value} {l l' : Ledger}
    {text : String} (h : (composeType root v).exec l = (.ok text, l')) :
    ∃ entries, v.nodeEntries? = some entries ∧
      (text = "" ↔ BlankAt root entries (Variant.ofEntries entries)) ∧ Slots root entries text := by
  obtain ⟨hresult, -⟩ := result_of_exec (additive_compose (ofValue v)) h
  obtain ⟨entries, hentries⟩ := nodeEntries_of_result hresult
  rw [ofValue_nodeEntries hentries] at hresult
  exact ⟨entries, hentries, empty_iff_blankAt hroot hresult, slots_of_result hresult⟩

/-- An object with a single base, which has a single alternative: a bare reference. -/
def passedOn : Entries :=
  [(.text "allOf", .list [.map [(.text "oneOf", .list [.map [(.text "$ref", .text "#//")]])]]),
    (.text "properties", .map []), (.text "additionalProperties", .scalar (.bool false))]

theorem passedOn_empty : (composeType "" (.map passedOn)).exec .empty = (.ok "", .empty) ∧
    BlankAt "" passedOn (Variant.ofEntries passedOn) := by
  have hrun : (composeType "" (.map passedOn)).exec .empty = (.ok "", .empty) := rfl
  obtain ⟨entries, hentries, hblank, -⟩ := empty_text_iff (.inl rfl) hrun
  cases hentries
  exact ⟨hrun, hblank.mp rfl⟩

example : (composeType "" (.map [(.text "additionalProperties",
    .map [(.text "items", .map [(.text "$ref", .text "#//")])])])).exec .empty =
      (.ok "\x7b [key: string]: (any)[] \x7d", .empty) := rfl

end Schema

end ApiTypes
