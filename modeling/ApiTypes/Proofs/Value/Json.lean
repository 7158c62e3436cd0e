import ApiTypes.Compose.Types
import ApiTypes.Proofs.Schema.Node

/-!
# Values as JSON has them

The keys of mappings are texts, integers have a numeral, there are no dates, and no
collection is inside itself. Such a value can be written, and so can all its parts.
-/

set_option autoImplicit false

namespace ApiTypes

def Scalar.isJson : Scalar → Bool
  | .int n => (Numeral.write? n).isSome
  | .date _ => false
  | .moment _ => false
  | _ => true

theorem Scalar.inner_json {s : Scalar} (h : s.isJson = true) : ∃ t, s.inner = .ok t := by
  unfold inner
  split
  case h_3 n =>
    simp only [isJson] at h
    obtain ⟨t, ht⟩ := Option.isSome_iff_exists.mp h
    rw [ht]
    exact ⟨t, rfl⟩
  all_goals exact ⟨_, rfl⟩

theorem Scalar.plain_json {s : Scalar} (h : s.isJson = true) : ∃ t, s.plain = .ok t := by
  unfold plain
  split
  case h_4 => exact inner_json h
  all_goals exact ⟨_, rfl⟩

namespace Value

mutual

def isJson : Value → Bool
  | .scalar s => s.isJson
  | .list items => isJsonItems items
  | .map entries => isJsonEntries entries
  | .again _ _ _ => false

def isJsonItems : List Value → Bool
  | [] => true
  | v :: rest => isJson v && isJsonItems rest

def isJsonEntries : List (Scalar × Value) → Bool
  | [] => true
  | (k, v) :: rest => k.text?.isSome && (isJson v && isJsonEntries rest)

end

theorem isJsonItems_iff {items : List Value} :
    isJsonItems items = true ↔ ∀ v ∈ items, v.isJson = true := by
  induction items with
  | nil => simp [isJsonItems]
  | cons v rest ih => rw [isJsonItems, Bool.and_eq_true, ih, List.forall_mem_cons]

theorem isJsonEntries_iff {entries : Entries} : isJsonEntries entries = true ↔
    ∀ e ∈ entries, (∃ s, e.1 = .text s) ∧ e.2.isJson = true := by
  have htext : ∀ k : Scalar, k.text?.isSome = true ↔ ∃ s, k = .text s := by
    intro k
    cases k <;> simp [Scalar.text?]
  induction entries with
  | nil => simp [isJsonEntries]
  | cons e rest ih =>
    obtain ⟨k, v⟩ := e
    rw [isJsonEntries, Bool.and_eq_true, Bool.and_eq_true, List.forall_mem_cons, and_assoc]
    exact and_congr (htext k) (and_congr Iff.rfl ih)

mutual

theorem innerAt_json (depth : Nat) : ∀ v : Value, v.isJson = true → ∃ t, v.innerAt depth = .ok t
  | .scalar s, h => Scalar.inner_json h
  | .list items, h => by
    obtain ⟨ts, hts⟩ := innerItems_json (depth + 1) items h
    exact ⟨_, by rw [innerAt, hts]; rfl⟩
  | .map entries, h => by
    obtain ⟨ts, hts⟩ := innerEntries_json (depth + 1) entries h
    exact ⟨_, by rw [innerAt, hts]; rfl⟩
  | .again _ _ _, h => by cases h

theorem innerItems_json (depth : Nat) : ∀ items : List Value, isJsonItems items = true →
    ∃ ts, innerItems depth items = .ok ts
  | [], _ => ⟨[], rfl⟩
  | v :: rest, h => by
    rw [isJsonItems, Bool.and_eq_true] at h
    obtain ⟨t, ht⟩ := innerAt_json depth v h.1
    obtain ⟨ts, hts⟩ := innerItems_json depth rest h.2
    exact ⟨t :: ts, by rw [innerItems, ht, hts]; rfl⟩

theorem innerEntries_json (depth : Nat) : ∀ entries : List (Scalar × Value),
    isJsonEntries entries = true → ∃ ts, innerEntries depth entries = .ok ts
  | [], _ => ⟨[], rfl⟩
  | (k, v) :: rest, h => by
    rw [isJsonEntries, Bool.and_eq_true, Bool.and_eq_true] at h
    obtain ⟨s, hs⟩ := Option.isSome_iff_exists.mp h.1
    obtain ⟨t, ht⟩ := innerAt_json depth v h.2.1
    obtain ⟨ts, hts⟩ := innerEntries_json depth rest h.2.2
    have hk : k.inner = .ok (Text.quoted s) := by
      cases k <;> cases hs
      rfl
    exact ⟨(Text.quoted s ++ ": " ++ t) :: ts, by rw [innerEntries, hk, ht, hts]; rfl⟩

end

theorem plain_json {v : Value} (h : v.isJson = true) : ∃ t, v.plain = .ok t := by
  cases v with
  | scalar s => exact Scalar.plain_json h
  | list items => exact innerAt_json 0 _ h
  | map entries => exact innerAt_json 0 _ h
  | again isMap forms content => cases h

theorem description_json {v : Value} (h : v.isJson = true) : ∃ t, DocComment.ofValue v = .ok t := by
  unfold DocComment.ofValue
  split
  · obtain ⟨t, ht⟩ := plain_json h
    exact ⟨_, by rw [ht]; rfl⟩
  · exact ⟨_, rfl⟩

theorem literal_json {v : Value} (h : v.isJson = true) : ∃ t, Expression.literal v = .ok t := by
  obtain ⟨t, ht⟩ := plain_json h
  unfold Expression.literal
  split
  · exact ⟨_, rfl⟩
  · exact ⟨_, rfl⟩
  · exact Scalar.inner_json h
  · exact ⟨_, rfl⟩
  · exact ⟨_, by rw [ht]; rfl⟩

theorem opened_json {v : Value} (h : v.isJson = true) : v.opened = v := by
  cases v with
  | again isMap forms content => cases h
  | _ => rfl

theorem json_map {entries : Entries} : (Value.map entries).isJson = true ↔
    ∀ e ∈ entries, (∃ s, e.1 = .text s) ∧ e.2.isJson = true := isJsonEntries_iff

theorem json_list {items : List Value} : (Value.list items).isJson = true ↔
    ∀ v ∈ items, v.isJson = true := isJsonItems_iff

variable {entries : Entries} {v w : Value} {name : String}

theorem json_get? (h : (Value.map entries).isJson = true) (hv : Entries.get? name entries = some v) :
    v.isJson = true := (json_map.mp h _ (Entries.mem_of_get? hv)).2

theorem json_field (h : (Value.map entries).isJson = true) (name : String) :
    (field name entries).isJson = true := by
  unfold field
  cases hg : Entries.get? name entries with
  | none => rfl
  | some v => exact json_get? h hg

theorem json_listAt (h : (Value.map entries).isJson = true) (hv : v ∈ listAt name entries) :
    v.isJson = true := by
  have hf := json_field h name
  unfold listAt at hv
  rw [opened_json hf] at hv
  split at hv
  · rename_i items hi
    rw [hi] at hf
    exact json_list.mp hf v hv
  · cases hv

theorem json_propertyEntries (h : v.isJson = true) {e : Scalar × Value} (he : e ∈ v.propertyEntries) :
    (∃ s, e.1 = .text s) ∧ e.2.isJson = true := by
  cases v with
  | map entries => exact json_map.mp h e he
  | again isMap forms content => cases h
  | scalar s => cases he
  | list items => cases he

theorem json_propertyNode (h : v.isJson = true) : v.propertyNode.isJson = true := by
  cases v with
  | map entries =>
    rw [propertyNode]
    split
    · exact h
    · exact json_field h "schema"
  | again isMap forms content => cases h
  | scalar s => exact h
  | list items => exact h

end Value

namespace Reference

theorem json_step {v next : Value} {segment : String} (h : v.isJson = true)
    (hstep : step v segment = some next) : next.isJson = true := by
  unfold step at hstep
  rw [Value.opened_json h] at hstep
  split at hstep
  · exact Value.json_get? h hstep
  · obtain ⟨i, _, hi⟩ := Option.bind_eq_some_iff.mp hstep
    exact Value.json_list.mp h _ (List.mem_of_getElem? hi)
  · cases hstep

theorem json_lookup {document v : Value} {ref : String} (h : document.isJson = true)
    (hv : lookup document ref = some v) : v.isJson = true := by
  have hfollow : ∀ (names : List String) (start : Value), start.isJson = true →
      follow start names = some v → v.isJson = true := by
    intro names
    induction names with
    | nil =>
      intro start hstart hend
      cases hend
      exact hstart
    | cons name rest ih =>
      intro start hstart hrest
      obtain ⟨next, hstep, hnext⟩ := Option.bind_eq_some_iff.mp hrest
      exact ih next (json_step hstart hstep) hnext
  unfold lookup at hv
  split at hv
  · exact hfollow _ _ h hv
  · cases hv

end Reference

end ApiTypes
