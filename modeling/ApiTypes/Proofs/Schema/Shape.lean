import ApiTypes.Proofs.Schema.Faulty

/-!
# Well-shaped schemas

A schema is well-shaped if the parts of every object node in it have their kinds, or
are absent. Such a schema composes, whatever its other values are.
-/

set_option autoImplicit false

namespace ApiTypes

open Compose

namespace Value

/-- A mapping, or null, which stands for an absent value as well. -/
def isMapOrNull : Value → Bool
  | .map _ => true
  | v => v.isNull

def isListOrNull : Value → Bool
  | .list _ => true
  | v => v.isNull

def isText : Value → Bool
  | .scalar (.text _) => true
  | _ => false

def isTextOrNull (v : Value) : Bool := v.isText || v.isNull

def isTextsOrNull : Value → Bool
  | .list items => items.all isText
  | v => v.isNull

theorem isText_iff {v : Value} : v.isText = true ↔ ∃ s, v = .scalar (.text s) := by
  constructor
  · intro h
    unfold isText at h
    split at h
    · exact ⟨_, rfl⟩
    · cases h
  · rintro ⟨s, rfl⟩
    rfl

theorem map_of_truthy {v : Value} (h : v.isMapOrNull = true) (ht : v.truthy = true) :
    ∃ entries, v = .map entries := by
  cases v with
  | map entries => exact ⟨entries, rfl⟩
  | scalar s =>
    cases s with
    | null => cases ht
    | _ => cases h
  | _ => cases h

theorem list_of_truthy {v : Value} (h : v.isListOrNull = true) (ht : v.truthy = true) :
    ∃ items, v = .list items := by
  cases v with
  | list items => exact ⟨items, rfl⟩
  | scalar s =>
    cases s with
    | null => cases ht
    | _ => cases h
  | _ => cases h

theorem text_of_truthy {v : Value} (h : v.isTextOrNull = true) (ht : v.truthy = true) :
    ∃ s, v = .scalar (.text s) := by
  cases v with
  | scalar s =>
    cases s with
    | text s => exact ⟨s, rfl⟩
    | null => cases ht
    | _ => cases h
  | _ => cases h

end Value

namespace Schema

/-- The parts of an object node have their kinds. Required names count with properties only. -/
def objectShaped (entries : Entries) : Bool :=
  (Value.field "allOf" entries).isListOrNull && (Value.field "properties" entries).isMapOrNull &&
    (!(Value.field "properties" entries).truthy || (Value.field "required" entries).isTextsOrNull)

def shaped (v : Value) : Bool :=
  v.nodes.all fun node => Variant.ofEntries node ≠ .object || objectShaped node

theorem namesFaulty_texts {v : Value} (h : v.isTextsOrNull = true) : namesFaulty v = false := by
  unfold namesFaulty
  cases v with
  | list items =>
    have hscalar : ∀ w ∈ items, w.isCollection = false := by
      intro w hw
      obtain ⟨s, rfl⟩ := Value.isText_iff.mp (List.all_eq_true.mp h w hw)
      rfl
    simpa [Value.isNull, Value.isIterable, Value.isCollection, Value.members, Value.elements?,
      Value.opened] using hscalar
  | scalar s => rw [show (Value.scalar s).isNull = true from h, Bool.not_true, Bool.false_and]
  | map entries => cases h
  | again isMap forms content => cases h

theorem isFaulty_of_shaped {entries : Entries} (h : objectShaped entries = true) :
    isFaulty entries = false := by
  unfold objectShaped at h
  rw [Bool.and_eq_true, Bool.and_eq_true, Bool.or_eq_true] at h
  obtain ⟨⟨hbases, hproperties⟩, hrequired⟩ := h
  unfold isFaulty
  rw [Bool.or_eq_false_iff]
  constructor
  · cases ht : (Value.field "allOf" entries).truthy with
    | false => rfl
    | true =>
      obtain ⟨items, hi⟩ := Value.list_of_truthy hbases ht
      rw [hi]
      rfl
  · cases ht : (Value.field "properties" entries).truthy with
    | false => rfl
    | true =>
      obtain ⟨es, he⟩ := Value.map_of_truthy hproperties ht
      rw [he, namesFaulty_texts (hrequired.resolve_left (by simp [ht]))]
      rfl

theorem total_shaped {v : Value} (hj : v.isJson = true) (h : shaped v = true) (root : String) :
    Total (composeType root v) := by
  apply total_of_not_meets hj
  rintro ⟨node, hn, hobject, hfaulty⟩
  have hnode := List.all_eq_true.mp h node hn
  rw [hobject] at hnode
  rw [isFaulty_of_shaped (by simpa using hnode)] at hfaulty
  cases hfaulty

end Schema

end ApiTypes
