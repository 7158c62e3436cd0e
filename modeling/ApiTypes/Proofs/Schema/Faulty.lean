import ApiTypes.Proofs.Schema.Visited

/-!
# Schemas that do not compose

A schema of JSON composes unless a faulty object node is visited from it: one with bases
that cannot be gone through, with properties that are no mapping, or with properties and
required names that are no names. No other value in a schema ends in a fault.
-/

set_option autoImplicit false

namespace ApiTypes

open Compose

namespace Value

def isMap : Value → Bool
  | .map _ => true
  | _ => false

def isCollection : Value → Bool
  | .scalar _ => false
  | _ => true

def isIterable : Value → Bool
  | .scalar (.text _) => true
  | v => v.isCollection

theorem elements_json {v : Value} (h : v.isJson = true) :
    (∃ items, v.elements = .ok items) ↔ v.isIterable = true := by
  cases v with
  | scalar s => cases s <;> simp [elements, elements?, opened, isIterable, isCollection]
  | list items => simp [elements, elements?, opened, isIterable, isCollection]
  | map entries => simp [elements, elements?, opened, isIterable, isCollection]
  | again isMap forms content => cases h

theorem members_json {v : Value} (h : v.isJson = true) {items : List Value}
    (hi : v.elements = .ok items) : v.members = items := by
  have hsome := elements_ok hi
  cases v with
  | again isMap forms content => cases h
  | _ => simp [members, hsome]

theorem asKey_iff {v : Value} : (∃ key, v.asKey = .ok key) ↔ v.isCollection = false := by
  cases v <;> simp [asKey, isCollection]

theorem json_nodes {v : Value} (h : v.isJson = true) {node : Entries} (hn : node ∈ v.nodes) :
    (Value.map node).isJson = true := by
  -- The parts of a node are made of fewer collections than the node.
  induction hs : v.size using Nat.strongRecOn generalizing v with
  | ind n ih =>
    cases v with
    | scalar s => simp [nodes] at hn
    | list items => simp [nodes] at hn
    | map entries =>
      rw [nodes_map] at hn
      rcases List.mem_cons.mp hn with rfl | hn
      · exact h
      · obtain ⟨w, hw, hn⟩ := List.mem_flatMap.mp hn
        have hlt := size_parts hw
        exact ih w.size (by omega) (json_parts h hw) hn rfl
    | again isMap forms content => cases h

end Value

namespace Schema

def namesFaulty (required : Value) : Bool :=
  !required.isNull && (!required.isIterable || required.members.any Value.isCollection)

/-- Does an object node have a part that cannot serve? A part that does not hold counts as absent,
and required names count with properties only. -/
def isFaulty (node : Entries) : Bool :=
  (Value.field "allOf" node).truthy && !(Value.field "allOf" node).isIterable ||
    (Value.field "properties" node).truthy &&
      (!(Value.field "properties" node).isMap || namesFaulty (Value.field "required" node))

/-- A faulty object node is visited from the value. -/
def MeetsFaulty (v : Value) : Prop :=
  ∃ node ∈ v.nodes, Variant.ofEntries node = .object ∧ isFaulty node = true

instance (v : Value) : Decidable (MeetsFaulty v) :=
  inferInstanceAs (Decidable (∃ node ∈ v.nodes, Variant.ofEntries node = .object ∧ isFaulty node = true))

theorem elements_iff {v : Value} (h : v.isJson = true) :
    (∃ members, v.reading.elements = .ok members) ↔ v.isIterable = true := by
  rw [← Value.elements_json h]
  cases v with
  | scalar s => cases s <;> simp [Value.reading, Reading.ofScalar, Value.elements, Value.elements?,
      Value.opened, Except.map]
  | list items => simp [Value.reading, Reading.ofList, Value.elements, Value.elements?, Value.opened]
  | map entries => simp [Value.reading, Reading.ofMap, Value.elements, Value.elements?, Value.opened]
  | again isMap forms content => cases h

theorem properties_iff {v : Value} (h : v.isJson = true) :
    (∃ ps, v.reading.properties = .ok ps) ↔ v.isMap = true := by
  cases v with
  | scalar s => simp [Value.reading, Reading.ofScalar, Value.isMap]
  | list items => simp [Value.reading, Reading.ofList, Value.isMap]
  | map entries => simp [Value.reading, Reading.ofMap, Value.isMap]
  | again isMap forms content => cases h

theorem requiredNames_iff {v : Value} (h : v.isJson = true) :
    (∃ names, requiredNames v = .ok names) ↔ namesFaulty v = false := by
  unfold requiredNames namesFaulty
  by_cases hnull : v.isNull = true
  · simp [hnull]
  · rw [if_neg hnull]
    constructor
    · rintro ⟨names, hn⟩
      obtain ⟨items, hi, hkeys⟩ := except_bind_ok.mp hn
      have hiterable := (Value.elements_json h).mp ⟨items, hi⟩
      have hscalar : ∀ w ∈ items, w.isCollection = false :=
        fun w hw => Value.asKey_iff.mp (except_mapM_each hkeys hw)
      simpa [hiterable, Value.members_json h hi] using fun _ => hscalar
    · intro hfaulty
      simp only [hnull, Bool.not_false, Bool.true_and, Bool.or_eq_false_iff, Bool.not_eq_false',
        List.any_eq_false, Bool.not_eq_true] at hfaulty
      obtain ⟨items, hi⟩ := (Value.elements_json h).mpr hfaulty.1
      rw [Value.members_json h hi] at hfaulty
      obtain ⟨names, hn⟩ := except_mapM_total fun w hw => Value.asKey_iff.mpr (hfaulty.2 w hw)
      exact ⟨names, except_bind_ok.mpr ⟨items, hi, hn⟩⟩

section Node

variable {entries : Entries} {root : String}

theorem basesOf_iff (h : (Value.map entries).isJson = true) :
    (∃ bases, basesOf entries (Value.readingEntries entries) = .ok bases) ↔
      ((Value.field "allOf" entries).truthy = true →
        (Value.field "allOf" entries).isIterable = true) := by
  have hjson := Value.json_field h "allOf"
  unfold basesOf
  rw [part_reading]
  unfold Value.field at hjson ⊢
  cases hg : Entries.get? "allOf" entries with
  | none => simp [Value.null, Value.truthy, Scalar.truthy]
  | some v =>
    rw [hg, Option.getD_some] at hjson
    simp only [Option.map_some, Option.getD_some]
    by_cases ht : v.truthy = true
    · simp only [ht, forall_const]
      exact elements_iff hjson
    · simp [ht]

theorem propertiesOf_iff (h : (Value.map entries).isJson = true) :
    (∃ ps, propertiesOf entries (Value.readingEntries entries) = .ok ps) ↔
      ((Value.field "properties" entries).truthy = true →
        (Value.field "properties" entries).isMap = true ∧
          namesFaulty (Value.field "required" entries) = false) := by
  have hjson := Value.json_field h "properties"
  rw [← requiredNames_iff (Value.json_field h "required")]
  unfold propertiesOf
  rw [part_reading]
  cases hg : Entries.get? "properties" entries with
  | none => simp [Value.field, hg, Value.null, Value.truthy, Scalar.truthy]
  | some v =>
    have hv : Value.field "properties" entries = v := by rw [Value.field, hg, Option.getD_some]
    rw [hv] at hjson ⊢
    simp only [Option.map_some]
    by_cases ht : v.truthy = true
    · simp only [ht, forall_const]
      rw [← properties_iff hjson]
      constructor
      · rintro ⟨ps, hps⟩
        obtain ⟨names, hn, hps⟩ := except_bind_ok.mp hps
        obtain ⟨read, hr, _⟩ := except_bind_ok.mp hps
        exact ⟨⟨read, hr⟩, names, hn⟩
      · rintro ⟨⟨read, hr⟩, names, hn⟩
        exact ⟨_, except_bind_ok.mpr ⟨names, hn, except_bind_ok.mpr ⟨read, hr, rfl⟩⟩⟩
    · simp [ht]

theorem serves_iff (h : (Value.map entries).isJson = true) :
    Serves entries ↔ isFaulty entries = false := by
  have hparts : Serves entries ↔ (∃ bases, basesOf entries (Value.readingEntries entries) = .ok bases) ∧
      ∃ ps, propertiesOf entries (Value.readingEntries entries) = .ok ps :=
    ⟨fun hs => ⟨hs.bases, hs.properties⟩, fun ⟨hb, hp⟩ => ⟨hb, hp⟩⟩
  rw [hparts, basesOf_iff h, propertiesOf_iff h]
  unfold isFaulty
  cases (Value.field "allOf" entries).truthy <;> cases (Value.field "properties" entries).truthy <;>
    simp

theorem faults_of_not_serves (hv : Variant.ofEntries entries = .object) (hs : ¬Serves entries) :
    Faults ((ofValue (.map entries)).compose root) := by
  have hmalformed : ∃ bases fault, ofValue (.map entries) = .malformed bases fault := by
    rw [ofValue_map, ofParts, hv]
    dsimp only
    unfold objectOf
    cases hb : basesOf entries (Value.readingEntries entries) with
    | error fault => exact ⟨_, _, rfl⟩
    | ok bases =>
      cases hp : propertiesOf entries (Value.readingEntries entries) with
      | error fault => exact ⟨_, _, rfl⟩
      | ok ps => exact (hs ⟨⟨bases, hb⟩, ⟨ps, hp⟩⟩).elim
  obtain ⟨bases, fault, he⟩ := hmalformed
  rw [he, compose]
  exact faults_behind _ fun _ => faults_throw fault

theorem faults_composeAll {ss : List Schema} {s : Schema} (hs : s ∈ ss) (h : Faults (s.compose root)) :
    Faults (composeAll root ss) := by
  induction ss with
  | nil => cases hs
  | cons t rest ih =>
    rw [composeAll]
    rcases List.mem_cons.mp hs with rfl | hs
    · exact h.bind _
    · exact faults_behind _ fun _ => (ih hs).bind _

theorem faults_composeFields {ps : List (Property × Schema)} {p : Property × Schema} (hp : p ∈ ps)
    (h : Faults (p.2.compose root)) : Faults (composeFields root ps) := by
  induction ps with
  | nil => cases hp
  | cons q rest ih =>
    rw [composeFields]
    refine faults_behind _ fun _ => faults_behind _ fun _ => ?_
    rcases List.mem_cons.mp hp with rfl | hp
    · exact h.bind _
    · exact faults_behind _ fun _ => faults_behind _ fun _ => (ih hp).bind _

theorem faults_node {v : Value} (hv : v ∈ Value.parts entries) (h : Faults ((ofValue v).compose root)) :
    Faults ((ofValue (.map entries)).compose root) := by
  have hall : ∀ vs : List Value, v ∈ vs → Faults (composeAll root (vs.map ofValue)) :=
    fun vs hm => faults_composeAll (List.mem_map_of_mem hm) h
  unfold Value.parts at hv
  cases hvariant : Variant.ofEntries entries with
  | oneOf =>
    rw [hvariant] at hv
    rw [ofValue_oneOf hvariant, compose]
    exact (hall _ hv).bind _
  | anyOf =>
    rw [hvariant] at hv
    rw [ofValue_anyOf hvariant, compose]
    exact (hall _ hv).bind _
  | object =>
    rw [hvariant] at hv
    by_cases hs : Serves entries
    · rw [ofValue_serves hvariant hs, compose]
      rw [List.mem_append, List.mem_append, List.mem_map, Option.mem_toList] at hv
      rw [if_neg]
      · rcases hv with hv | ⟨e, he, rfl⟩ | hv
        · exact (hall _ hv).bind _
        · refine faults_behind _ fun _ => Faults.bind ?_ _
          refine faults_composeFields (List.mem_map_of_mem (List.mem_map_of_mem he)) ?_
          rwa [(propertyAt_parts e).2.2]
        · refine faults_behind _ fun _ => faults_behind _ fun _ => Faults.bind ?_ _
          rw [hv, Option.map_some, composeAdditional]
          exact h.bind _
      · intro hempty
        simp only [markRequired, Bool.and_eq_true, List.isEmpty_iff, List.map_eq_nil_iff,
          Option.isNone_iff_eq_none, Option.map_eq_none_iff] at hempty
        obtain ⟨⟨hbases, hproperties⟩, hadditional⟩ := hempty
        simp [hbases, hproperties, hadditional] at hv
    · exact faults_of_not_serves hvariant hs
  | array =>
    rw [hvariant] at hv
    cases hi : (Value.field "items" entries).opened with
    | list items =>
      simp only [hi] at hv
      rw [ofValue_tuple hvariant hi, compose]
      exact (hall _ hv).bind _
    | _ =>
      have hne : ∀ items, (Value.field "items" entries).opened ≠ .list items := by
        intro items h
        rw [hi] at h
        cases h
      simp only [hi, List.mem_singleton] at hv
      rw [ofValue_array hvariant hne, compose, ← hv]
      exact h.bind _
  | _ =>
    rw [hvariant] at hv
    cases hv

end Node

theorem faults_of_meets {v : Value} (hj : v.isJson = true) (h : MeetsFaulty v) (root : String) :
    Faults (composeType root v) := by
  obtain ⟨node, hn, hobject, hfaulty⟩ := h
  induction hs : v.size using Nat.strongRecOn generalizing v with
  | ind n ih =>
    cases v with
    | scalar s => simp [Value.nodes] at hn
    | list items => simp [Value.nodes] at hn
    | map entries =>
      rw [Value.nodes_map] at hn
      rcases List.mem_cons.mp hn with rfl | hn
      · apply faults_of_not_serves hobject
        rw [serves_iff hj, hfaulty]
        exact Bool.noConfusion
      · obtain ⟨w, hw, hn⟩ := List.mem_flatMap.mp hn
        have hlt := Value.size_parts hw
        exact faults_node hw (ih w.size (by omega) (Value.json_parts hj hw) hn rfl)
    | again isMap forms content => cases hj

theorem total_of_not_meets {v : Value} (hj : v.isJson = true) (h : ¬MeetsFaulty v) (root : String) :
    Total (composeType root v) := by
  apply total_compose hj
  intro node hn hobject
  rw [serves_iff (Value.json_nodes hj hn)]
  exact Bool.eq_false_iff.mpr fun hfaulty => h ⟨node, hn, hobject, hfaulty⟩

end Schema

/-- The composition of a schema of JSON ends in a fault exactly if a faulty object node is visited from
it, and in every other case with a text, whatever was recorded before. -/
theorem composeType_faults_iff {v : Value} (hj : v.isJson = true) (root : String) (l : Ledger) :
    ((∃ fault l', (composeType root v).exec l = (.error fault, l')) ↔ Schema.MeetsFaulty v) ∧
      ((∃ text l', (composeType root v).exec l = (.ok text, l')) ↔ ¬Schema.MeetsFaulty v) := by
  by_cases h : Schema.MeetsFaulty v
  · obtain ⟨fault, l', hrun⟩ := Schema.faults_of_meets hj h root l
    simp [hrun, h]
  · obtain ⟨text, l', hrun⟩ := (Schema.total_of_not_meets hj h root).exec l
    simp [hrun, h]

/-- The alternatives of a text and of a tuple with a record, the entry of which is the given one. -/
def recordNode (required entry : Value) : Value :=
  .map [(.text "oneOf", .list [.text "not a node", .map [(.text "items", .list
    [.map [(.text "properties", .map [(.text "a", entry)]), (.text "required", required)]])]])]

def numberBases : Value := recordNode .null (.map [(.text "schema", .map [(.text "allOf", .scalar (.int 7))])])

/-- The bases of the entry are a text, and the required names are the keys of a mapping. -/
def textBases : Value := recordNode (.map [(.text "a", .list [])]) (.map [(.text "allOf", .text "ab")])

theorem faults_numberBases : (numberBases.isJson = true ∧
      ∃ fault l, (composeType "" numberBases).exec .empty = (.error fault, l)) ∧
    textBases.isJson = true ∧ ∃ text l, (composeType "" textBases).exec .empty = (.ok text, l) := by
  have hnumber : numberBases.isJson = true := by decide +kernel
  have htext : textBases.isJson = true := by decide +kernel
  exact ⟨⟨hnumber, (composeType_faults_iff hnumber "" .empty).1.mpr (by decide +kernel)⟩,
    htext, (composeType_faults_iff htext "" .empty).2.mpr (by decide +kernel)⟩

end ApiTypes
