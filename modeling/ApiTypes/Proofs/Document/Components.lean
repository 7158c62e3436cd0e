import ApiTypes.Proofs.Document.Outline
import ApiTypes.Proofs.Reference.Address
import Mathlib.Data.List.Nodup

/-!
# References to components find their declaration

A reference to a component is written as its section and its name, read back. What the
document holds under that name is declared in the block of the section, and no other
declaration there has that name for its key. A parameter is only written by reference if
the document holds what it refers to.

A key that is no text is declared as it is written. So a truth value and the word for it,
both keys of one section, are two declarations that look alike.
-/

set_option autoImplicit false

namespace ApiTypes

open Compose

namespace Value

theorem truthy_of_opened {v : Value} (h : v.opened.truthy = true) : v.truthy = true := by
  cases v with
  | again => rfl
  | _ => exact h

theorem propertyEntries_of_map {v : Value} {entries : Entries} (h : v.opened = .map entries) :
    v.propertyEntries = entries := by
  match v, h with
  | .map _, rfl => rfl
  | .again _ _ (some (.map _)), rfl => rfl

end Value

namespace Reference

theorem step_name {v w : Value} {name : String} (hname : Numeral.read name = .malformed)
    (h : step v name = some w) : ∃ es, v.opened = .map es ∧ Entries.get? name es = some w := by
  unfold step at h
  split at h
  · rename_i es hv
    exact ⟨es, hv, h⟩
  · rename_i items hv
    rw [place?, hname] at h
    cases h
  · cases h

theorem follow_cons {v w : Value} {name : String} {path : List String}
    (h : follow v (name :: path) = some w) : ∃ u, step v name = some u ∧ follow u path = some w := by
  rw [follow, List.foldlM_cons] at h
  exact Option.bind_eq_some_iff.mp h

end Reference

namespace Parameters

/-- An entry that is a reference comes to a slot only if the reference leads to a mapping. -/
theorem slot_reference {ctx : Context} {p : Value} {fields : Entries} {ref : String} {s : Slot}
    {l l' : Ledger} (hp : p.opened = .map fields) (href : Entries.get? "$ref" fields = some (.text ref))
    (h : (slot ctx p).exec l = (.ok (some s), l')) : s.field.type = Reference.expression "" ref ∧
      ∃ v target, Reference.lookup ctx.document ref = some v ∧ v.opened = .map target := by
  -- The run is that of a reference, and of this one.
  cases slot_ok h with
  | given hp' href' hplace htype =>
    rw [hp] at hp'
    cases hp'
    rw [href] at href'
    cases href'
  | @referred _ target _ _ _ hp' href' htarget hplace htype =>
    rw [hp] at hp'
    cases hp'
    rw [href] at href'
    cases href'
    obtain ⟨v, hv, hopened⟩ := target_some htarget
    exact ⟨(refer_ok.mp htype).1, v, target, hv, hopened⟩

end Parameters

theorem forall₂_split {α β : Type} {R : α → β → Prop} {as as' : List α} {a : α} {bs : List β}
    (h : List.Forall₂ R (as ++ a :: as') bs) : ∃ before b after, bs = before ++ b :: after ∧
      List.Forall₂ R as before ∧ R a b ∧ List.Forall₂ R as' after := by
  induction as generalizing bs with
  | nil =>
    cases h with
    | cons hab hrest => exact ⟨[], _, _, rfl, .nil, hab, hrest⟩
  | cons c rest ih =>
    cases h with
    | cons hcb hrest =>
      obtain ⟨before, b, after, rfl, hbefore, hab, hafter⟩ := ih hrest
      exact ⟨_ :: before, b, after, rfl, .cons hcb hbefore, hab, hafter⟩

namespace Generator

namespace Section

/-- The section is a mapping that holds a name. Responses and request bodies are to be mappings
themselves. -/
structure Holds (entries : Entries) (s : Section) (held : Entries) (x : String) : Prop where
  mapping : (Value.field s.name (partsOf entries)).opened = .map held
  entry : ∃ v, Entries.get? x held = some v ∧
    (s = .responses ∨ s = .requestBodies → ∃ fields, v.opened = .map fields)

theorem name_plain (s : Section) : '/' ∉ s.name.toList ∧ '~' ∉ s.name.toList ∧ s.name ≠ "" := by
  cases s <;> decide

theorem name_malformed (s : Section) : Numeral.read s.name = .malformed := by
  cases s <;> decide +kernel

variable {options : Options} {entries held : Entries} {s : Section} {x : String}

theorem valueIn_eq (hmapper : options.mapper = none)
    (ht : (Value.field s.name (partsOf entries)).truthy = true) :
    s.valueIn options entries = Value.field s.name (partsOf entries) := by
  cases s with
  | schemas =>
    change schemasOf options entries = _
    rw [schemasOf, hmapper]
    change sectionOf "schemas" (partsOf entries) = _
    exact if_pos ht
  | parameters => rfl
  | responses => rfl
  | requestBodies => rfl

def declaredOf (held : Entries) : Section → Entries
  | .parameters | .schemas => held
  | .responses | .requestBodies => held.filter fun e => (Value.mappingAt? e).isSome

theorem held_eq {v : Value} (h : v.opened = .map held) (ht : v.truthy = true) :
    s.held v = s.declaredOf held := by
  have hproperties : heldProperties v = held := by
    rw [heldProperties, if_pos ht, Value.propertyEntries_of_map h]
  have hentries : v.heldEntries = held := by
    rw [Value.heldEntries, if_pos ht, Value.entriesIn_of_map h]
  cases s with
  | parameters | schemas => exact hproperties
  | responses | requestBodies => rw [Section.held, hentries, declaredOf]

theorem declaredOf_sublist : (s.declaredOf held).Sublist held := by
  cases s with
  | parameters | schemas => exact .refl _
  | responses | requestBodies => exact List.filter_sublist

theorem Holds.truthy (h : s.Holds entries held x) :
    (Value.field s.name (partsOf entries)).truthy = true := by
  obtain ⟨v, hv, _⟩ := h.entry
  apply Value.truthy_of_opened
  rw [h.mapping]
  cases held with
  | nil => cases hv
  | cons => rfl

theorem Holds.mem_declaredOf (h : s.Holds entries held x) :
    ∃ v, Entries.get? x held = some v ∧ (.text x, v) ∈ s.declaredOf held := by
  obtain ⟨v, hv, hbody⟩ := h.entry
  have hmem := Entries.mem_of_get? hv
  have hmapping : (∃ fields, v.opened = .map fields) →
      (.text x, v) ∈ held.filter fun e => (Value.mappingAt? e).isSome := by
    rintro ⟨fields, hfields⟩
    exact List.mem_filter.mpr ⟨hmem, by rw [Value.mappingAt_some hfields]; rfl⟩
  refine ⟨v, hv, ?_⟩
  cases s with
  | parameters | schemas => exact hmem
  | responses => exact hmapping (hbody (.inl rfl))
  | requestBodies => exact hmapping (hbody (.inr rfl))

end Section

/-- The block of a section is the declarations of what the section holds, one for each entry. One of
them declares what is held under a name. Any other that is written with that name has a key that is no
text. -/
structure DeclaredOnce (options : Options) (entries : Entries) (o : Outline) (s : Section)
    (held : Entries) (x : String) : Prop where
  block : o.sectionBlock options entries s = record s.name (String.join (o.sections s))
  declaration : ∃ before declared after earlier v later,
    o.sections s = before ++ declared :: after ∧
      s.heldIn options entries = earlier ++ (.text x, v) :: later ∧ Entries.get? x held = some v ∧
        Declares (s.body (contextOf entries)) (.text x, v) declared ∧
          List.Forall₂ (Declares (s.body (contextOf entries))) earlier before ∧
            List.Forall₂ (Declares (s.body (contextOf entries))) later after ∧
              ∀ e ∈ earlier ++ later, e.1.plain = .ok x → e.1.text? = none

/-- How the references to components agree with what the sections declare. -/
structure ComponentsAgree (options : Options) (entries : Entries) (out : Output) (o : Outline) :
    Prop where
  outlines : Outlines options entries o
  text : out.text = Imports.block (importKeys options entries) ++
    (o.pathsText entries ++ o.operationsText ++ interface "components"
      (o.sectionBlock options entries .parameters ++ o.sectionBlock options entries .schemas ++
        o.sectionBlock options entries .responses ++ o.sectionBlock options entries .requestBodies))
  address : ∀ (s : Section) segment, '/' ∉ segment.toList →
    Reference.expression "" (Reference.componentRef s.name segment) =
      Reference.componentAddress s.name (Reference.segmentName segment)
  shown : ∀ (s : Section) segment, '/' ∉ segment.toList →
    Reference.componentRef s.name segment ∈ written options entries →
      Within (Reference.componentAddress s.name (Reference.segmentName segment))
        (o.body options entries)
  declared : ∀ (s : Section) held x, s.Holds entries held x → Entries.Distinct held →
    DeclaredOnce options entries o s held x
  found : ∀ (s : Section) segment p fields slot l l', '/' ∉ segment.toList → segment ≠ "" →
    Value.opened p = .map fields →
      Entries.get? "$ref" fields = some (.text (Reference.componentRef s.name segment)) →
        (Parameters.slot (contextOf entries) p).exec l = (.ok (some slot), l') →
          slot.field.type = Reference.componentAddress s.name (Reference.segmentName segment) ∧
            ∃ held, s.Holds entries held (Reference.segmentName segment)

variable {options : Options} {entries held : Entries} {o : Outline} {s : Section} {x : String}

theorem declaredOnce_of_holds (hmapper : options.mapper = none) (ho : Outlines options entries o)
    (h : s.Holds entries held x) (hdistinct : Entries.Distinct held) :
    DeclaredOnce options entries o s held x := by
  have hvalue := Section.valueIn_eq hmapper h.truthy
  have hheld : s.heldIn options entries = s.declaredOf held := by
    rw [Section.heldIn, hvalue, Section.held_eq h.mapping h.truthy]
  obtain ⟨v, hv, hmem⟩ := h.mem_declaredOf
  obtain ⟨earlier, later, hsplit⟩ := List.append_of_mem (hheld ▸ hmem)
  constructor
  case block =>
    rw [Outline.sectionBlock, sectionText, hvalue, if_pos h.truthy]
  case declaration =>
    obtain ⟨before, declared, after, htexts, hbefore, hdeclared, hafter⟩ :=
      forall₂_split (hsplit ▸ ho.sections s)
    refine ⟨before, declared, after, earlier, v, later, htexts, hsplit, hv, hdeclared, hbefore,
      hafter, ?_⟩
    have hnodup : ((earlier ++ (.text x, v) :: later).map (·.1)).Nodup := by
      rw [← hsplit, hheld]
      exact hdistinct.nodup_keys.sublist (Section.declaredOf_sublist.map _)
    rw [List.map_append, List.map_cons, List.nodup_middle, List.nodup_cons, ← List.map_append] at hnodup
    intro e he hplain
    have hother : e.1 ≠ .text x := fun hk => hnodup.1 (List.mem_map.mpr ⟨e, he, hk⟩)
    cases hkey : e.1 with
    | text t =>
      rw [hkey] at hplain hother
      exact (hother (congrArg Scalar.text (Except.ok.inj hplain))).elim
    | _ => rfl

theorem holds_of_follow (hmapper : options.mapper = none) (ho : Outlines options entries o)
    {v : Value} {target : Entries}
    (h : Reference.follow (.map entries) ["components", s.name, x] = some v)
    (hv : v.opened = .map target) : ∃ held, s.Holds entries held x := by
  obtain ⟨parts, hparts, h⟩ := Reference.follow_cons h
  obtain ⟨sectionValue, hsection, h⟩ := Reference.follow_cons h
  obtain ⟨w, hstep, hend⟩ := Reference.follow_cons h
  cases hend
  obtain ⟨es, hes, hcomponents⟩ := Reference.step_name (by decide +kernel) hparts
  cases hes
  obtain ⟨ps, hps, hfield⟩ := Reference.step_name s.name_malformed hsection
  have hpartsOf : partsOf entries = ps := by
    have hvalue : Value.field "components" entries = parts := by
      rw [Value.field, hcomponents, Option.getD_some]
    have ht : parts.truthy = true := by
      apply Value.truthy_of_opened
      rw [hps]
      cases ps with
      | nil => cases hfield
      | cons => rfl
    have hheld : sectionOf "components" entries = parts := by
      change (if (Value.field "components" entries).truthy then _ else _) = _
      rw [hvalue, if_pos ht]
    rw [partsOf, hheld, Value.entriesIn_of_map hps]
  have hvalue : Value.field s.name (partsOf entries) = sectionValue := by
    rw [hpartsOf, Value.field, hfield, Option.getD_some]
  unfold Reference.step at hstep
  split at hstep
  · rename_i held hmap
    exact ⟨held, ⟨by rw [hvalue, hmap], v, hstep, fun _ => ⟨target, hv⟩⟩⟩
  · -- A numeral leads into a list as well, but a section that is a list is not composed.
    rename_i items hlist
    have ht : (Value.field s.name (partsOf entries)).truthy = true := by
      rw [hvalue]
      apply Value.truthy_of_opened
      rw [hlist]
      cases items with
      | nil =>
        obtain ⟨i, _, hi⟩ := Option.bind_eq_some_iff.mp hstep
        cases hi
      | cons => rfl
    have heq := Section.valueIn_eq hmapper ht
    refine (ho.mappings s (by rw [heq, ht]) items ?_).elim
    rw [heq, hvalue, hlist]
  · cases hstep

def componentNode (s : Section) (segment : String) : Value :=
  .map [(.text "$ref", .text (Reference.componentRef s.name segment))]

def oneParameter : Entries :=
  [(.text "a/b", .map [(.text "in", .text "query"), (.text "name", .text "q"),
    (.text "schema", componentNode .schemas "S")])]

/-- A document with one component in each section, and a reference to each. -/
def oneOfEach : Entries :=
  [(.text "paths", .map [(.text "/a", .map [(.text "get", .map
      [(.text "parameters", .list [componentNode .parameters "a~1b"]),
        (.text "requestBody", componentNode .requestBodies "B"),
        (.text "responses", .map [(.text "200", componentNode .responses "R")])])])]),
    (.text "components", .map
      [(.text "parameters", .map oneParameter),
        (.text "schemas", .map [(.text "S", .map [(.text "type", .text "string")])]),
        (.text "responses", .map [(.text "R", .map [])]),
        (.text "requestBodies", .map [(.text "B", .map [])])])]

def spelledAlike : Entries := Entries.ofPairs
  [(.bool true, .map [(.text "type", .text "string")]),
    (.text "True", .map [(.text "type", .text "number")]), (.text "A", componentNode .schemas "True")]

def twoSpellings : Entries := [(.text "components", .map [(.text "schemas", .map spelledAlike)])]

end Generator

end ApiTypes
