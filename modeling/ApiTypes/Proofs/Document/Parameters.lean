import ApiTypes.Proofs.Compose.Resolution
import ApiTypes.Proofs.Value.Entries

/-!
# The references of a parameter list

Every entry of the list is composed, but the last one with a location and a name
takes the place of those in front of it, and an entry without a location or a name
is skipped. So the references of an entry that is skipped or replaced are resolved
and not written.
-/

set_option autoImplicit false

namespace ApiTypes

open Compose

namespace ParameterGroups

/-- There is a field in the given place. -/
def Holds (location name : Scalar) (f : ParameterField) (groups : ParameterGroups) : Prop :=
  ∃ fields, Entries.find? location groups = some fields ∧ Entries.find? name fields = some f

theorem find?_put (location name other : Scalar) (f : ParameterField) (groups : ParameterGroups) :
    Entries.find? other (groups.put location name f) = if location.same other
      then some (Entries.put name f ((Entries.find? location groups).getD []))
      else Entries.find? other groups := Entries.find?_put _ _ _ _

theorem holds_put (location name : Scalar) (f : ParameterField) (groups : ParameterGroups) :
    Holds location name f (groups.put location name f) := by
  refine ⟨Entries.put name f ((Entries.find? location groups).getD []), ?_, ?_⟩
  · rw [find?_put, if_pos (Scalar.same_refl location)]
  · rw [Entries.find?_put, if_pos (Scalar.same_refl name)]

theorem holds_put_other {location name location' name' : Scalar} {f f' : ParameterField}
    {groups : ParameterGroups} (h : Holds location name f groups)
    (hne : (location.same location' && name.same name') = false) :
    Holds location name f (groups.put location' name' f') := by
  obtain ⟨fields, hl, hn⟩ := h
  rw [Scalar.same_comm location, Scalar.same_comm name] at hne
  by_cases hsame : location'.same location = true
  · have hother : ¬name'.same name = true := by simpa [hsame] using hne
    have hfields : Entries.find? location' groups = some fields :=
      (Entries.find?_congr hsame groups).trans hl
    refine ⟨Entries.put name' f' fields, ?_, ?_⟩
    · rw [find?_put, if_pos hsame, hfields, Option.getD_some]
    · rw [Entries.find?_put, if_neg hother]
      exact hn
  · refine ⟨fields, ?_, hn⟩
    rw [find?_put, if_neg hsame]
    exact hl

/-- No location occurs twice, and no name twice in one location. -/
structure Apart (groups : ParameterGroups) : Prop where
  locations : Entries.Distinct groups
  names : ∀ g ∈ groups, Entries.Distinct g.2

theorem apart_nil : Apart [] := ⟨.nil, by simp⟩

theorem Apart.put {groups : ParameterGroups} (h : Apart groups) (location name : Scalar)
    (f : ParameterField) : Apart (groups.put location name f) := by
  have hfields : Entries.Distinct ((Entries.find? location groups).getD []) := by
    cases hf : Entries.find? location groups with
    | none => exact .nil
    | some fields =>
      obtain ⟨k, _, hk⟩ := Entries.find?_some hf
      exact h.names _ hk
  have hnames : ∀ g ∈ groups, True ∧ Entries.Distinct g.2 := fun g hg => ⟨trivial, h.names g hg⟩
  have hput : ∀ g ∈ groups.put location name f, True ∧ Entries.Distinct g.2 :=
    Entries.forall_put (P := fun _ => True) hnames trivial (Entries.distinct_put hfields name f)
  exact ⟨Entries.distinct_put h.locations _ _, fun g hg => (hput g hg).2⟩

theorem Apart.holds {groups : ParameterGroups} (h : Apart groups) {g : Scalar × List (Scalar × ParameterField)}
    (hg : g ∈ groups) {f : Scalar × ParameterField} (hf : f ∈ g.2) : Holds g.1 f.1 f.2 groups :=
  ⟨g.2, Entries.find?_of_mem h.locations hg, Entries.find?_of_mem (h.names g hg) hf⟩

theorem holds_of_put {location name location' name' : Scalar} {f f' : ParameterField}
    {groups : ParameterGroups} (h : Holds location name f (groups.put location' name' f')) :
    (location'.same location && name'.same name) = true ∧ f = f' ∨
      (location'.same location && name'.same name) = false ∧ Holds location name f groups := by
  obtain ⟨fields, hl, hn⟩ := h
  rw [find?_put] at hl
  split at hl
  · rename_i hlocation
    cases hl
    rw [Entries.find?_put] at hn
    split at hn
    · rename_i hname
      cases hn
      exact .inl ⟨by rw [hlocation, hname]; rfl, rfl⟩
    · rename_i hname
      refine .inr ⟨by simp [hname], ?_⟩
      rw [Entries.find?_congr hlocation] at hn
      cases hf : Entries.find? location groups with
      | none =>
        rw [hf] at hn
        cases hn
      | some fields =>
        rw [hf] at hn
        exact ⟨fields, hf, hn⟩
  · rename_i hlocation
    exact .inr ⟨by simp [hlocation], fields, hl, hn⟩

theorem Holds.congr {location name location' name' : Scalar} {f : ParameterField}
    {groups : ParameterGroups} (h : Holds location name f groups)
    (hsame : (location.same location' && name.same name') = true) : Holds location' name' f groups := by
  obtain ⟨fields, hl, hn⟩ := h
  rw [Bool.and_eq_true] at hsame
  exact ⟨fields, (Entries.find?_congr hsame.1 groups).symm.trans hl,
    (Entries.find?_congr hsame.2 fields).symm.trans hn⟩

theorem holds_put_iff {location name location' name' : Scalar} {f f' : ParameterField}
    {groups : ParameterGroups} : Holds location name f (groups.put location' name' f') ↔
      if location'.same location && name'.same name then f = f' else Holds location name f groups := by
  constructor
  · intro h
    rcases holds_of_put h with ⟨hsame, hf⟩ | ⟨hother, hf⟩
    · rwa [if_pos hsame]
    · rwa [if_neg (by simp [hother])]
  · intro h
    split at h
    · rename_i hsame
      rw [h]
      exact (holds_put location' name' f' groups).congr hsame
    · rename_i hother
      refine holds_put_other h ?_
      rw [Scalar.same_comm location, Scalar.same_comm name]
      exact Bool.eq_false_iff.mpr hother

def types (groups : ParameterGroups) : List String := groups.flatMap fun g => g.2.map fun f => f.2.type

theorem mem_types {location name : Scalar} {f : ParameterField} {groups : ParameterGroups}
    (h : Holds location name f groups) : f.type ∈ groups.types := by
  obtain ⟨fields, hl, hn⟩ := h
  obtain ⟨k, _, hg⟩ := Entries.find?_some hl
  obtain ⟨m, _, hf⟩ := Entries.find?_some hn
  rw [types, List.mem_flatMap]
  exact ⟨_, hg, List.mem_map_of_mem hf⟩

theorem within_render {name : Scalar} {f : ParameterField} {text : String}
    (h : f.render name = .ok text) : Within f.type text := by
  unfold ParameterField.render at h
  obtain ⟨comment, _, h⟩ := except_bind_ok.mp h
  obtain ⟨name, _, h⟩ := except_bind_ok.mp h
  cases h
  exact within_between _ _ _

theorem within_mapM {α : Type} {f : α → Except Fault String} {as : List α} {texts : List String}
    (h : as.mapM f = .ok texts) {a : α} (ha : a ∈ as) : ∃ text, f a = .ok text ∧
      Within text (String.join texts) := by
  have hall := except_mapM_ok h
  clear h
  induction hall with
  | nil => cases ha
  | @cons b text rest others hb _ ih =>
    rw [String.join_cons]
    rcases List.mem_cons.mp ha with rfl | ha
    · exact ⟨text, hb, within_left _ _⟩
    · obtain ⟨t, ht, hw⟩ := ih ha
      exact ⟨t, ht, hw.trans (within_right _ _)⟩

theorem within_groups {groups : ParameterGroups} {text : String} (h : groups.render = .ok text) :
    ∀ t ∈ groups.types, Within t text := by
  intro t ht
  rw [types, List.mem_flatMap] at ht
  obtain ⟨g, hg, ht⟩ := ht
  obtain ⟨f, hf, rfl⟩ := List.mem_map.mp ht
  unfold render at h
  obtain ⟨texts, hm, h⟩ := except_bind_ok.mp h
  cases h
  obtain ⟨group, hgroup, hwithin⟩ := within_mapM hm hg
  unfold renderGroup at hgroup
  obtain ⟨name, _, hgroup⟩ := except_bind_ok.mp hgroup
  obtain ⟨fields, hfields, hgroup⟩ := except_bind_ok.mp hgroup
  cases hgroup
  unfold renderFields at hfields
  obtain ⟨rendered, hr, hfields⟩ := except_bind_ok.mp hfields
  cases hfields
  obtain ⟨field, hfield, hin⟩ := within_mapM hr hf
  have htype := (within_render hfield).trans hin
  exact htype.trans ((within_between _ _ _).trans (hwithin.trans (within_between _ _ _)))

end ParameterGroups

namespace Parameters

/-- A parameter has a place if its location and its name both hold. -/
def isPlaced (entries : Entries) : Bool :=
  (Value.field "in" entries).truthy && (Value.field "name" entries).truthy

/-- The mapping that a reference leads to; what is no mapping is no target. -/
def target? (document : Value) (ref : String) : Option Entries :=
  match (Reference.lookup document ref).map Value.opened with
  | some (.map target) => some target
  | _ => none

section Places

variable {document : Value} {ref : String} {entries target : Entries} {location name : Value}

theorem placed_none : placed? entries = none ↔ isPlaced entries = false := by
  unfold placed? isPlaced
  dsimp only
  split
  · rename_i h
    simp [h]
  · rename_i h
    simpa using h

theorem placed_some : placed? entries = some (location, name) ↔
    isPlaced entries = true ∧ location = Value.field "in" entries ∧
      name = Value.field "name" entries := by
  unfold placed? isPlaced
  dsimp only
  split
  · rename_i h
    simp [h, eq_comm]
  · rename_i h
    simp [h]

theorem placeOf_eq (document : Value) (ref : String) :
    placeOf? document ref = (target? document ref).bind placed? := by
  unfold placeOf? target?
  cases (Reference.lookup document ref).map Value.opened with
  | none => rfl
  | some v => cases v <;> rfl

theorem placeOf_none : placeOf? document ref = none ↔ (target? document ref).any isPlaced = false := by
  rw [placeOf_eq]
  cases target? document ref with
  | none => exact ⟨fun _ => rfl, fun _ => rfl⟩
  | some target => exact placed_none

theorem placeOf_some : placeOf? document ref = some (location, name) ↔
    ∃ target, target? document ref = some target ∧ isPlaced target = true ∧
      location = Value.field "in" target ∧ name = Value.field "name" target := by
  rw [placeOf_eq, Option.bind_eq_some_iff]
  simp only [placed_some]

theorem target_some (h : target? document ref = some target) :
    ∃ v, Reference.lookup document ref = some v ∧ v.opened = .map target := by
  unfold target? at h
  split at h
  · rename_i fields hv
    cases h
    exact Option.map_eq_some_iff.mp hv
  · cases h

theorem isRequired_eq (h : target? document ref = some target) :
    Reference.isRequired document ref = (Value.field "required" target).isTrue := by
  obtain ⟨v, hlookup, hopened⟩ := target_some h
  rw [Reference.isRequired, hlookup, Option.map_some, hopened]

end Places

variable (ctx : Context)

def entryReferences (p : Value) : List String :=
  match p.opened with
  | .map entries =>
    match Entries.get? "$ref" entries with
    | some (.scalar (.text ref)) => if (target? ctx.document ref).any isPlaced then [ref] else []
    | some _ => []
    | none => (Schema.ofValue (Value.field "schema" entries)).references
  | _ => []

/-- The mapping that says where an entry stands: the one that its reference leads to, or its own. -/
def placing? (p : Value) : Option Entries :=
  match p.opened with
  | .map entries =>
    match Entries.get? "$ref" entries with
    | some (.scalar (.text ref)) => target? ctx.document ref
    | some _ => none
    | none => some entries
  | _ => none

/-- The location and the name of an entry, where both hold. -/
def entryPlace? (p : Value) : Option (Value × Value) :=
  ((placing? ctx p).filter isPlaced).map fun entries =>
    (Value.field "in" entries, Value.field "name" entries)

def samePlace : Value × Value → Value × Value → Bool
  | (.scalar location, .scalar name), (.scalar location', .scalar name') =>
    location.same location' && name.same name'
  | _, _ => false

def retained : List Value → List Value
  | [] => []
  | p :: rest =>
    match entryPlace? ctx p with
    | none => retained rest
    | some place =>
      if (rest.filterMap (entryPlace? ctx)).any (samePlace place) then retained rest
      else p :: retained rest

/-- The entries of a list of parameters, where there are any. -/
def entriesOf (parameters : Value) : List Value :=
  if parameters.truthy then parameters.elements?.getD [] else []

def references (parameters : Value) : List String := (entriesOf parameters).flatMap (entryReferences ctx)

def shown (parameters : Value) : List String :=
  (retained ctx (entriesOf parameters)).flatMap (entryReferences ctx)

variable {ctx} {l l' : Ledger}

theorem mem_of_retained {p : Value} {items : List Value} (h : p ∈ retained ctx items) : p ∈ items := by
  induction items with
  | nil => cases h
  | cons q rest ih =>
    rw [retained] at h
    split at h
    · exact List.mem_cons_of_mem _ (ih h)
    · split at h
      · exact List.mem_cons_of_mem _ (ih h)
      · rcases List.mem_cons.mp h with rfl | h
        · exact List.mem_cons_self
        · exact List.mem_cons_of_mem _ (ih h)

theorem shown_subset (parameters : Value) : shown ctx parameters ⊆ references ctx parameters := by
  intro r hr
  obtain ⟨p, hp, hr⟩ := List.mem_flatMap.mp hr
  exact List.mem_flatMap.mpr ⟨p, mem_of_retained hp, hr⟩

/-- How an entry of a parameter list comes to its slot, or to none. -/
inductive SlotRun (ctx : Context) (p : Value) (l : Ledger) : Option Slot → Ledger → Prop
  | passed (hp : ∀ entries, p.opened ≠ .map entries) : SlotRun ctx p l none l
  | lost {entries : Entries} {ref : String} (hp : p.opened = .map entries)
      (href : Entries.get? "$ref" entries = some (.scalar (.text ref)))
      (hplace : (target? ctx.document ref).any isPlaced = false) :
      SlotRun ctx p l none (l.addWarning (unresolved ref))
  | referred {entries target : Entries} {ref type : String} {l' : Ledger}
      (hp : p.opened = .map entries) (href : Entries.get? "$ref" entries = some (.scalar (.text ref)))
      (htarget : target? ctx.document ref = some target) (hplace : isPlaced target = true)
      (htype : (refer "" ref).exec l = (.ok type, l')) :
      SlotRun ctx p l (some ⟨Value.field "in" target, Value.field "name" target,
        ⟨type, (Value.field "required" target).isTrue, .null⟩⟩) l'
  | skipped {entries : Entries} {type warning : String} {l' : Ledger} (hp : p.opened = .map entries)
      (href : Entries.get? "$ref" entries = none) (hplace : isPlaced entries = false)
      (htype : (composeType ctx.root (Value.field "schema" entries)).exec l = (.ok type, l')) :
      SlotRun ctx p l none (l'.addWarning warning)
  | given {entries : Entries} {type : String} {l' : Ledger} (hp : p.opened = .map entries)
      (href : Entries.get? "$ref" entries = none) (hplace : isPlaced entries = true)
      (htype : (composeType ctx.root (Value.field "schema" entries)).exec l = (.ok type, l')) :
      SlotRun ctx p l (some ⟨Value.field "in" entries, Value.field "name" entries,
        ⟨type, (Value.field "required" entries).isTrue, Value.field "description" entries⟩⟩) l'

theorem slot_ok {p : Value} {s : Option Slot} (h : (slot ctx p).exec l = (.ok s, l')) :
    SlotRun ctx p l s l' := by
  unfold slot at h
  split at h
  · rename_i entries hp
    split at h
    · rename_i v href
      obtain ⟨ref, l₁, htext, hrest⟩ := exec_bind_ok.mp h
      obtain ⟨hv, rfl⟩ := exec_lift_ok.mp htext
      rw [Reference.ofValue_ok hv] at href
      unfold referenced at hrest
      split at hrest
      · rename_i hplace
        obtain ⟨_, l₂, hw, hend⟩ := exec_bind_ok.mp hrest
        cases hend
        cases hw
        exact .lost hp href (placeOf_none.mp hplace)
      · rename_i location name hplace
        obtain ⟨type, l₂, htype, hend⟩ := exec_bind_ok.mp hrest
        cases hend
        obtain ⟨target, htarget, hplaced, rfl, rfl⟩ := placeOf_some.mp hplace
        rw [isRequired_eq htarget]
        exact .referred hp href htarget hplaced htype
    · rename_i href
      unfold inline at h
      obtain ⟨type, l₁, htype, hrest⟩ := exec_bind_ok.mp h
      split at hrest
      · rename_i hplace
        obtain ⟨warning, l₂, hu, hwarn⟩ := exec_bind_ok.mp hrest
        obtain ⟨_, l₃, hw, hend⟩ := exec_bind_ok.mp hwarn
        cases hend
        cases hw
        rw [(exec_lift_ok.mp hu).2]
        exact .skipped hp href (placed_none.mp hplace) htype
      · rename_i location name hplace
        cases hrest
        obtain ⟨hplaced, rfl, rfl⟩ := placed_some.mp hplace
        exact .given hp href hplaced htype
  · rename_i hp
    cases h
    exact .passed hp

/-- An entry comes to a slot if it has a place, and to the slot of that place. -/
theorem resolves_slot (hroot : ctx.root = "") {p : Value} {s : Option Slot}
    (h : (slot ctx p).exec l = (.ok s, l')) :
    s.map (fun s => (s.location, s.name)) = entryPlace? ctx p ∧
      Resolves (entryReferences ctx p) (if s.isSome then entryReferences ctx p else []) l l'
        (s.map (·.field.type)).toList := by
  cases slot_ok h with
  | passed hp =>
    unfold entryReferences entryPlace? placing?
    split
    · rename_i entries he
      exact (hp entries he).elim
    · exact ⟨rfl, resolves_nothing _ _⟩
  | lost hp href hplace =>
    have hnone : ∀ fields : Option Entries, fields.any isPlaced = false →
        fields.filter isPlaced = none := by
      intro fields hfields
      cases fields with
      | none => rfl
      | some target => exact if_neg (Bool.eq_false_iff.mp hfields)
    simp only [entryReferences, entryPlace?, placing?, hp, href, hplace, hnone _ hplace]
    exact ⟨rfl, resolves_warned _ _ _⟩
  | referred hp href htarget hplace htype =>
    simp only [entryReferences, entryPlace?, placing?, hp, href, htarget, Option.filter_some, hplace,
      Option.any_some]
    exact ⟨rfl, resolves_refer htype⟩
  | skipped hp href hplace htype =>
    simp only [entryReferences, entryPlace?, placing?, hp, href, Option.filter_some, hplace]
    rw [hroot] at htype
    exact ⟨rfl, ⟨(Schema.resolves_compose _ htype).keys, by simp⟩⟩
  | given hp href hplace htype =>
    simp only [entryReferences, entryPlace?, placing?, hp, href, Option.filter_some, hplace]
    rw [hroot] at htype
    exact ⟨rfl, Schema.resolves_compose _ htype⟩

theorem place_ok {groups next : ParameterGroups} {s : Slot} (h : place groups s = .ok next) :
    ∃ location name, s.location = .scalar location ∧ s.name = .scalar name ∧
      next = groups.put location name s.field := by
  unfold place at h
  obtain ⟨location, hl, h⟩ := except_bind_ok.mp h
  obtain ⟨name, hn, h⟩ := except_bind_ok.mp h
  cases h
  exact ⟨location, name, Value.asKey_ok hl, Value.asKey_ok hn, rfl⟩

theorem groupOnto_holds (hroot : ctx.root = "") {items : List Value} {groups final : ParameterGroups}
    {location name : Scalar} {f : ParameterField} (hf : groups.Holds location name f)
    (hfree : (items.filterMap (entryPlace? ctx)).any
      (samePlace (.scalar location, .scalar name)) = false)
    (h : (groupOnto ctx groups items).exec l = (.ok final, l')) : final.Holds location name f := by
  induction items generalizing groups l with
  | nil =>
    cases h
    exact hf
  | cons p rest ih =>
    rw [groupOnto] at h
    obtain ⟨s, l₁, hs, h⟩ := exec_bind_ok.mp h
    obtain ⟨hplace, _⟩ := resolves_slot hroot hs
    cases s with
    | none =>
      rw [List.filterMap_cons, ← hplace] at hfree
      exact ih hf hfree h
    | some s =>
      obtain ⟨next, l₂, hn, h⟩ := exec_bind_ok.mp h
      obtain ⟨location', name', hl, hm, rfl⟩ := place_ok (exec_lift_ok.mp hn).1
      rw [List.filterMap_cons, ← hplace, Option.map_some, hl, hm, List.any_cons, Bool.or_eq_false_iff]
        at hfree
      exact ih (ParameterGroups.holds_put_other hf hfree.1) hfree.2 h

theorem resolves_groupOnto (hroot : ctx.root = "") {items : List Value} {groups final : ParameterGroups}
    (h : (groupOnto ctx groups items).exec l = (.ok final, l')) :
    Resolves (items.flatMap (entryReferences ctx)) ((retained ctx items).flatMap (entryReferences ctx))
      l l' final.types := by
  induction items generalizing groups l with
  | nil =>
    cases h
    exact resolves_nothing _ _
  | cons p rest ih =>
    rw [groupOnto] at h
    obtain ⟨s, l₁, hs, h⟩ := exec_bind_ok.mp h
    obtain ⟨hplace, hslot⟩ := resolves_slot hroot hs
    rw [List.flatMap_cons, retained, ← hplace]
    cases s with
    | none =>
      have hall := hslot.append (ih h)
      exact hall
    | some s =>
      obtain ⟨next, l₂, hn, hgo⟩ := exec_bind_ok.mp h
      obtain ⟨hput, rfl⟩ := exec_lift_ok.mp hn
      obtain ⟨location, name, hl, hm, rfl⟩ := place_ok hput
      have hrest := ih hgo
      rw [Option.map_some, hl, hm]
      dsimp only
      split
      · rename_i hlater
        -- A later entry takes the place: this one is resolved, and need not be written.
        exact ⟨(hslot.append hrest).keys, hrest.shown⟩
      · rename_i hlater
        have hfree := Bool.eq_false_iff.mpr hlater
        have hheld := groupOnto_holds hroot (ParameterGroups.holds_put location name s.field groups)
          hfree hgo
        rw [List.flatMap_cons]
        apply (hslot.append hrest).within
        intro t ht
        rcases List.mem_append.mp ht with ht | ht
        · have hs : t = s.field.type := by simpa using ht
          exact ⟨t, hs ▸ ParameterGroups.mem_types hheld, within_refl t⟩
        · exact ⟨t, ht, within_refl t⟩

theorem group_ok {parameters : Value} {groups : ParameterGroups}
    (h : (group ctx parameters).exec l = (.ok groups, l')) :
    (groupOnto ctx [] (entriesOf parameters)).exec l = (.ok groups, l') := by
  unfold group at h
  obtain ⟨items, l₁, hi, honto⟩ := exec_bind_ok.mp h
  obtain ⟨hlisted, rfl⟩ := exec_lift_ok.mp hi
  unfold listed at hlisted
  unfold entriesOf
  split at hlisted
  · rename_i ht
    rwa [if_pos ht, Value.elements_ok hlisted]
  · rename_i ht
    cases hlisted
    rwa [if_neg ht]

theorem resolves_composeIfAny (hroot : ctx.root = "") {parameters : Value} {text : String}
    (h : (composeIfAny ctx parameters).exec l = (.ok text, l')) :
    Resolves (references ctx parameters) (shown ctx parameters) l l' [text] := by
  unfold composeIfAny at h
  split at h
  · unfold compose at h
    obtain ⟨groups, l₁, hg, hend⟩ := exec_bind_ok.mp h
    obtain ⟨hr, rfl⟩ := exec_lift_ok.mp hend
    exact (resolves_groupOnto hroot (group_ok hg)).into (ParameterGroups.within_groups hr)
  · rename_i ht
    cases h
    unfold references shown entriesOf
    rw [if_neg ht]
    exact resolves_nothing _ _

end Parameters

end ApiTypes
