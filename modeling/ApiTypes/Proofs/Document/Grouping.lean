import ApiTypes.Proofs.Compose.Alone
import ApiTypes.Proofs.Document.Totality

/-!
# The place of the first, the field of the last

A parameter list is grouped by what its accepted entries say about themselves: locations
and names stand in the order in which they first occur, and in each place is the field of
the last entry for it. A reference is accepted for the place that its target names. The
fields are rendered as they are grouped, one declaration for each.
-/

set_option autoImplicit false

namespace ApiTypes

open Compose

/-- A parameter that is accepted: the keys of its place, and its field. -/
structure Accepted where
  location : Scalar
  name : Scalar
  field : ParameterField

namespace Accepted

def isAt (a : Accepted) (location name : Scalar) : Bool := a.location.same location && a.name.same name

def slot (a : Accepted) : Parameters.Slot := ⟨.scalar a.location, .scalar a.name, a.field⟩

def byLocation (as : List Accepted) : List (Scalar × Accepted) := as.map fun a => (a.location, a)

def byName (location : Scalar) (as : List Accepted) : List (Scalar × Accepted) :=
  (as.filter fun a => a.location.same location).map fun a => (a.name, a)

def lastAt? (location name : Scalar) (as : List Accepted) : Option ParameterField :=
  (as.reverse.find? fun a => a.isAt location name).map Accepted.field

variable (as : List Accepted) (a : Accepted)

theorem byLocation_append_one : byLocation (as ++ [a]) = byLocation as ++ [(a.location, a)] := by
  rw [byLocation, List.map_append]
  rfl

theorem byName_append_one (location : Scalar) : byName location (as ++ [a]) =
    byName location as ++ if a.location.same location then [(a.name, a)] else [] := by
  rw [byName, List.filter_append, List.map_append]
  cases h : a.location.same location <;> simp [byName, h]

theorem lastAt?_append_one (location name : Scalar) : lastAt? location name (as ++ [a]) =
    if a.isAt location name then some a.field else lastAt? location name as := by
  rw [lastAt?, List.reverse_append, List.reverse_singleton, List.singleton_append, List.find?_cons]
  cases a.isAt location name <;> rfl

end Accepted

namespace ParameterGroups

open Accepted

/-- The groups are those of the accepted parameters. -/
structure Grouped (as : List Accepted) (groups : ParameterGroups) : Prop where
  /-- Each location stands once, in the order of first occurrence. -/
  locations : groups.map (·.1) = (Entries.firsts (byLocation as)).map (·.1)
  /-- So does each name in its location. -/
  names : ∀ location fields, Entries.find? location groups = some fields →
    fields.map (·.1) = (Entries.firsts (byName location as)).map (·.1)
  /-- In each place is the field of the last parameter for it. -/
  last : ∀ location name f, groups.Holds location name f ↔ lastAt? location name as = some f

theorem grouped_nil : Grouped [] [] where
  locations := rfl
  names _ _ h := by cases h
  last location name f := by
    constructor
    · rintro ⟨fields, h, _⟩
      cases h
    · intro h
      cases h

namespace Grouped

variable {as : List Accepted} {groups : ParameterGroups} (h : Grouped as groups)

include h

theorem any_location (location : Scalar) : (groups.any fun g => g.1.same location) =
    as.any fun a => a.location.same location := by
  have hkeys := congrArg (fun keys => keys.any fun k => k.same location) h.locations
  rw [List.any_map, List.any_map] at hkeys
  refine hkeys.trans ((Entries.any_firsts location (byLocation as)).trans ?_)
  rw [byLocation, List.any_map]
  rfl

theorem names_getD (location : Scalar) : ((Entries.find? location groups).getD []).map (·.1) =
    (Entries.firsts (byName location as)).map (·.1) := by
  cases hfind : Entries.find? location groups with
  | some fields => exact h.names location fields hfind
  | none =>
    have hany := h.any_location location
    rw [← Entries.find?_isSome, hfind] at hany
    have hnone : as.filter (fun a => a.location.same location) = [] :=
      List.filter_eq_nil_iff.mpr (List.any_eq_false.mp hany.symm)
    rw [byName, hnone]
    rfl

theorem put (a : Accepted) : Grouped (as ++ [a]) (groups.put a.location a.name a.field) where
  locations := by
    rw [byLocation_append_one]
    exact Entries.keys_put_firsts h.locations _ _ _
  names := by
    intro location fields hfind
    rw [find?_put] at hfind
    rw [byName_append_one]
    -- The names change in the location of the parameter only, which may be a new one.
    split at hfind
    · rename_i hsame
      cases hfind
      rw [if_pos hsame, Entries.find?_congr hsame]
      exact Entries.keys_put_firsts (h.names_getD location) _ _ _
    · rename_i hother
      rw [if_neg hother, List.append_nil]
      exact h.names location fields hfind
  last := by
    intro location name f
    rw [holds_put_iff, lastAt?_append_one, isAt]
    split
    · exact ⟨fun hf => congrArg some hf.symm, fun hf => (Option.some.inj hf).symm⟩
    · exact h.last location name f

theorem puts (more : List Accepted) : Grouped (as ++ more)
    (more.foldl (fun groups a => groups.put a.location a.name a.field) groups) := by
  induction more generalizing as groups with
  | nil =>
    rw [List.append_nil]
    exact h
  | cons a rest ih =>
    rw [List.foldl_cons, ← List.singleton_append, ← List.append_assoc]
    exact ih (h.put a)

theorem apart : groups.Apart := by
  have hlocations := (Entries.distinct_firsts (byLocation as)).of_keys h.locations
  refine ⟨hlocations, fun g hg => ?_⟩
  exact (Entries.distinct_firsts (byName g.1 as)).of_keys
    (h.names g.1 g.2 (Entries.find?_of_mem hlocations hg))

theorem exists_accepted {g : Scalar × List (Scalar × ParameterField)} (hg : g ∈ groups) :
    (∃ a ∈ as, a.location = g.1) ∧
      ∀ f ∈ g.2, (∃ a ∈ as, a.name = f.1) ∧ ∃ a ∈ as, a.field = f.2 := by
  have hlocation : g.1 ∈ (Entries.firsts (byLocation as)).map (·.1) :=
    h.locations ▸ List.mem_map_of_mem hg
  obtain ⟨e, he, hkey⟩ := List.mem_map.mp hlocation
  obtain ⟨a, ha, rfl⟩ := List.mem_map.mp (Entries.mem_of_firsts he)
  refine ⟨⟨a, ha, hkey⟩, fun f hf => ⟨?_, ?_⟩⟩
  · have hname : f.1 ∈ (Entries.firsts (byName g.1 as)).map (·.1) :=
      h.names g.1 g.2 (Entries.find?_of_mem h.apart.locations hg) ▸ List.mem_map_of_mem hf
    obtain ⟨e, he, hkey⟩ := List.mem_map.mp hname
    obtain ⟨b, hb, rfl⟩ := List.mem_map.mp (Entries.mem_of_firsts he)
    exact ⟨b, (List.mem_filter.mp hb).1, hkey⟩
  · obtain ⟨b, hb, hfield⟩ := Option.map_eq_some_iff.mp ((h.last _ _ _).mp (h.apart.holds hg hf))
    exact ⟨b, List.mem_reverse.mp (List.mem_of_find?_eq_some hb), hfield⟩

end Grouped

def Declares (f : Scalar × ParameterField) (line : String) : Prop :=
  ∃ comment name, DocComment.ofValue f.2.description = .ok comment ∧ f.1.plain = .ok name ∧
    line = comment ++ Expression.fieldHead name f.2.required ++ f.2.type ++ ";\n"

/-- The record of a location: one declaration for each of its fields, in their order. -/
def Record (g : Scalar × List (Scalar × ParameterField)) (record : String) : Prop :=
  ∃ name lines, g.1.plain = .ok name ∧ List.Forall₂ Declares g.2 lines ∧
    record = "\"" ++ name ++ "\": \x7b\n" ++ String.join lines ++ "\x7d\n"

/-- The block of the groups: one record for each location, in their order. -/
def Block (groups : ParameterGroups) (block : String) : Prop :=
  ∃ records, List.Forall₂ Record groups records ∧
    block = "parameters: \x7b\n" ++ String.join records ++ "\x7d\n"

theorem renderField_iff (f : Scalar × ParameterField) (line : String) :
    f.2.render f.1 = .ok line ↔ Declares f line := by
  unfold ParameterField.render
  constructor
  · intro h
    obtain ⟨comment, hcomment, h⟩ := except_bind_ok.mp h
    obtain ⟨name, hname, h⟩ := except_bind_ok.mp h
    cases h
    exact ⟨comment, name, hcomment, hname, rfl⟩
  · rintro ⟨comment, name, hcomment, hname, rfl⟩
    rw [hcomment, hname]
    rfl

theorem renderGroup_iff (g : Scalar × List (Scalar × ParameterField)) (record : String) :
    renderGroup g.1 g.2 = .ok record ↔ Record g record := by
  unfold renderGroup renderFields
  constructor
  · intro h
    obtain ⟨name, hname, h⟩ := except_bind_ok.mp h
    obtain ⟨fields, hfields, h⟩ := except_bind_ok.mp h
    obtain ⟨lines, hlines, hjoin⟩ := except_bind_ok.mp hfields
    cases h
    cases hjoin
    exact ⟨name, lines, hname, (except_mapM_ok hlines).imp fun f _ => (renderField_iff f _).mp, rfl⟩
  · rintro ⟨name, lines, hname, hlines, rfl⟩
    rw [hname, except_mapM_iff.mpr (hlines.imp fun f _ => (renderField_iff f _).mpr)]
    rfl

theorem render_iff (groups : ParameterGroups) (block : String) :
    groups.render = .ok block ↔ Block groups block := by
  unfold render
  constructor
  · intro h
    obtain ⟨records, hrecords, h⟩ := except_bind_ok.mp h
    cases h
    exact ⟨records, (except_mapM_ok hrecords).imp fun g _ => (renderGroup_iff g _).mp, rfl⟩
  · rintro ⟨records, hrecords, rfl⟩
    rw [except_mapM_iff.mpr (hrecords.imp fun g _ => (renderGroup_iff g _).mpr)]
    rfl

end ParameterGroups

namespace Parameters

variable {ctx : Context} {l l' : Ledger}

def typeOf (ctx : Context) (entries : Entries) : Compose String :=
  composeType ctx.root (Value.field "schema" entries)

theorem additive_typeOf (ctx : Context) (entries : Entries) : Additive (typeOf ctx entries) :=
  Schema.closed_compose closed_additive.toClosed _ _

/-- The place and the field that a reference stands for: the place is that of its target. -/
def ofReference? (ctx : Context) (ref : String) : Option Slot :=
  ((target? ctx.document ref).filter isPlaced).map fun target =>
    ⟨Value.field "in" target, Value.field "name" target,
      ⟨Reference.expression "" ref, (Value.field "required" target).isTrue, .null⟩⟩

def ofEntries? (ctx : Context) (entries : Entries) : Option Slot :=
  if isPlaced entries then
    some ⟨Value.field "in" entries, Value.field "name" entries,
      ⟨(typeOf ctx entries).text, (Value.field "required" entries).isTrue,
        Value.field "description" entries⟩⟩
  else none

def accepted? (ctx : Context) (p : Value) : Option Slot :=
  match p.opened with
  | .map entries =>
    match Entries.get? "$ref" entries with
    | some (.scalar (.text ref)) => ofReference? ctx ref
    | some _ => none
    | none => ofEntries? ctx entries
  | _ => none

/-- The schema of an entry that is no reference comes to a type. -/
def Typed (ctx : Context) (p : Value) : Prop :=
  ∀ entries, p.opened = .map entries → Entries.get? "$ref" entries = none →
    ∃ t, (typeOf ctx entries).result = .ok t

theorem slot_accepted {p : Value} {s : Option Slot} (h : (slot ctx p).exec l = (.ok s, l')) :
    s = accepted? ctx p ∧ Typed ctx p := by
  unfold accepted? Typed
  cases slot_ok h with
  | passed hp =>
    refine ⟨?_, fun entries he => (hp entries he).elim⟩
    cases hopened : p.opened with
    | map entries => exact (hp entries hopened).elim
    | _ => rfl
  | @lost entries ref hp href hplace =>
    have hnone : ofReference? ctx ref = none := by
      unfold ofReference?
      cases htarget : target? ctx.document ref with
      | none => rfl
      | some target =>
        rw [htarget, Option.any_some] at hplace
        rw [Option.filter_some, if_neg (Bool.eq_false_iff.mp hplace), Option.map_none]
    simp only [hp, href, hnone, Value.map.injEq, forall_eq']
    exact ⟨trivial, fun hnone => by cases hnone⟩
  | referred hp href htarget hplace htype =>
    simp only [hp, href, ofReference?, htarget, Option.filter_some, hplace, (refer_ok.mp htype).1,
      Value.map.injEq, forall_eq']
    exact ⟨rfl, fun hnone => by cases hnone⟩
  | @skipped entries type _ _ hp href hplace htype =>
    have hresult : (typeOf ctx entries).result = .ok type :=
      (result_of_exec (additive_typeOf ctx entries) htype).1
    simp only [hp, href, ofEntries?, hplace, Value.map.injEq, forall_eq']
    exact ⟨rfl, fun _ => ⟨type, hresult⟩⟩
  | @given entries type _ hp href hplace htype =>
    have hresult : (typeOf ctx entries).result = .ok type :=
      (result_of_exec (additive_typeOf ctx entries) htype).1
    simp only [hp, href, ofEntries?, hplace, text_of_result hresult, Value.map.injEq, forall_eq']
    exact ⟨rfl, fun _ => ⟨type, hresult⟩⟩

theorem groupOnto_puts {items : List Value} {groups final : ParameterGroups}
    (h : (groupOnto ctx groups items).exec l = (.ok final, l')) :
    (∃ as : List Accepted, as.map Accepted.slot = items.filterMap (accepted? ctx) ∧
      final = as.foldl (fun groups a => groups.put a.location a.name a.field) groups) ∧
      ∀ p ∈ items, Typed ctx p := by
  induction items generalizing groups l with
  | nil =>
    cases h
    exact ⟨⟨[], rfl, rfl⟩, by simp⟩
  | cons p rest ih =>
    rw [groupOnto] at h
    obtain ⟨s, l₁, hs, h⟩ := exec_bind_ok.mp h
    obtain ⟨haccepted, htyped⟩ := slot_accepted hs
    rw [List.filterMap_cons, ← haccepted, List.forall_mem_cons]
    cases s with
    | none =>
      obtain ⟨has, hrest⟩ := ih h
      exact ⟨has, htyped, hrest⟩
    | some s =>
      obtain ⟨next, l₂, hn, h⟩ := exec_bind_ok.mp h
      obtain ⟨location, name, hl, hm, rfl⟩ := place_ok (exec_lift_ok.mp hn).1
      obtain ⟨⟨as, hslots, hfinal⟩, hrest⟩ := ih h
      have hslot : Accepted.slot ⟨location, name, s.field⟩ = s := by
        rw [Accepted.slot, ← hl, ← hm]
      refine ⟨⟨⟨location, name, s.field⟩ :: as, ?_, hfinal⟩, htyped, hrest⟩
      rw [List.map_cons, hslot, hslots]

theorem accepted_json {p : Value} {s : Slot} (hd : ctx.document.isJson = true) (hp : p.isJson = true)
    (h : accepted? ctx p = some s) :
    s.location.isJson = true ∧ s.name.isJson = true ∧ s.field.Written := by
  unfold accepted? at h
  rw [Value.opened_json hp] at h
  split at h
  · rename_i entries
    split at h
    · rename_i ref _
      obtain ⟨target, htarget, rfl⟩ := Option.map_eq_some_iff.mp h
      obtain ⟨v, hv, hopened⟩ := target_some (Option.filter_eq_some_iff.mp htarget).1
      have hj := Reference.json_lookup hd hv
      rw [Value.opened_json hj] at hopened
      rw [hopened] at hj
      exact ⟨Value.json_field hj "in", Value.json_field hj "name", "", rfl⟩
    · cases h
    · unfold ofEntries? at h
      split at h
      · cases h
        exact ⟨Value.json_field hp "in", Value.json_field hp "name",
          Value.description_json (Value.json_field hp "description")⟩
      · cases h
  · cases h

theorem entriesOf_json {parameters p : Value} (h : parameters.isJson = true)
    (hp : p ∈ entriesOf parameters) : p.isJson = true := by
  unfold entriesOf Value.elements? at hp
  rw [Value.opened_json h] at hp
  split at hp
  · split at hp
    · exact Value.json_list.mp h p hp
    · obtain ⟨e, he, rfl⟩ := List.mem_map.mp hp
      obtain ⟨⟨s, hs⟩, _⟩ := Value.json_map.mp h e he
      rw [hs]
      rfl
    · obtain ⟨c, _, rfl⟩ := List.mem_map.mp hp
      rfl
    · cases hp
  · cases hp

/-- A parameter list that is grouped is grouped by its accepted entries, each location and each name
in it in the place of its first occurrence and with the field of the last entry for it, and these fields
are what is rendered. In JSON they always come to a text. -/
theorem group_accepted {parameters : Value} {groups : ParameterGroups}
    (h : (group ctx parameters).exec l = (.ok groups, l')) :
    ∃ as : List Accepted, as.map Accepted.slot = (entriesOf parameters).filterMap (accepted? ctx) ∧
      (∀ p ∈ entriesOf parameters, Typed ctx p) ∧ groups.Grouped as ∧ groups.Apart ∧
      (compose ctx parameters).exec l = (groups.render, l') ∧
      (∀ block, groups.render = .ok block ↔ groups.Block block) ∧
      (ctx.document.isJson = true → parameters.isJson = true → ∃ block, groups.render = .ok block) := by
  have hcompose : (compose ctx parameters).exec l = (groups.render, l') := by
    unfold compose
    rw [exec_bind, h]
    exact exec_lift _ _
  obtain ⟨⟨as, hslots, hfinal⟩, htyped⟩ := groupOnto_puts (group_ok h)
  have hgrouped : groups.Grouped as := hfinal ▸ ParameterGroups.grouped_nil.puts as
  refine ⟨as, hslots, htyped, hgrouped, hgrouped.apart, hcompose, ParameterGroups.render_iff groups,
    fun hd hp => ?_⟩
  have hwritten : ∀ a ∈ as, (∃ t, a.location.plain = .ok t) ∧ (∃ t, a.name.plain = .ok t) ∧
      a.field.Written := by
    intro a ha
    obtain ⟨p, hmem, hslot⟩ := List.mem_filterMap.mp (hslots ▸ List.mem_map_of_mem ha)
    obtain ⟨hl, hn, hfield⟩ := accepted_json hd (entriesOf_json hp hmem) hslot
    exact ⟨Scalar.plain_json hl, Scalar.plain_json hn, hfield⟩
  refine ParameterGroups.render_total fun g hg => ?_
  obtain ⟨⟨a, ha, hlocation⟩, hfields⟩ := hgrouped.exists_accepted hg
  refine ⟨hlocation ▸ (hwritten a ha).1, fun f hf => ?_⟩
  obtain ⟨⟨b, hb, hname⟩, c, hc, hfield⟩ := hfields f hf
  exact ⟨hname ▸ (hwritten b hb).2.1, hfield ▸ (hwritten c hc).2.2⟩

def limitContext : Context := ⟨.map [(.text "parameters", .map [(.text "limit", .map [
  (.text "in", .text "query"), (.text "name", .text "limit"),
  (.text "required", .scalar (.bool true))])])], ""⟩

/-- The reference is for the place of the first entry, and the third and the fourth entry have names
that are one key. The second entry has no location. -/
def limitList : Value := .list [
  .map [(.text "in", .text "query"), (.text "name", .text "limit"), (.text "description", .text "at most"),
    (.text "schema", .map [(.text "type", .text "string")])],
  .map [(.text "in", .text ""), (.text "name", .text "limit")],
  .map [(.text "in", .text "header"), (.text "name", .scalar (.int 1))],
  .map [(.text "in", .text "header"), (.text "name", .scalar (.bool true)),
    (.text "description", .text "one"), (.text "schema", .map [(.text "type", .text "number")])],
  .map [(.text "$ref", .text "#/parameters/limit")]]

def limitGroups : ParameterGroups := [
  (.text "query", [(.text "limit", ⟨"parameters[\"limit\"]", true, .null⟩)]),
  (.text "header", [(.int 1, ⟨"number", false, .text "one"⟩)])]

theorem limitList_grouped : (group limitContext limitList).exec .empty = (.ok limitGroups, ⟨[], [],
    ["Skipping parameter without name or location: \x7b'in': '', 'name': 'limit'\x7d"]⟩) := by
  rfl

theorem group_accepted_limit :
    ((∃ l, (group limitContext limitList).exec .empty = (.ok limitGroups, l)) ∧
      limitContext.document.isJson = true ∧ limitList.isJson = true) ∧
    ∃ as : List Accepted, as.map Accepted.slot = (entriesOf limitList).filterMap (accepted? limitContext) ∧
      limitGroups.Grouped as ∧ limitGroups.Apart ∧
      limitGroups.Block ("parameters: \x7b\n\"query\": \x7b\n\"limit\": parameters[\"limit\"];\n\x7d\n" ++
        "\"header\": \x7b\n/** one */\n\"1\"?: number;\n\x7d\n\x7d\n") := by
  obtain ⟨as, hslots, _, hgrouped, hapart, _, hblock, _⟩ := group_accepted limitList_grouped
  exact ⟨⟨⟨_, limitList_grouped⟩, by decide +kernel, by decide +kernel⟩, as, hslots, hgrouped, hapart,
    (hblock _).mp (by decide +kernel)⟩

end Parameters

end ApiTypes
