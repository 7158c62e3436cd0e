import ApiTypes.Document.Parameters
import ApiTypes.Proofs.Reference.Pointer
import Mathlib.Data.List.Flatten

/-!
# What a reference leads to and what it addresses

A lookup that goes through mappings only comes past names. The expression for the
reference is the address of these names exactly if the reference is tidy: behind its
first slashes no segment is empty, and there is no escape in the first one. Of an untidy
reference the lookup skips the empty segments and reads the first one back, and the
expression does neither.
-/

set_option autoImplicit false

namespace ApiTypes.Reference

/-- The address of what stands under the names: the first name, then an index for each other. -/
def addressOf : List String → String
  | [] => ""
  | name :: rest => name ++ indexed rest

/-- The lookup of a reference goes through mappings only, under these names, to this target. -/
structure Visits (document : Value) (ref : String) (names : List String) (target : Value) : Prop where
  inside : ref.toList.head? = some '#'
  segments_eq : segments ref.toList.tail = names
  leads : Leads document names (some target)

/-- The segments behind the first slashes of a reference, as they are written. -/
def pieces (ref : String) : List (List Char) := Text.split '/' (ref.toList.tail.dropWhile (· = '/'))

/-- No segment is empty, and the first one is read back as itself. -/
def Tidy (ref : String) : Prop :=
  (∀ s ∈ pieces ref, s ≠ []) ∧ unescape ((pieces ref).headD []) = (pieces ref).headD []

instance (ref : String) : Decidable (Tidy ref) := inferInstanceAs (Decidable (_ ∧ _))

theorem unescape_shorter (s : List Char) : unescape s = s ∨ (unescape s).length < s.length := by
  unfold unescape
  have htilde := Text.replacePair_shorter '~' '0' '~' (Text.replacePair '~' '1' ['/'] s)
  rcases Text.replacePair_shorter '~' '1' '/' s with h | h
  · rw [h] at htilde ⊢
    exact htilde
  · right
    rcases htilde with heq | hlt
    · rw [heq]
      exact h
    · omega

theorem index_filter_le (ss : List (List Char)) :
    (index (ss.filter (!·.isEmpty))).length ≤ (index ss).length :=
  (List.filter_sublist.flatMap _).length_le

theorem index_shorter (ss : List (List Char)) : (∀ s ∈ ss, s ≠ []) ∨
    (index (ss.filter (!·.isEmpty))).length < (index ss).length := by
  induction ss with
  | nil => exact .inl (by simp)
  | cons s rest ih =>
    have hcons : ∀ ss : List (List Char), (index (s :: ss)).length =
        (unescape s).length + 4 + (index ss).length := by
      intro ss
      simp only [index, List.flatMap_cons, bracket, List.length_append, List.length_cons,
        List.length_nil]
    by_cases hs : s = []
    · right
      have hle := index_filter_le rest
      rw [List.filter_cons_of_neg (by simp [hs]), hcons]
      omega
    · rcases ih with h | h
      · exact .inl (List.forall_mem_cons.mpr ⟨hs, h⟩)
      · right
        rw [List.filter_cons_of_pos (by simp [hs]), hcons, hcons]
        omega

theorem filter_split_dropWhile (s : List Char) :
    (Text.split '/' s).filter (!·.isEmpty) =
      (Text.split '/' (s.dropWhile (· = '/'))).filter (!·.isEmpty) := by
  induction s with
  | nil => rfl
  | cons c rest ih =>
    by_cases hc : c = '/'
    · rw [Text.split, if_pos hc, List.filter_cons_of_neg (by simp), ih,
        List.dropWhile_cons_of_pos (by simpa using hc)]
    · rw [List.dropWhile_cons_of_neg (by simpa using hc)]

section Pieces

variable {ref : String} {names : List String}

theorem segments_pieces (ref : String) : segments ref.toList.tail =
    ((pieces ref).filter (!·.isEmpty)).map fun s => String.ofList (unescape s) := by
  rw [segments, filter_split_dropWhile, pieces]

theorem pieces_eq_cons (hne : segments ref.toList.tail ≠ []) :
    ∃ head rest, pieces ref = head :: rest ∧ head ≠ [] := by
  rw [segments_pieces] at hne
  unfold pieces at hne ⊢
  cases hs : ref.toList.tail.dropWhile (· = '/') with
  | nil =>
    rw [hs] at hne
    exact (hne rfl).elim
  | cons c r =>
    have hc : c ≠ '/' := by
      have hhead := List.head?_dropWhile_not (· = '/') ref.toList.tail
      rw [hs] at hhead
      simpa using hhead
    obtain ⟨piece, rest, hr⟩ := List.exists_cons_of_ne_nil (Text.split_ne_nil '/' r)
    exact ⟨c :: piece, rest, by rw [Text.split, if_neg hc, hr], by simp⟩

theorem expression_pieces (hinside : ref.toList.head? = some '#') {head : List Char}
    {rest : List (List Char)} (hp : pieces ref = head :: rest) :
    (expression "" ref).toList = head ++ index rest := by
  obtain ⟨s, hs⟩ := List.head?_eq_some_iff.mp hinside
  have htarget : target ref = .inside (s.dropWhile (· = '/')) := by
    rw [target, hs]
    rfl
  rw [pieces, hs, List.tail_cons] at hp
  rw [expression, htarget, String.toList_ofList]
  change address (s.dropWhile (· = '/')) = _
  rw [address, hp]

theorem addressOf_pieces {head : List Char} {rest : List (List Char)} (hp : pieces ref = head :: rest)
    (hhead : head ≠ []) : (addressOf (segments ref.toList.tail)).toList =
      unescape head ++ index (rest.filter (!·.isEmpty)) := by
  rw [segments_pieces, hp, List.filter_cons_of_pos (by simpa using hhead), List.map_cons, addressOf,
    indexed, String.toList_append, String.toList_ofList, String.toList_join, List.flatMap_map,
    List.flatMap_map, index]
  congr 2
  funext s
  simp [bracket]

theorem expression_eq_addressOf_iff (hinside : ref.toList.head? = some '#')
    (hne : segments ref.toList.tail ≠ []) :
    expression "" ref = addressOf (segments ref.toList.tail) ↔ Tidy ref := by
  obtain ⟨head, rest, hp, hhead⟩ := pieces_eq_cons hne
  have htidy : Tidy ref ↔ (∀ s ∈ rest, s ≠ []) ∧ unescape head = head := by
    rw [Tidy, hp, List.forall_mem_cons, List.headD_cons]
    exact ⟨fun h => ⟨h.1.2, h.2⟩, fun h => ⟨⟨hhead, h.1⟩, h.2⟩⟩
  rw [htidy, ← String.toList_inj, expression_pieces hinside hp, addressOf_pieces hp hhead]
  constructor
  · intro h
    -- What is not tidy makes the address shorter than the expression.
    have hlength := congrArg List.length h
    rw [List.length_append, List.length_append] at hlength
    have hle := index_filter_le rest
    rcases unescape_shorter head with hescape | hlt
    · rcases index_shorter rest with hrest | hlt
      · exact ⟨hrest, hescape⟩
      · rw [hescape] at hlength
        omega
    · omega
  · rintro ⟨hrest, hescape⟩
    rw [hescape, List.filter_eq_self.mpr fun s hs => by simpa using hrest s hs]

namespace Visits

variable {document target : Value} (h : Visits document ref names target)

include h

theorem lookup_eq : lookup document ref = some target := by
  obtain ⟨path, hpath⟩ := List.head?_eq_some_iff.mp h.inside
  have hsegments := h.segments_eq
  rw [hpath, List.tail_cons] at hsegments
  rw [lookup, hpath]
  change follow document (segments path) = _
  rw [hsegments]
  exact follow_leads h.leads

theorem externalKey_eq_none : externalKey? ref = none := by
  rw [externalKey_eq, if_pos h.inside]

variable {fields : Entries} (ht : target.opened = .map fields)

include ht

theorem placeOf_eq : Parameters.placeOf? document ref = Parameters.placed? fields := by
  rw [Parameters.placeOf?, h.lookup_eq, Option.map_some, ht]

theorem isRequired_eq : isRequired document ref = (Value.field "required" fields).isTrue := by
  rw [isRequired, h.lookup_eq, Option.map_some, ht]

end Visits

end Pieces

open Compose in
/-- The parameter that a reference leads to has the place of the target, and is typed by the address of
the names on the way exactly if the reference is tidy. -/
theorem slot_visits {document target : Value} {ref : String} {names : List String} (hne : names ≠ [])
    (h : Visits document ref names target) :
    lookup document ref = some target ∧ (expression "" ref = addressOf names ↔ Tidy ref) ∧
    ∀ (root : String) (p : Value) (entries fields : Entries) (location name : Value),
      p.opened = .map entries → Entries.get? "$ref" entries = some (.text ref) →
      target.opened = .map fields → Parameters.placed? fields = some (location, name) → ∀ l,
        (Parameters.slot ⟨document, root⟩ p).exec l = (.ok (some ⟨location, name,
          ⟨expression "" ref, (Value.field "required" fields).isTrue, .null⟩⟩), l) := by
  refine ⟨h.lookup_eq, ?_, fun root p entries fields location name hp href ht hplace l => ?_⟩
  · rw [← h.segments_eq]
    exact expression_eq_addressOf_iff h.inside (h.segments_eq ▸ hne)
  · unfold Parameters.slot
    rw [hp]
    dsimp only
    rw [href]
    refine exec_bind_ok.mpr ⟨ref, l, exec_lift_ok.mpr ⟨rfl, rfl⟩, ?_⟩
    unfold Parameters.referenced
    rw [h.placeOf_eq ht, hplace]
    refine exec_bind_ok.mpr ⟨expression "" ref, l, refer_ok.mpr ⟨rfl, ?_⟩, ?_⟩
    · rw [h.externalKey_eq_none]
      rfl
    · rw [h.isRequired_eq ht]
      rfl

/-- A parameter, and a document in which it stands twice, once under a name with a slash in it. -/
def limitFields : Entries := [(.text "in", .scalar (.text "query")),
  (.text "name", .scalar (.text "limit")), (.text "required", .scalar (.bool true))]

def limit : Value := .map limitFields

def limitDocument : Value := .map [
  (.text "components", .map [(.text "parameters", .map [(.text "limit", limit)])]),
  (.text "a/b", .map [(.text "limit", limit)])]

theorem slot_visits_limit :
    let ref := "#/components/parameters/limit"
    let names := ["components", "parameters", "limit"]
    let entries : Entries := [(.text "$ref", .scalar (.text ref))]
    (names ≠ [] ∧ Visits limitDocument ref names limit ∧ Tidy ref ∧
      Parameters.placed? limitFields = some (.scalar (.text "query"), .scalar (.text "limit"))) ∧
    lookup limitDocument ref = some limit ∧ expression "" ref = addressOf names ∧
    addressOf names = "components[\"parameters\"][\"limit\"]" ∧
    (Parameters.slot ⟨limitDocument, ""⟩ (.map entries)).exec .empty =
      (.ok (some ⟨.scalar (.text "query"), .scalar (.text "limit"), ⟨addressOf names, true, .null⟩⟩),
        .empty) := by
  intro ref names entries
  have hne : names ≠ [] := by decide
  have hleads : Leads limitDocument names (some limit) :=
    .down rfl rfl (.down rfl rfl (.down rfl rfl (.here _)))
  have hvisits : Visits limitDocument ref names limit := ⟨by decide, by decide, hleads⟩
  have htidy : Tidy ref := by decide
  obtain ⟨hlookup, htyped, hslot⟩ := slot_visits hne hvisits
  have hexpression := htyped.mpr htidy
  refine ⟨⟨hne, hvisits, htidy, rfl⟩, hlookup, hexpression, by decide, ?_⟩
  rw [hslot "" (.map entries) entries _ _ _ rfl rfl rfl rfl, hexpression]
  rfl

/-- An empty segment between two names, a slash at the end and an escape in the first name: the lookup
comes to the parameter under these names, and the expression is not their address. -/
theorem untidy_addresses :
    (Visits limitDocument "#/components//parameters/limit" ["components", "parameters", "limit"] limit ∧
      expression "" "#/components//parameters/limit" = "components[\"\"][\"parameters\"][\"limit\"]" ∧
      addressOf ["components", "parameters", "limit"] = "components[\"parameters\"][\"limit\"]") ∧
    (Visits limitDocument "#/components/parameters/limit/" ["components", "parameters", "limit"] limit ∧
      expression "" "#/components/parameters/limit/" = "components[\"parameters\"][\"limit\"][\"\"]") ∧
    (Visits limitDocument "#/a~1b/limit" ["a/b", "limit"] limit ∧
      expression "" "#/a~1b/limit" = "a~1b[\"limit\"]" ∧
      addressOf ["a/b", "limit"] = "a/b[\"limit\"]") := by
  have hleads : Leads limitDocument ["components", "parameters", "limit"] (some limit) :=
    .down rfl rfl (.down rfl rfl (.down rfl rfl (.here _)))
  have hother : Leads limitDocument ["a/b", "limit"] (some limit) := .down rfl rfl (.down rfl rfl (.here _))
  refine ⟨⟨⟨by decide, by decide, hleads⟩, ?_, ?_⟩, ⟨⟨by decide, by decide, hleads⟩, ?_⟩,
    ⟨⟨by decide, by decide, hother⟩, ?_, ?_⟩⟩
  all_goals decide

end ApiTypes.Reference
