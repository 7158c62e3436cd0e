import ApiTypes.Proofs.Compose.Resolution
import ApiTypes.Proofs.Type.Meaning
import ApiTypes.Proofs.Type.Nesting

/-!
# The brackets in the text of a type

The text composed for a schema is level, as long as the names in it that stand between
double quotes can stand there and the names in front of indices are words. Descriptions
and enumerated values are escaped and need no condition.
-/

set_option autoImplicit false

namespace ApiTypes

open Compose TypeText

namespace Reference

def head (root ref : String) : List Char :=
  match target ref with
  | .inside path => (Text.split '/' (root.toList ++ path)).headD []
  | .outside _ _ => "external".toList

def indices (root ref : String) : List (List Char) :=
  match target ref with
  | .inside path => (Text.split '/' (root.toList ++ path)).tail.map unescape
  | .outside key path => key :: if path.isEmpty then [] else (Text.split '/' path).map unescape

/-- A reference whose expression is made of a word and of names that can stand between quotes. -/
def Clean (root ref : String) : Prop := Wordlike (head root ref) ∧ ∀ n ∈ indices root ref, Quotable n

instance (root ref : String) : Decidable (Clean root ref) := inferInstanceAs (Decidable (_ ∧ _))

theorem expression_eq (root ref : String) :
    (expression root ref).toList = head root ref ++ (indices root ref).flatMap bracket := by
  obtain ⟨h, names, htext, htree⟩ := expression_form root ref
  have hparts : Tree.ofReference root ref = .name (head root ref) (indices root ref) := by
    unfold Tree.ofReference head indices
    cases target ref with
    | inside path =>
      cases hs : Text.split '/' (root.toList ++ path) with
      | nil => exact (Text.split_ne_nil _ _ hs).elim
      | cons first rest => simp only [Tree.ofPath, hs, List.headD_cons, List.tail_cons]
    | outside key path => rfl
  rw [hparts] at htree
  cases htree
  exact htext

end Reference

namespace TypeText

theorem nest_indices {names : List (List Char)} (h : ∀ n ∈ names, Quotable n) :
    ∃ ts, Closes (names.flatMap Reference.bracket) ts ∧ nest [] ts = some [] := by
  induction names with
  | nil => exact ⟨[], closes_nil, rfl⟩
  | cons n rest ih =>
    obtain ⟨ts, hs, hn⟩ := ih fun m hm => h m (by simp [hm])
    have hone : nest [] [.mark '[', .quoted '"' n, .mark ']'] = some [] := rfl
    refine ⟨_, (closes_bracket (h n (by simp))).append hs, ?_⟩
    rw [nest_append, hone]
    exact hn

theorem level_reference {root ref : String} (h : Reference.Clean root ref) :
    Level (Reference.expression root ref) := by
  obtain ⟨hword, hnames⟩ := h
  obtain ⟨ts, hs, hn⟩ := nest_indices hnames
  unfold Level Spans
  rw [Reference.expression_eq]
  cases hhead : Reference.head root ref with
  | nil => exact ⟨ts, hs.spells, hn⟩
  | cons c w =>
    rw [hhead] at hword
    have hw : Spells (c :: w) [.word (c :: w)] := spells_word hword (by simp)
    cases hi : Reference.indices root ref with
    | nil => exact ⟨_, by simpa using hw, rfl⟩
    | cons n rest =>
      rw [hi] at hs
      have hall := hw.closes_append hs (by simp [Reference.bracket])
        (by simp [StartsApart, Reference.bracket]; rfl)
      exact ⟨_, hall.spells, hn⟩

theorem level_joined {sep empty : String} (hsep : Moves [')'] [')'] sep)
    (hends : endsWord sep = true) (hempty : Level empty) {ts : List String} (h : ∀ t ∈ ts, Level t) :
    Level (Expression.joined sep empty ts) := by
  match ts, h with
  | [], _ => exact hempty
  | [t], h => exact h t (by simp)
  | t :: u :: rest, h =>
    have hopen : Moves [] [')'] "(" := moves_of_moved (by decide)
    have hclose : Moves [')'] [] ")" := moves_of_moved (by decide)
    exact ((hopen.append_spans (spans_join h hsep hends)).append_moves hclose (by decide)).spans

theorem level_union {ts : List String} (h : ∀ t ∈ ts, Level t) : Level (Expression.union ts) :=
  level_joined (moves_of_moved (by decide)) (by decide) (level_word (by decide) (by decide)) h

theorem level_intersection {ts : List String} (h : ∀ t ∈ ts, Level t) :
    Level (Expression.intersection ts) :=
  level_joined (moves_of_moved (by decide)) (by decide) (level_word (by decide) (by decide)) h

theorem level_tuple {ts : List String} (h : ∀ t ∈ ts, Level t) : Level (Expression.tuple ts) := by
  have hopen : Moves [] [']'] "[" := moves_of_moved (by decide)
  have hnext : Moves [']'] [']'] ", " := moves_of_moved (by decide)
  have hclose : Moves [']'] [] "]" := moves_of_moved (by decide)
  exact ((hopen.append_spans (spans_join h hnext (by decide))).append_moves hclose (by decide)).spans

theorem level_partial {t : String} (h : Level t) : Level (Expression.partialOf t) :=
  (h.between (moves_of_moved (b := ['>']) (by decide)) (moves_of_moved (by decide)) (by decide)).spans

theorem level_array {t : String} (h : Level t) : Level (Expression.array t) :=
  (h.between (moves_of_moved (b := [')']) (by decide)) (moves_of_moved (by decide)) (by decide)).spans

theorem flat_braced {body : String} (h : Flat body) : Flat (Expression.braced body) :=
  h.between (moves_of_moved (b := ['\x7d']) (by decide)) (moves_of_moved (by decide))

theorem flat_openMap {t : String} (h : Level t) : Flat (Expression.openMap t) :=
  flat_braced (h.between (moves_of_moved (b := []) (by decide)) (moves_of_moved (by decide)) (by decide))

theorem flat_record {fields : String} (h : Flat fields) : Flat (Expression.record fields) :=
  flat_braced (h.between (moves_of_moved (b := []) (by decide)) (moves_of_moved (by decide)))

theorem level_orNull {t : String} (h : Level t) : Level (Expression.orNull t) := by
  have hhead : Flat ("(" ++ t ++ ") | ") :=
    h.between (moves_of_moved (b := [')']) (by decide)) (moves_of_moved (by decide)) (by decide)
  have htext : Expression.orNull t = ("(" ++ t ++ ") | ") ++ "null" := by
    have hend : ") | null" = ") | " ++ "null" := rfl
    rw [Expression.orNull, hend, ← String.append_assoc]
  rw [htext]
  exact hhead.append_spans (level_word (by decide) (by decide))

theorem level_orAnything {t : String} (h : Level t) : Level (Expression.orAnything t) := by
  unfold Expression.orAnything
  split
  · exact level_word (by decide) (by decide)
  · exact h

theorem level_literal {v : Value} {text : String} (h : Expression.literal v = .ok text) : Level text := by
  rcases literal_form h with ⟨hw, hne, _⟩ | ⟨s, rfl, _⟩
  · exact level_word hw hne
  · exact (flat_textLiteral s).spans

theorem flat_description {v : Value} {text : String} (h : DocComment.ofValue v = .ok text) : Flat text :=
  ⟨[], closes_description h, rfl⟩

theorem flat_fieldHead {name : String} (h : Quotable name.toList) (required : Bool) :
    Flat (Expression.fieldHead name required) := by
  have hmark : Flat (if required then "" else "?") := by
    cases required <;> exact moves_of_moved (by decide)
  have hcolon : Flat ": " := moves_of_moved (by decide)
  exact ((flat_name h).append hmark).append hcolon

theorem flat_declare {p : Property} {comment name type : String} (hc : Flat comment)
    (hn : Quotable name.toList) (ht : Level type) : Flat (p.declare comment name type) := by
  have htype : Level (if p.nullable then Expression.orNull type else type) := by
    split
    · exact level_orNull ht
    · exact ht
  exact htype.between (hc.append (flat_fieldHead hn p.required)) (moves_of_moved (by decide)) (by decide)

/-- Names that can stand between double quotes, and references whose expressions can be written. -/
structure Clean (root : String) (names : List (List Char)) (refs : List String) : Prop where
  names : ∀ n ∈ names, Quotable n
  references : ∀ r ∈ refs, Reference.Clean root r

namespace Clean

variable {root : String} {names more : List (List Char)} {refs others : List String}

theorem left (h : Clean root (names ++ more) (refs ++ others)) : Clean root names refs :=
  ⟨fun n hn => h.names n (List.mem_append_left _ hn), fun r hr => h.references r (List.mem_append_left _ hr)⟩

theorem right (h : Clean root (names ++ more) (refs ++ others)) : Clean root more others :=
  ⟨fun n hn => h.names n (List.mem_append_right _ hn),
    fun r hr => h.references r (List.mem_append_right _ hr)⟩

theorem head {n : List Char} (h : Clean root (n :: names) refs) : Quotable n := h.names n (by simp)

theorem quotable {key : Scalar} {name : String} (h : Clean root (Value.keyName key :: names) refs)
    (hkey : key.plain = .ok name) : Quotable name.toList := by
  rw [← keyName_of_plain hkey]
  exact h.head

theorem tail {n : List Char} (h : Clean root (n :: names) refs) : Clean root names refs :=
  ⟨fun m hm => h.names m (by simp [hm]), h.references⟩

theorem of_mem {α : Type} {as : List α} {ns : α → List (List Char)} {rs : α → List String}
    (h : Clean root (as.flatMap ns) (as.flatMap rs)) {a : α} (ha : a ∈ as) : Clean root (ns a) (rs a) :=
  ⟨fun n hn => h.names n (List.mem_flatMap.mpr ⟨a, ha, hn⟩),
    fun r hr => h.references r (List.mem_flatMap.mpr ⟨a, ha, hr⟩)⟩

end Clean

end TypeText

namespace Schema

mutual

def names : Schema → List (List Char)
  | .oneOf members => namesAll members
  | .anyOf members => namesAll members
  | .object bases properties additional =>
    namesAll bases ++ (namesFields properties ++ namesAdditional additional)
  | .tuple items => namesAll items
  | .array item => item.names
  | _ => []

def namesAll : List Schema → List (List Char)
  | [] => []
  | s :: rest => s.names ++ namesAll rest

def namesFields : List (Property × Schema) → List (List Char)
  | [] => []
  | (p, s) :: rest => Value.keyName p.name :: (s.names ++ namesFields rest)

def namesAdditional : Option Schema → List (List Char)
  | none => []
  | some s => s.names

end

mutual

theorem level_compose {root : String} : ∀ (s : Schema) {l l' : Ledger} {text : String},
    Clean root s.names s.references → (s.compose root).exec l = (.ok text, l') → Level text
  | .unrecognised, l, l', text, _, h => by
    rw [compose] at h
    cases h
    exact flat_empty.spans
  | .reference ref, l, l', text, hc, h => by
    rw [compose] at h
    rw [(refer_ok.mp h).1]
    exact level_reference (hc.references ref (by simp [references]))
  | .primitive kind, l, l', text, _, h => by
    rw [compose] at h
    cases h
    cases kind <;> exact level_word (by decide) (by decide)
  | .enumeration values, l, l', text, _, h => by
    rw [compose] at h
    obtain ⟨literals, l₁, hl, h⟩ := exec_bind_ok.mp h
    cases h
    apply level_union
    intro t ht
    obtain ⟨v, _, hv⟩ := except_mapM_mem (exec_lift_ok.mp hl).1 ht
    exact level_literal hv
  | .oneOf members, l, l', text, hc, h => by
    rw [compose] at h
    obtain ⟨types, l₁, ht, h⟩ := exec_bind_ok.mp h
    cases h
    rw [names, references] at hc
    exact level_union (level_composeAll members hc ht)
  | .anyOf members, l, l', text, hc, h => by
    rw [compose] at h
    obtain ⟨types, l₁, ht, h⟩ := exec_bind_ok.mp h
    cases h
    rw [names, references] at hc
    apply level_intersection
    intro t hm
    obtain ⟨u, hu, rfl⟩ := List.mem_map.mp hm
    exact level_partial (level_composeAll members hc ht u hu)
  | .object bases properties additional, l, l', text, hc, h => by
    rw [compose] at h
    rw [names, references] at hc
    split at h
    · cases h
      exact (flat_openMap (level_word (by decide) (by decide))).spans
    · obtain ⟨types, l₁, ht, h⟩ := exec_bind_ok.mp h
      obtain ⟨fields, l₂, hf, h⟩ := exec_bind_ok.mp h
      obtain ⟨rest, l₃, hr, h⟩ := exec_bind_ok.mp h
      cases h
      have hfields := flat_composeFields properties hc.right.left hf
      apply level_intersection
      intro t hm
      rw [List.mem_append, List.mem_append] at hm
      rcases hm with (hm | hm) | hm
      · exact level_composeAll bases hc.left ht t hm
      · unfold Expression.recordOf at hm
        split at hm
        · cases hm
        · rw [List.mem_singleton.mp hm]
          exact (flat_record hfields).spans
      · exact level_composeAdditional additional hc.right.right hr t hm
  | .tuple items, l, l', text, hc, h => by
    rw [compose] at h
    obtain ⟨types, l₁, ht, h⟩ := exec_bind_ok.mp h
    cases h
    rw [names, references] at hc
    exact level_tuple (level_composeAll items hc ht)
  | .array item, l, l', text, hc, h => by
    rw [compose] at h
    obtain ⟨type, l₁, ht, h⟩ := exec_bind_ok.mp h
    cases h
    rw [names, references] at hc
    exact level_array (level_orAnything (level_compose item hc ht))
  | .malformed bases fault, l, l', text, _, h => by
    rw [compose] at h
    obtain ⟨_, _, _, h⟩ := exec_bind_ok.mp h
    cases h

theorem level_composeAll {root : String} : ∀ (ss : List Schema) {l l' : Ledger} {texts : List String},
    Clean root (namesAll ss) (referencesAll ss) → (composeAll root ss).exec l = (.ok texts, l') →
      ∀ t ∈ texts, Level t
  | [], l, l', texts, _, h => by
    rw [composeAll] at h
    cases h
    simp
  | s :: rest, l, l', texts, hc, h => by
    rw [composeAll] at h
    rw [namesAll, referencesAll] at hc
    obtain ⟨type, l₁, ht, h⟩ := exec_bind_ok.mp h
    obtain ⟨types, l₂, hr, h⟩ := exec_bind_ok.mp h
    cases h
    exact List.forall_mem_cons.mpr ⟨level_compose s hc.left ht, level_composeAll rest hc.right hr⟩

theorem flat_composeFields {root : String} : ∀ (ps : List (Property × Schema)) {l l' : Ledger}
    {text : String}, Clean root (namesFields ps) (referencesFields ps) →
      (composeFields root ps).exec l = (.ok text, l') → Flat text
  | [], l, l', text, _, h => by
    rw [composeFields] at h
    cases h
    exact flat_empty
  | (p, s) :: rest, l, l', text, hc, h => by
    rw [composeFields] at h
    rw [namesFields, referencesFields] at hc
    obtain ⟨comment, l₁, hcomment, h⟩ := exec_bind_ok.mp h
    obtain ⟨name, l₂, hn, h⟩ := exec_bind_ok.mp h
    obtain ⟨type, l₃, ht, h⟩ := exec_bind_ok.mp h
    obtain ⟨_, l₄, _, h⟩ := exec_bind_ok.mp h
    obtain ⟨fields, l₅, hr, h⟩ := exec_bind_ok.mp h
    cases h
    have hname : Quotable name.toList := hc.quotable (exec_lift_ok.mp hn).1
    have hfield := flat_declare (p := p) (flat_description (exec_lift_ok.mp hcomment).1) hname
      (level_compose s hc.tail.left ht)
    exact hfield.append (flat_composeFields rest hc.tail.right hr)

theorem level_composeAdditional {root : String} : ∀ (s : Option Schema) {l l' : Ledger}
    {texts : List String}, Clean root (namesAdditional s) (referencesAdditional s) →
      (composeAdditional root s).exec l = (.ok texts, l') → ∀ t ∈ texts, Level t
  | none, l, l', texts, _, h => by
    rw [composeAdditional] at h
    cases h
    simp
  | some s, l, l', texts, hc, h => by
    rw [composeAdditional] at h
    rw [namesAdditional, referencesAdditional] at hc
    obtain ⟨type, l₁, ht, h⟩ := exec_bind_ok.mp h
    cases h
    have hlevel := flat_openMap (level_orAnything (level_compose s hc ht))
    intro t hm
    rw [List.mem_singleton.mp hm]
    exact hlevel.spans

end

end Schema

end ApiTypes
