import ApiTypes.Proofs.Compose.Plain
import Mathlib.Data.List.Infix

/-!
# Which references a composition resolves

The references of a schema, from left to right. A composition that ends has
recorded the keys of the references in it, each at its first occurrence, and its
text holds their expressions.
-/

set_option autoImplicit false

namespace ApiTypes

namespace Compose

def keysOf (refs : List String) : List String := refs.filterMap Reference.externalKey?

/-- One text stands somewhere in another. -/
def Within (s t : String) : Prop := s.toList <:+: t.toList

theorem within_refl (s : String) : Within s s := List.infix_refl _

theorem Within.trans {s t u : String} (h : Within s t) (h' : Within t u) : Within s u :=
  List.IsInfix.trans h h'

theorem within_left (s t : String) : Within s (s ++ t) := by
  rw [Within, String.toList_append]
  exact (List.prefix_append _ _).isInfix

theorem within_right (s t : String) : Within t (s ++ t) := by
  rw [Within, String.toList_append]
  exact (List.suffix_append _ _).isInfix

theorem within_between (a s b : String) : Within s (a ++ s ++ b) :=
  (within_right a s).trans (within_left _ _)

theorem within_join {sep t : String} {ts : List String} (h : t ∈ ts) : Within t (Text.join sep ts) := by
  match ts, h with
  | [u], h =>
    rw [List.mem_singleton.mp h]
    exact within_refl u
  | u :: v :: rest, h =>
    rw [Text.join]
    rcases List.mem_cons.mp h with rfl | h
    · rw [String.append_assoc]
      exact within_left _ _
    · exact (within_join h).trans (within_right _ _)

theorem within_concat {t : String} {ts : List String} (h : t ∈ ts) : Within t (String.join ts) := by
  rw [Within, String.toList_join, List.flatMap_def]
  exact List.infix_of_mem_flatten (List.mem_map_of_mem h)

theorem within_joined {t sep empty : String} {ts : List String} (h : t ∈ ts) :
    Within t (Expression.joined sep empty ts) := by
  match ts, h with
  | [u], h =>
    rw [List.mem_singleton.mp h]
    exact within_refl u
  | _ :: _ :: _, h => exact (within_join h).trans (within_between _ _ _)

theorem within_orAnything {t u : String} (h : Within t u) : Within t (Expression.orAnything u) := by
  unfold Expression.orAnything
  split
  · rename_i hu
    rw [hu] at h
    rw [Within, List.infix_nil.mp h]
    exact List.nil_infix
  · exact h

theorem nodup_eraseDups (keys : List String) : keys.eraseDups.Nodup := by
  induction hn : keys.length using Nat.strongRecOn generalizing keys with
  | ind n ih =>
    cases keys with
    | nil => simp
    | cons k rest =>
      have hlt : (rest.filter fun m => !m == k).length < n := by
        have hle := List.length_filter_le (fun m => !m == k) rest
        rw [List.length_cons] at hn
        omega
      rw [List.eraseDups_cons, List.nodup_cons]
      exact ⟨by simp, ih _ hlt _ rfl⟩

/-- What a computation that ended did: the keys of the references that it resolved in turn are
recorded, and one of its texts holds the expression of each reference that it shows. -/
structure Resolves (refs shown : List String) (l l' : Ledger) (texts : List String) : Prop where
  keys : ∀ before : List String, l.externals = before.eraseDups →
    l'.externals = (before ++ keysOf refs).eraseDups
  shown : ∀ r ∈ shown, ∃ t ∈ texts, Within (Reference.expression "" r) t

variable {refs shown more shown' : List String} {l l₁ l' : Ledger} {texts texts' : List String}

theorem resolves_same (h : l'.externals = l.externals) (texts : List String) :
    Resolves [] [] l l' texts where
  keys before hb := by rw [h, hb, keysOf, List.filterMap_nil, List.append_nil]
  shown := by simp

theorem resolves_nothing (l : Ledger) (texts : List String) : Resolves [] [] l l texts :=
  resolves_same rfl texts

theorem resolves_warned (l : Ledger) (message : String) (texts : List String) :
    Resolves [] [] l (l.addWarning message) texts := by
  have h : (l.addWarning message).externals = l.externals := rfl
  exact resolves_same h texts

theorem Resolves.append (h : Resolves refs shown l l₁ texts) (h' : Resolves more shown' l₁ l' texts') :
    Resolves (refs ++ more) (shown ++ shown') l l' (texts ++ texts') where
  keys before hb := by
    rw [h'.keys _ (h.keys before hb), keysOf, keysOf, keysOf, List.filterMap_append, List.append_assoc]
  shown r hr := by
    rcases List.mem_append.mp hr with hr | hr
    · obtain ⟨t, ht, hw⟩ := h.shown r hr
      exact ⟨t, List.mem_append_left _ ht, hw⟩
    · obtain ⟨t, ht, hw⟩ := h'.shown r hr
      exact ⟨t, List.mem_append_right _ ht, hw⟩

theorem Resolves.within (h : Resolves refs shown l l' texts)
    (hw : ∀ t ∈ texts, ∃ u ∈ texts', Within t u) : Resolves refs shown l l' texts' where
  keys := h.keys
  shown r hr := by
    obtain ⟨t, ht, hr⟩ := h.shown r hr
    obtain ⟨u, hu, hw⟩ := hw t ht
    exact ⟨u, hu, hr.trans hw⟩

theorem Resolves.into {text : String} (h : Resolves refs shown l l' texts)
    (hw : ∀ t ∈ texts, Within t text) : Resolves refs shown l l' [text] :=
  h.within fun t ht => ⟨text, by simp, hw t ht⟩

theorem Resolves.inside {t text : String} (h : Resolves refs shown l l' [t]) (hw : Within t text) :
    Resolves refs shown l l' [text] := by
  apply h.into
  intro u hu
  rw [List.mem_singleton.mp hu]
  exact hw

theorem Resolves.joined {s t : String} (h : Resolves refs shown l l₁ [s])
    (h' : Resolves more shown' l₁ l' [t]) : Resolves (refs ++ more) (shown ++ shown') l l' [s ++ t] := by
  apply (h.append h').into
  intro u hu
  rcases List.mem_append.mp hu with hu | hu
  · rw [List.mem_singleton.mp hu]
    exact within_left _ _
  · rw [List.mem_singleton.mp hu]
    exact within_right _ _

theorem Resolves.after (hl : l₁.externals = l.externals) (h : Resolves refs shown l₁ l' texts) :
    Resolves refs shown l l' texts :=
  ⟨fun before hb => h.keys before (hl.trans hb), h.shown⟩

theorem RunInTurn.resolves {α : Type} {f : α → Compose String} {as : List α} {r w : α → List String}
    (h : RunInTurn f as texts l l')
    (hr : ∀ a t l l', (f a).exec l = (.ok t, l') → Resolves (r a) (w a) l l' [t]) :
    Resolves (as.flatMap r) (as.flatMap w) l l' texts := by
  induction h with
  | nil l => exact resolves_nothing l []
  | cons first _ ih => exact (hr _ _ _ _ first).append ih

theorem resolves_inTurn {α : Type} {f : α → Compose String} {as : List α} {r w : α → List String}
    {text : String} (h : (inTurn f as).exec l = (.ok text, l'))
    (hr : ∀ a t l l', (f a).exec l = (.ok t, l') → Resolves (r a) (w a) l l' [t]) :
    Resolves (as.flatMap r) (as.flatMap w) l l' [text] := by
  obtain ⟨ts, rfl, hruns⟩ := inTurn_ok h
  exact (hruns.resolves hr).into fun t ht => within_concat ht

theorem addExternal_keys {key : String} {before : List String} (hb : l.externals = before.eraseDups) :
    (l.addExternal key).externals = (before ++ [key]).eraseDups := by
  rw [List.eraseDups_append, List.removeAll, ← hb]
  unfold Ledger.addExternal
  by_cases hk : key ∈ l.externals
  · have hmem : key ∈ before := by simpa [hb] using hk
    rw [if_pos hk]
    simp [hmem]
  · have hmem : key ∉ before := by simpa [hb] using hk
    rw [if_neg hk]
    simp [hmem, List.eraseDups_cons]

theorem resolves_refer {ref text : String} (h : (refer "" ref).exec l = (.ok text, l')) :
    Resolves [ref] [ref] l l' [text] where
  keys before hb := by
    rw [(refer_ok.mp h).2]
    cases hk : Reference.externalKey? ref with
    | none => simp [keysOf, hk, hb]
    | some key =>
      simp only [keysOf, List.filterMap_cons, hk, List.filterMap_nil]
      exact addExternal_keys hb
  shown r hr := by
    rw [List.mem_singleton.mp hr]
    exact ⟨text, by simp, by rw [(refer_ok.mp h).1]; exact within_refl _⟩

theorem warnIf_externals {condition : Bool} {message : String} {u : Unit}
    (h : (warnIf condition message).exec l = (.ok u, l')) : l'.externals = l.externals := by
  cases condition <;> cases h <;> rfl

end Compose

open Compose

namespace Schema

mutual

def references : Schema → List String
  | .reference ref => [ref]
  | .oneOf members => referencesAll members
  | .anyOf members => referencesAll members
  | .object bases properties additional =>
    referencesAll bases ++ (referencesFields properties ++ referencesAdditional additional)
  | .tuple items => referencesAll items
  | .array item => item.references
  | _ => []

def referencesAll : List Schema → List String
  | [] => []
  | s :: rest => s.references ++ referencesAll rest

def referencesFields : List (Property × Schema) → List String
  | [] => []
  | (_, s) :: rest => s.references ++ referencesFields rest

def referencesAdditional : Option Schema → List String
  | none => []
  | some s => s.references

end

mutual

theorem resolves_compose : ∀ (s : Schema) {l l' : Ledger} {text : String},
    (s.compose "").exec l = (.ok text, l') → Resolves s.references s.references l l' [text]
  | .unrecognised, l, l', text, h => by
    rw [compose] at h
    cases h
    exact resolves_nothing _ _
  | .reference ref, l, l', text, h => by
    rw [compose] at h
    exact resolves_refer h
  | .primitive kind, l, l', text, h => by
    rw [compose] at h
    cases h
    exact resolves_nothing _ _
  | .enumeration values, l, l', text, h => by
    rw [compose] at h
    obtain ⟨literals, l₁, hl, h⟩ := exec_bind_ok.mp h
    cases h
    rw [(exec_lift_ok.mp hl).2]
    exact resolves_nothing _ _
  | .oneOf members, l, l', text, h => by
    rw [compose] at h
    obtain ⟨types, l₁, ht, h⟩ := exec_bind_ok.mp h
    cases h
    rw [references]
    exact (resolves_composeAll members ht).into fun _ => within_joined
  | .anyOf members, l, l', text, h => by
    rw [compose] at h
    obtain ⟨types, l₁, ht, h⟩ := exec_bind_ok.mp h
    cases h
    rw [references]
    apply (resolves_composeAll members ht).into
    intro t hm
    exact (within_between _ _ _).trans (within_joined (List.mem_map_of_mem hm))
  | .object bases properties additional, l, l', text, h => by
    rw [compose] at h
    rw [references]
    split at h
    · rename_i hempty
      simp only [Bool.and_eq_true, List.isEmpty_iff, Option.isNone_iff_eq_none] at hempty
      obtain ⟨⟨rfl, rfl⟩, rfl⟩ := hempty
      cases h
      simp only [referencesAll, referencesFields, referencesAdditional, List.append_nil]
      exact resolves_nothing _ _
    · obtain ⟨types, l₁, ht, h⟩ := exec_bind_ok.mp h
      obtain ⟨fields, l₂, hf, h⟩ := exec_bind_ok.mp h
      obtain ⟨rest, l₃, hr, h⟩ := exec_bind_ok.mp h
      cases h
      have hrecord : Resolves (referencesFields properties) (referencesFields properties) l₁ l₂
          (Expression.recordOf properties.isEmpty fields) := by
        cases properties with
        | nil =>
          rw [composeFields] at hf
          cases hf
          rw [referencesFields]
          exact resolves_nothing _ _
        | cons p ps =>
          apply Resolves.inside (resolves_composeFields (p :: ps) hf)
          exact (within_between _ _ _).trans (within_between _ _ _)
      have hall := (resolves_composeAll bases ht).append
        (hrecord.append (resolves_composeAdditional additional hr))
      rw [← List.append_assoc types] at hall
      exact hall.into fun _ => within_joined
  | .tuple items, l, l', text, h => by
    rw [compose] at h
    obtain ⟨types, l₁, ht, h⟩ := exec_bind_ok.mp h
    cases h
    rw [references]
    exact (resolves_composeAll items ht).into fun t hm => (within_join hm).trans (within_between _ _ _)
  | .array item, l, l', text, h => by
    rw [compose] at h
    obtain ⟨type, l₁, ht, h⟩ := exec_bind_ok.mp h
    cases h
    rw [references]
    apply Resolves.inside (resolves_compose item ht)
    exact (within_orAnything (within_refl _)).trans (within_between _ _ _)
  | .malformed bases fault, l, l', text, h => by
    rw [compose] at h
    obtain ⟨_, _, _, h⟩ := exec_bind_ok.mp h
    cases h

theorem resolves_composeAll : ∀ (ss : List Schema) {l l' : Ledger} {texts : List String},
    (composeAll "" ss).exec l = (.ok texts, l') →
      Resolves (referencesAll ss) (referencesAll ss) l l' texts
  | [], l, l', texts, h => by
    rw [composeAll] at h
    cases h
    exact resolves_nothing _ _
  | s :: rest, l, l', texts, h => by
    rw [composeAll] at h
    obtain ⟨type, l₁, ht, h⟩ := exec_bind_ok.mp h
    obtain ⟨types, l₂, hr, h⟩ := exec_bind_ok.mp h
    cases h
    rw [referencesAll]
    exact (resolves_compose s ht).append (resolves_composeAll rest hr)

theorem resolves_composeFields : ∀ (ps : List (Property × Schema)) {l l' : Ledger} {text : String},
    (composeFields "" ps).exec l = (.ok text, l') →
      Resolves (referencesFields ps) (referencesFields ps) l l' [text]
  | [], l, l', text, h => by
    rw [composeFields] at h
    cases h
    exact resolves_nothing _ _
  | (p, s) :: rest, l, l', text, h => by
    rw [composeFields] at h
    obtain ⟨comment, l₁, hc, h⟩ := exec_bind_ok.mp h
    obtain ⟨name, l₂, hn, h⟩ := exec_bind_ok.mp h
    obtain ⟨type, l₃, ht, h⟩ := exec_bind_ok.mp h
    obtain ⟨_, l₄, hw, h⟩ := exec_bind_ok.mp h
    obtain ⟨fields, l₅, hr, h⟩ := exec_bind_ok.mp h
    cases h
    rw [(exec_lift_ok.mp hc).2] at hn
    rw [(exec_lift_ok.mp hn).2] at ht
    have hfields := (resolves_composeFields rest hr).after (warnIf_externals hw)
    have htype : Within type (p.declare comment name type) := by
      unfold Property.declare
      split
      · exact (within_between _ _ _).trans (within_between _ _ _)
      · exact within_between _ _ _
    rw [referencesFields]
    exact ((resolves_compose s ht).inside htype).joined hfields

theorem resolves_composeAdditional : ∀ (s : Option Schema) {l l' : Ledger} {texts : List String},
    (composeAdditional "" s).exec l = (.ok texts, l') →
      Resolves (referencesAdditional s) (referencesAdditional s) l l' texts
  | none, l, l', texts, h => by
    rw [composeAdditional] at h
    cases h
    exact resolves_nothing _ _
  | some s, l, l', texts, h => by
    rw [composeAdditional] at h
    obtain ⟨type, l₁, ht, h⟩ := exec_bind_ok.mp h
    cases h
    rw [referencesAdditional]
    apply Resolves.inside (resolves_compose s ht)
    exact (within_orAnything (within_refl _)).trans
      ((within_between _ _ _).trans (within_between _ _ _))

end

end Schema

end ApiTypes
