import ApiTypes.Proofs.Compose.Additive

/-!
# Computations by themselves

What a composer makes and records is told by its run on an empty ledger. Computations
in turn come to a text when each of them does, in any order, and their warnings are
those of each.
-/

set_option autoImplicit false

namespace ApiTypes.Compose

variable {α β : Type}

def result (m : Compose α) : Except Fault α := (m.exec .empty).1

def records (m : Compose α) : Ledger := (m.exec .empty).2

def text (m : Compose String) : String :=
  match m.result with
  | .ok t => t
  | .error _ => ""

theorem text_of_result {m : Compose String} {t : String} (h : m.result = .ok t) : m.text = t := by
  rw [text, h]

theorem result_text {m : Compose String} (h : ∃ t, m.result = .ok t) : m.result = .ok m.text := by
  obtain ⟨t, ht⟩ := h
  rw [text_of_result ht, ht]

theorem exec_eq (m : Compose α) : m.exec .empty = (m.result, m.records) := rfl

theorem result_of_exec {m : Compose α} (hm : Additive m) {l l' : Ledger} {r : Except Fault α}
    (h : m.exec l = (r, l')) : m.result = r ∧ l' = l.extended m.records := by
  rw [hm l] at h
  exact ⟨congrArg Prod.fst h, (congrArg Prod.snd h).symm⟩

theorem exec_of_result {m : Compose α} (hm : Additive m) {a : α} (h : m.result = .ok a) (l : Ledger) :
    m.exec l = (.ok a, l.extended m.records) := by
  rw [hm l]
  exact Prod.ext h rfl

theorem exec_bind_result {m : Compose α} {f : α → Compose β} (hf : ∀ a, Additive (f a)) {a : α}
    (h : m.result = .ok a) :
    (m >>= f).exec .empty = ((f a).result, m.records.extended (f a).records) := by
  rw [exec_bind, exec_eq, h]
  exact hf a _

theorem result_bind_ok {m : Compose α} {f : α → Compose β} (hf : ∀ a, Additive (f a)) {b : β} :
    (m >>= f).result = .ok b ↔ ∃ a, m.result = .ok a ∧ (f a).result = .ok b := by
  constructor
  · intro h
    obtain ⟨a, l, hm, hrun⟩ := exec_bind_ok.mp (Prod.ext h rfl)
    exact ⟨a, congrArg Prod.fst hm, (result_of_exec (hf a) hrun).1⟩
  · rintro ⟨a, hm, hrun⟩
    rw [result, exec_bind_result hf hm]
    exact hrun

theorem warnings_bind {m : Compose α} {f : α → Compose β} (hf : ∀ a, Additive (f a)) {a : α}
    (h : m.result = .ok a) :
    (m >>= f).records.warnings = m.records.warnings ++ (f a).records.warnings := by
  rw [records, exec_bind_result hf h]
  rfl

section InTurn

variable {f : α → Compose String} (hf : ∀ a, Additive (f a))

include hf

theorem additive_inTurn (as : List α) : Additive (inTurn f as) :=
  closed_additive.toClosed.inTurn hf as

theorem inTurn_result {as : List α} {t : String} : (inTurn f as).result = .ok t ↔
    (∀ a ∈ as, ∃ s, (f a).result = .ok s) ∧ t = String.join (as.map fun a => (f a).text) := by
  have hrest : ∀ (first : String) (as : List α),
      Additive (inTurn f as >>= fun others => pure (first ++ others)) :=
    fun first as => closed_additive.map (additive_inTurn hf as) _
  induction as generalizing t with
  | nil =>
    constructor
    · intro h
      cases h
      exact ⟨fun _ ha => (by cases ha), rfl⟩
    · rintro ⟨-, rfl⟩
      rfl
  | cons a as ih =>
    rw [inTurn, result_bind_ok fun first => hrest first as]
    constructor
    · rintro ⟨first, hfirst, hothers⟩
      obtain ⟨others, h, hend⟩ := (result_bind_ok fun _ => closed_additive.pure _).mp hothers
      obtain ⟨hall, rfl⟩ := ih.mp h
      cases hend
      refine ⟨List.forall_mem_cons.mpr ⟨⟨first, hfirst⟩, hall⟩, ?_⟩
      rw [List.map_cons, String.join_cons, text_of_result hfirst]
    · rintro ⟨hall, rfl⟩
      obtain ⟨⟨first, hfirst⟩, hall⟩ := List.forall_mem_cons.mp hall
      refine ⟨first, hfirst, (result_bind_ok fun _ => closed_additive.pure _).mpr
        ⟨_, ih.mpr ⟨hall, rfl⟩, ?_⟩⟩
      rw [List.map_cons, String.join_cons, text_of_result hfirst]
      rfl

theorem inTurn_warnings {as : List α} (h : ∀ a ∈ as, ∃ s, (f a).result = .ok s) :
    (inTurn f as).records.warnings = as.flatMap fun a => (f a).records.warnings := by
  induction as with
  | nil => rfl
  | cons a as ih =>
    obtain ⟨⟨first, hfirst⟩, hall⟩ := List.forall_mem_cons.mp h
    have hothers := (inTurn_result hf).mpr ⟨hall, rfl⟩
    rw [inTurn, warnings_bind (fun _ => closed_additive.map (additive_inTurn hf as) _) hfirst,
      warnings_bind (fun _ => closed_additive.pure _) hothers, ih hall, List.flatMap_cons]
    exact congrArg _ (List.append_nil _)

end InTurn

end ApiTypes.Compose

namespace ApiTypes.Schema

open Compose

variable {root : String}

theorem additive_compose (s : Schema) : Additive (s.compose root) :=
  closed_compose closed_additive.toClosed root s

theorem additive_composeFields (ps : List (Property × Schema)) : Additive (composeFields root ps) :=
  closed_composeFields closed_additive.toClosed root ps

theorem additive_composeAdditional (s : Option Schema) : Additive (composeAdditional root s) :=
  closed_composeAdditional closed_additive.toClosed root s

end ApiTypes.Schema
