import ApiTypes.Proofs.Compose.Closed

/-!
# Composers do not read the ledger

The result of a composer is the same on every ledger, and only a path declares
operations. So the text of an operation is one text, wherever and whenever it is
composed.
-/

set_option autoImplicit false

namespace ApiTypes

namespace Compose

variable {α β : Type}

/-- A computation whose result does not depend on the ledger and that declares no operation. -/
structure Plain (m : Compose α) : Prop where
  result : ∀ l l' : Ledger, (m.exec l).1 = (m.exec l').1
  operations : ∀ l : Ledger, (m.exec l).2.operations = l.operations

theorem Plain.bind {m : Compose α} {f : α → Compose β} (hm : Plain m) (hf : ∀ a, Plain (f a)) :
    Plain (m >>= f) where
  result l l' := by
    have h := hm.result l l'
    rw [exec_bind, exec_bind]
    rcases hl : m.exec l with ⟨r, l₁⟩
    rcases hl' : m.exec l' with ⟨r', l₁'⟩
    rw [hl, hl'] at h
    dsimp only at h
    subst h
    cases r with
    | ok a => exact (hf a).result l₁ l₁'
    | error x => rfl
  operations l := by
    have h := hm.operations l
    rw [exec_bind]
    rcases hl : m.exec l with ⟨r, l₁⟩
    rw [hl] at h
    cases r with
    | ok a => exact ((hf a).operations l₁).trans h
    | error x => exact h

theorem closed_plain : Closed Plain where
  lift e := ⟨fun _ _ => by rw [exec_lift, exec_lift], fun _ => by rw [exec_lift]⟩
  warn _ := ⟨fun _ _ => rfl, fun _ => rfl⟩
  noteExternal key := by
    refine ⟨fun _ _ => rfl, fun l => ?_⟩
    change (l.addExternal key).operations = l.operations
    unfold Ledger.addExternal
    split <;> rfl
  bind := Plain.bind

theorem Plain.exec_ok {m : Compose α} (hm : Plain m) {l l₁ : Ledger} {a : α}
    (h : m.exec l = (.ok a, l₁)) (l' : Ledger) : ∃ l₁', m.exec l' = (.ok a, l₁') := by
  have hr := hm.result l' l
  rw [h] at hr
  exact ⟨(m.exec l').2, Prod.ext hr rfl⟩

end Compose

open Compose

theorem Parameters.plain_composeIfAny (ctx : Context) (parameters : Value) :
    Plain (composeIfAny ctx parameters) := closed_composeIfAny closed_plain ctx parameters

theorem Operation.plain_compose (ctx : Context) (operation : Value) : Plain (compose ctx operation) :=
  closed_compose closed_plain ctx operation

theorem Generator.plain_declaredOperations (ctx : Context) (os : List (Scalar × Value)) :
    Plain (declaredOperations ctx os) := closed_declaredOperations closed_plain ctx os

end ApiTypes
