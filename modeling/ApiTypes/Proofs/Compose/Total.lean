import ApiTypes.Proofs.Compose.InTurn

/-!
# Composers that come to a result

A computation gives a result with a property if it ends so from every ledger. It is
total if it gives any result at all. Both pass on to computations in turn. A computation
with a part that ends in a fault from every ledger does so too.
-/

set_option autoImplicit false

namespace ApiTypes.Compose

variable {α β : Type} {P Q : α → Prop} {R : β → Prop} {m : Compose α} {f : α → Compose β}

/-- From every ledger the computation comes to a result, and each such result has the property. -/
def Gives (m : Compose α) (Q : α → Prop) : Prop := ∀ l, ∃ a l', m.exec l = (.ok a, l') ∧ Q a

/-- From every ledger the computation comes to a result. -/
def Total (m : Compose α) : Prop := Gives m fun _ => True

theorem gives_pure {a : α} (h : Q a) : Gives (pure a) Q := fun l => ⟨a, l, rfl, h⟩

theorem gives_lift {e : Except Fault α} {a : α} (he : e = .ok a) (h : Q a) :
    Gives (liftM e : Compose α) Q :=
  fun l => ⟨a, l, exec_lift_ok.mpr ⟨he, rfl⟩, h⟩

theorem Gives.bind (hm : Gives m P) (hf : ∀ a, P a → Gives (f a) R) : Gives (m >>= f) R := by
  intro l
  obtain ⟨a, l₁, ha, hp⟩ := hm l
  obtain ⟨b, l₂, hb, hr⟩ := hf a hp l₁
  exact ⟨b, l₂, exec_bind_ok.mpr ⟨a, l₁, ha, hb⟩, hr⟩

theorem gives_after {e : Except Fault α} {a : α} (he : e = .ok a) (hf : Gives (f a) R) :
    Gives ((liftM e : Compose α) >>= f) R := by
  refine Gives.bind (gives_lift he rfl) ?_
  rintro _ rfl
  exact hf

theorem Total.exec (h : Total m) (l : Ledger) : ∃ a l', m.exec l = (.ok a, l') := by
  obtain ⟨a, l', ha, _⟩ := h l
  exact ⟨a, l', ha⟩

theorem total_pure (a : α) : Total (pure a) := gives_pure trivial

theorem total_lift {e : Except Fault α} (h : ∃ a, e = .ok a) : Total (liftM e : Compose α) := by
  obtain ⟨a, ha⟩ := h
  exact gives_lift ha trivial

theorem Total.bind (hm : Total m) (hf : ∀ a, Total (f a)) : Total (m >>= f) :=
  Gives.bind hm fun a _ => hf a

theorem Total.map (hm : Total m) (g : α → β) : Total (m >>= fun a => pure (g a)) :=
  hm.bind fun a => total_pure (g a)

theorem total_inTurn {f : α → Compose String} {as : List α} (h : ∀ a ∈ as, Total (f a)) :
    Total (inTurn f as) := by
  induction as with
  | nil => exact total_pure _
  | cons a rest ih =>
    obtain ⟨hone, hothers⟩ := List.forall_mem_cons.mp h
    exact hone.bind fun _ => (ih hothers).map _

theorem total_warn (message : String) : Total (warn message) :=
  fun l => ⟨(), l.addWarning message, rfl, trivial⟩

theorem total_warnIf (condition : Bool) (message : String) : Total (warnIf condition message) := by
  cases condition with
  | false => exact total_pure ()
  | true => exact total_warn message

theorem total_refer (root ref : String) : Total (refer root ref) :=
  fun _ => ⟨_, _, refer_ok.mpr ⟨rfl, rfl⟩, trivial⟩

theorem total_declareOperation (id : String) (operation : Value) :
    Total (declareOperation (.scalar (.text id)) operation) :=
  fun l => ⟨(), l.addOperation (.text id) operation, rfl, trivial⟩

/-- From every ledger the computation ends in a fault. -/
def Faults (m : Compose α) : Prop := ∀ l, ∃ fault l', m.exec l = (.error fault, l')

theorem faults_throw (fault : Fault) : Faults (throw fault : Compose α) := fun l => ⟨fault, l, rfl⟩

theorem Faults.bind (hm : Faults m) (f : α → Compose β) : Faults (m >>= f) := by
  intro l
  obtain ⟨fault, l', h⟩ := hm l
  exact ⟨fault, l', by rw [exec_bind, h]⟩

theorem faults_behind (m : Compose α) (hf : ∀ a, Faults (f a)) : Faults (m >>= f) := by
  intro l
  rw [exec_bind]
  rcases m.exec l with ⟨r, l₁⟩
  cases r with
  | error fault => exact ⟨fault, l₁, rfl⟩
  | ok a => exact hf a l₁

end ApiTypes.Compose
