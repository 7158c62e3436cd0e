import ApiTypes.Compose.Ledger
import ApiTypes.Reference.Lookup
import Mathlib.Data.List.Forall2

/-!
# Taking computations apart

A computation that ends with a result went through results of all its parts. Each
part starts on the ledger that the part in front of it left.
-/

set_option autoImplicit false

namespace ApiTypes

variable {α β ε : Type}

theorem except_bind_ok {e : Except ε α} {f : α → Except ε β} {b : β} :
    (e >>= f) = .ok b ↔ ∃ a, e = .ok a ∧ f a = .ok b := by
  cases e with
  | error x => exact ⟨fun h => (by cases h), fun ⟨_, h, _⟩ => (by cases h)⟩
  | ok a => exact ⟨fun h => ⟨a, rfl, h⟩, fun ⟨_, h, hf⟩ => by cases h; exact hf⟩

theorem except_map_ok {e : Except ε α} {f : α → β} {b : β} :
    e.map f = .ok b ↔ ∃ a, e = .ok a ∧ f a = b := by
  cases e with
  | error x => exact ⟨fun h => (by cases h), fun ⟨_, h, _⟩ => (by cases h)⟩
  | ok a => exact ⟨fun h => ⟨a, rfl, Except.ok.inj h⟩, fun ⟨_, h, hf⟩ => by cases h; rw [← hf]; rfl⟩

theorem except_mapM_ok {f : α → Except Fault β} {as : List α} {bs : List β}
    (h : as.mapM f = .ok bs) : List.Forall₂ (fun a b => f a = .ok b) as bs := by
  induction as generalizing bs with
  | nil =>
    cases h
    exact .nil
  | cons a rest ih =>
    rw [List.mapM_cons] at h
    obtain ⟨b, ha, h⟩ := except_bind_ok.mp h
    obtain ⟨others, hrest, h⟩ := except_bind_ok.mp h
    cases h
    exact .cons ha (ih hrest)

theorem except_mapM_iff {f : α → Except Fault β} {as : List α} {bs : List β} :
    as.mapM f = .ok bs ↔ List.Forall₂ (fun a b => f a = .ok b) as bs := by
  refine ⟨except_mapM_ok, fun h => ?_⟩
  induction h with
  | nil => rfl
  | cons ha _ ih =>
    rw [List.mapM_cons, ha, ih]
    rfl

theorem except_mapM_mem {f : α → Except Fault β} {as : List α} {bs : List β} (h : as.mapM f = .ok bs)
    {b : β} (hb : b ∈ bs) : ∃ a ∈ as, f a = .ok b := by
  have hall := except_mapM_ok h
  clear h
  induction hall with
  | nil => cases hb
  | @cons a c as bs hc _ ih =>
    rcases List.mem_cons.mp hb with rfl | hb
    · exact ⟨a, by simp, hc⟩
    · obtain ⟨d, hd, hf⟩ := ih hb
      exact ⟨d, by simp [hd], hf⟩

theorem except_mapM_each {f : α → Except Fault β} {as : List α} {bs : List β} (h : as.mapM f = .ok bs)
    {a : α} (ha : a ∈ as) : ∃ b, f a = .ok b := by
  have hall := except_mapM_ok h
  clear h
  induction hall with
  | nil => cases ha
  | cons hone _ ih =>
    rcases List.mem_cons.mp ha with rfl | ha
    · exact ⟨_, hone⟩
    · exact ih ha

theorem except_mapM_total {f : α → Except Fault β} {as : List α} (h : ∀ a ∈ as, ∃ b, f a = .ok b) :
    ∃ bs, as.mapM f = .ok bs := by
  induction as with
  | nil => exact ⟨[], rfl⟩
  | cons a rest ih =>
    obtain ⟨b, hb⟩ := h a (by simp)
    obtain ⟨bs, hbs⟩ := ih fun c hc => h c (by simp [hc])
    rw [List.mapM_cons, hb, hbs]
    exact ⟨b :: bs, rfl⟩

namespace Value

theorem asKey_ok {v : Value} {key : Scalar} (h : v.asKey = .ok key) : v = .scalar key := by
  cases v with
  | scalar s =>
    cases h
    rfl
  | list => cases h
  | map => cases h
  | again => cases h

theorem elements_ok {v : Value} {items : List Value} (h : v.elements = .ok items) :
    v.elements? = some items := by
  unfold elements at h
  split at h
  · rename_i hv
    cases h
    exact hv
  · cases h
  · cases h

theorem entriesFor_ok {v : Value} {operation : String} {entries : Entries}
    (h : v.entriesFor operation = .ok entries) : v.opened = .map entries := by
  unfold entriesFor at h
  split at h
  · rename_i hv
    cases h
    exact hv
  · cases h
  · cases h

end Value

theorem Reference.ofValue_ok {v : Value} {ref : String} (h : ofValue v = .ok ref) :
    v = .scalar (.text ref) := by
  unfold ofValue at h
  split at h
  · cases h
    rfl
  · cases h

namespace Compose

variable {l l' : Ledger}

@[simp] theorem exec_lift (e : Except Fault α) (l : Ledger) :
    exec (liftM e : Compose α) l = (e, l) := by
  cases e <;> rfl

theorem exec_bind (m : Compose α) (f : α → Compose β) (l : Ledger) :
    exec (m >>= f) l = match exec m l with
      | (.ok a, l') => exec (f a) l'
      | (.error x, l') => (.error x, l') := by
  change (ExceptT.bind m f).run l = _
  simp only [ExceptT.bind, ExceptT.mk, ExceptT.run, exec, bind, StateT.bind]
  rcases h : m l with ⟨r, l'⟩
  cases r <;> rfl

theorem exec_bind_ok {m : Compose α} {f : α → Compose β} {b : β} :
    exec (m >>= f) l = (.ok b, l') ↔
      ∃ a l₁, exec m l = (.ok a, l₁) ∧ exec (f a) l₁ = (.ok b, l') := by
  rw [exec_bind]
  constructor
  · intro h
    split at h
    · rename_i a l₁ hm
      exact ⟨a, l₁, hm, h⟩
    · cases h
  · rintro ⟨a, l₁, hm, hf⟩
    rw [hm]
    exact hf

theorem exec_lift_ok {e : Except Fault α} {a : α} :
    exec (liftM e : Compose α) l = (.ok a, l') ↔ e = .ok a ∧ l' = l := by
  rw [exec_lift]
  constructor
  · intro h
    cases h
    exact ⟨rfl, rfl⟩
  · rintro ⟨rfl, rfl⟩
    rfl

theorem exec_pure_ok {a b : α} : exec (pure a) l = (.ok b, l') ↔ b = a ∧ l' = l := by
  constructor
  · intro h
    cases h
    exact ⟨rfl, rfl⟩
  · rintro ⟨rfl, rfl⟩
    rfl

/-- The expression for a reference comes without a fault; the key of another document is recorded. -/
theorem refer_ok {root ref text : String} : exec (refer root ref) l = (.ok text, l') ↔
    text = Reference.expression root ref ∧
      l' = (Reference.externalKey? ref).toList.foldl Ledger.addExternal l := by
  unfold refer
  cases Reference.externalKey? ref with
  | none => exact exec_pure_ok
  | some key =>
    change exec (noteExternal key >>= fun _ => pure (Reference.expression root ref)) l = _ ↔ _
    rw [exec_bind]
    exact exec_pure_ok

theorem declareOperation_ok {id operation : Value} {u : Unit}
    (h : exec (declareOperation id operation) l = (.ok u, l')) :
    ∃ key, id = .scalar key ∧ l' = l.addOperation key operation := by
  unfold declareOperation at h
  obtain ⟨key, l₁, hk, hgo⟩ := exec_bind_ok.mp h
  obtain ⟨_, l₂, hn, hadd⟩ := exec_bind_ok.mp hgo
  obtain ⟨hkey, rfl⟩ := exec_lift_ok.mp hk
  obtain ⟨_, rfl⟩ := exec_lift_ok.mp hn
  cases hadd
  exact ⟨key, Value.asKey_ok hkey, rfl⟩

end Compose

end ApiTypes
