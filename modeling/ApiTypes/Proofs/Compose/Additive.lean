import ApiTypes.Proofs.Compose.Closed
import ApiTypes.Proofs.Value.Entries

/-!
# Composers only add to the ledger

What a composer records on a ledger is what it records on the empty one, without
the keys and the names that are there already. This holds of a composition that
ends in a fault as well, for what it had recorded by then.
-/

set_option autoImplicit false

namespace ApiTypes

namespace Ledger

variable {α : Type}

/-- A list with those of further things behind it that are not the same as one in it. -/
def appended (same : α → α → Bool) (xs ys : List α) : List α :=
  xs ++ ys.filter fun y => !xs.any fun x => same x y

theorem appended_assoc {same : α → α → Bool} (hsame : ∀ x y z, same x y = true → same y z = same x z)
    (xs ys zs : List α) :
    appended same (appended same xs ys) zs = appended same xs (appended same ys zs) := by
  have hany : ∀ z, ((appended same xs ys).any fun x => same x z) =
      ((xs.any fun x => same x z) || ys.any fun y => same y z) := by
    intro z
    rw [appended, List.any_append]
    cases hxz : xs.any fun x => same x z with
    | true => rfl
    | false =>
      rw [Bool.false_or, Bool.false_or, List.any_filter]
      congr 1
      funext y
      cases hyz : same y z with
      | false => rw [Bool.and_false]
      | true =>
        have hfree : (xs.any fun x => same x y) = false := by
          apply Bool.eq_false_iff.mpr
          intro h
          obtain ⟨x, hx, hxy⟩ := List.any_eq_true.mp h
          have hsome : (xs.any fun x => same x z) = true :=
            List.any_eq_true.mpr ⟨x, hx, (hsame x y z hxy).symm.trans hyz⟩
          rw [hxz] at hsome
          cases hsome
        rw [hfree]
        rfl
  have hzs : (zs.filter fun z => !(appended same xs ys).any fun x => same x z) =
      (zs.filter fun z => !ys.any fun y => same y z).filter fun z => !xs.any fun x => same x z := by
    rw [List.filter_filter]
    congr 1
    funext z
    rw [hany, Bool.not_or]
  have htail : appended same xs (appended same ys zs) = appended same xs ys ++
      (zs.filter fun z => !ys.any fun y => same y z).filter fun z => !xs.any fun x => same x z := by
    unfold appended
    rw [List.filter_append, List.append_assoc]
  rw [htail, ← hzs, appended]

theorem appended_keys (keys more : List String) :
    appended (fun k m => k == m) keys more = keys ++ more.filter (· ∉ keys) := by
  unfold appended
  simp only [List.any_beq', List.contains_eq_mem, decide_not]

def extended (l more : Ledger) : Ledger where
  externals := appended (fun k m => k == m) l.externals more.externals
  operations := appended (fun o p => o.1.same p.1) l.operations more.operations
  warnings := l.warnings ++ more.warnings

theorem extended_assoc (l l' l'' : Ledger) :
    (l.extended l').extended l'' = l.extended (l'.extended l'') := by
  have hkeys : ∀ k m n : String, (k == m) = true → (m == n) = (k == n) := by
    intro k m n h
    rw [beq_iff_eq.mp h]
  have hnames : ∀ o p q : Scalar × Value, o.1.same p.1 = true → p.1.same q.1 = o.1.same q.1 :=
    fun o p q h => (Scalar.same_congr h q.1).symm
  unfold extended
  rw [appended_assoc hkeys, appended_assoc hnames, List.append_assoc]

theorem extended_empty (l : Ledger) : l.extended empty = l := by
  simp [extended, appended, empty]

theorem addWarning_eq (l : Ledger) (message : String) :
    l.addWarning message = l.extended (empty.addWarning message) := by
  simp [extended, appended, empty, addWarning]

theorem addExternal_eq (l : Ledger) (key : String) :
    l.addExternal key = l.extended (empty.addExternal key) := by
  have hone : empty.addExternal key = ⟨[key], [], []⟩ := rfl
  rw [hone, extended, appended_keys]
  unfold addExternal
  by_cases h : key ∈ l.externals
  · rw [if_pos h]
    simp [appended, h]
  · rw [if_neg h]
    simp [appended, h]

theorem addOperation_eq (l : Ledger) (id : Scalar) (operation : Value) :
    l.addOperation id operation = l.extended (empty.addOperation id operation) := by
  have hone : empty.addOperation id operation = ⟨[], [(id, operation)], []⟩ := rfl
  have hany := Entries.find?_isSome id l.operations
  rw [hone]
  unfold addOperation
  cases h : Entries.find? id l.operations with
  | none =>
    rw [h] at hany
    simp [extended, appended, ← hany]
  | some v =>
    rw [h] at hany
    simp [extended, appended, ← hany]

/-- No key is recorded twice, and no two operations under one name. -/
structure Orderly (l : Ledger) : Prop where
  externals : l.externals.Nodup
  operations : Entries.Distinct l.operations

theorem orderly_empty : Orderly empty := ⟨.nil, .nil⟩

theorem Orderly.addExternal {l : Ledger} (h : l.Orderly) (key : String) : (l.addExternal key).Orderly := by
  unfold Ledger.addExternal
  split
  · exact h
  · rename_i hk
    refine ⟨List.nodup_append.mpr ⟨h.externals, List.pairwise_singleton _ key, ?_⟩, h.operations⟩
    intro k hkey m hm heq
    rw [List.mem_singleton.mp hm] at heq
    exact hk (heq ▸ hkey)

theorem Orderly.addOperation {l : Ledger} (h : l.Orderly) (id : Scalar) (operation : Value) :
    (l.addOperation id operation).Orderly := by
  have hany := Entries.find?_isSome id l.operations
  unfold Ledger.addOperation
  split
  · exact h
  · rename_i hnone
    rw [hnone] at hany
    refine ⟨h.externals, List.pairwise_append.mpr ⟨h.operations, List.pairwise_singleton _ _, ?_⟩⟩
    intro o ho p hp
    rw [List.mem_singleton.mp hp]
    apply Bool.eq_false_iff.mpr
    intro hsame
    have htrue : (l.operations.any fun o => o.1.same id) = true := List.any_eq_true.mpr ⟨o, ho, hsame⟩
    rw [← hany] at htrue
    cases htrue

end Ledger

namespace Compose

variable {α β : Type}

/-- A computation that does on every ledger what it does on the empty one. -/
def Additive (m : Compose α) : Prop :=
  ∀ l : Ledger, m.exec l = ((m.exec .empty).1, l.extended (m.exec .empty).2)

theorem Additive.bind {m : Compose α} {f : α → Compose β} (hm : Additive m) (hf : ∀ a, Additive (f a)) :
    Additive (m >>= f) := by
  intro l
  have hl := hm l
  rw [exec_bind, exec_bind]
  rcases he : m.exec .empty with ⟨r, k⟩
  rw [he] at hl
  rw [hl]
  cases r with
  | error x => rfl
  | ok a =>
    dsimp only
    rw [hf a (l.extended k), hf a k, Ledger.extended_assoc]

theorem additive_lift (e : Except Fault α) : Additive (liftM e : Compose α) := by
  intro l
  rw [exec_lift, exec_lift, Ledger.extended_empty]

theorem closed_additive : ClosedDeclaring Additive where
  lift := additive_lift
  warn message l := congrArg (Prod.mk _) (Ledger.addWarning_eq l message)
  noteExternal key l := congrArg (Prod.mk _) (Ledger.addExternal_eq l key)
  bind := Additive.bind
  declareOperation _ operation :=
    (additive_lift _).bind fun key => (additive_lift _).bind fun _ l =>
      congrArg (Prod.mk _) (Ledger.addOperation_eq l key operation)

/-- A computation that keeps the ledger in order. -/
def KeepsOrder (m : Compose α) : Prop := ∀ l : Ledger, l.Orderly → (m.exec l).2.Orderly

theorem KeepsOrder.bind {m : Compose α} {f : α → Compose β} (hm : KeepsOrder m)
    (hf : ∀ a, KeepsOrder (f a)) : KeepsOrder (m >>= f) := by
  intro l hl
  have hk := hm l hl
  rw [exec_bind]
  rcases he : m.exec l with ⟨r, k⟩
  rw [he] at hk
  cases r with
  | error x => exact hk
  | ok a => exact hf a k hk

theorem keepsOrder_lift (e : Except Fault α) : KeepsOrder (liftM e : Compose α) := by
  intro l hl
  rw [exec_lift]
  exact hl

theorem closed_keepsOrder : ClosedDeclaring KeepsOrder where
  lift := keepsOrder_lift
  warn _ _ hl := ⟨hl.externals, hl.operations⟩
  noteExternal key _ hl := hl.addExternal key
  bind := KeepsOrder.bind
  declareOperation _ operation :=
    (keepsOrder_lift _).bind fun key => (keepsOrder_lift _).bind fun _ _ hl =>
      hl.addOperation key operation

end Compose

end ApiTypes
