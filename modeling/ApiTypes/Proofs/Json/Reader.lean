import ApiTypes.Json.Reader
import ApiTypes.Proofs.Outcome
import ApiTypes.Proofs.Value.Json
import Mathlib.Algebra.Group.Nat.Defs

/-!
# What a text of JSON is read as

A value that is read has textual keys, no dates, nothing inside itself, and no
integer of more digits than are written. It is a value as JSON has them.
-/

set_option autoImplicit false

namespace ApiTypes

namespace Text

theorem asciiDigit_lt {c : Char} {d : Nat} (h : asciiDigit? c = some d) : d < 10 := by
  unfold asciiDigit? at h
  split at h
  · rename_i hdigit
    have hc : c.toNat ≤ 57 := by
      simp only [Char.isDigit, Bool.and_eq_true, decide_eq_true_eq] at hdigit
      exact hdigit.2
    have hd := Option.some.inj h
    omega
  · cases h

theorem digitsValue_lt {ds : List Nat} (h : ∀ d ∈ ds, d < 10) : digitsValue 10 ds < 10 ^ ds.length := by
  have hfold : ∀ n : Nat, ds.foldl (fun n d => n * 10 + d) n < (n + 1) * 10 ^ ds.length := by
    induction ds with
    | nil =>
      intro n
      simp
    | cons d rest ih =>
      intro n
      have hd := h d (by simp)
      have hrest := ih (fun e he => h e (by simp [he])) (n * 10 + d)
      rw [List.foldl_cons, List.length_cons, Nat.pow_succ]
      calc rest.foldl (fun n d => n * 10 + d) (n * 10 + d)
        _ < (n * 10 + d + 1) * 10 ^ rest.length := hrest
        _ ≤ ((n + 1) * 10) * 10 ^ rest.length := Nat.mul_le_mul_right _ (by omega)
        _ = (n + 1) * (10 ^ rest.length * 10) := by rw [Nat.mul_assoc, Nat.mul_comm 10]
  simpa [digitsValue] using hfold 0

end Text

namespace Json

theorem json_int {n : Int} (h : n.natAbs < 10 ^ Numeral.maxDigits) :
    (Value.scalar (.int n)).isJson = true := by
  simp only [Value.isJson, Scalar.isJson, Numeral.write?, Nat.pow_eq]
  rw [if_pos h]
  rfl

theorem readNumber_json {negative : Bool} {s r : List Char} {v : Value}
    (h : readNumber negative s = .ok (v, r)) : v.isJson = true := by
  unfold readNumber at h
  split at h
  · cases h
  · rename_i whole rest _
    dsimp only at h
    split at h
    · rename_i hnone
      rw [Bool.and_eq_true, Option.isNone_iff_eq_none] at hnone
      rw [hnone.1] at h
      simp only [Option.getD_none, List.append_nil] at h
      split at h
      · cases h
      · rename_i hlength
        cases h
        apply json_int
        have hdigits : ∀ d ∈ whole.filterMap Text.asciiDigit?, d < 10 := by
          intro d hd
          obtain ⟨c, _, hc⟩ := List.mem_filterMap.mp hd
          exact Text.asciiDigit_lt hc
        have hle : (whole.filterMap Text.asciiDigit?).length ≤ Numeral.maxDigits :=
          Nat.le_trans (List.length_filterMap_le _ _) (Nat.not_lt.mp hlength)
        have hlt := Nat.lt_of_lt_of_le (Text.digitsValue_lt hdigits)
          (Nat.pow_le_pow_right (by decide) hle)
        split
        · rw [Int.natAbs_neg, Int.natAbs_natCast]
          exact hlt
        · rw [Int.natAbs_natCast]
          exact hlt
    · cases h
      rfl

theorem json_ofPairs {pairs : Entries} (h : (Value.map pairs).isJson = true) :
    (Value.map (Entries.ofPairs pairs)).isJson = true := by
  have hfold : ∀ entries : Entries, (Value.map entries).isJson = true →
      (Value.map (pairs.foldl (fun entries p => Entries.put p.1 p.2 entries) entries)).isJson = true := by
    induction pairs with
    | nil => exact fun _ he => he
    | cons p rest ih =>
      obtain ⟨⟨hk, hv⟩, hrest⟩ := List.forall_mem_cons.mp (Value.json_map.mp h)
      intro entries he
      refine ih (Value.json_map.mpr hrest) _ (Value.json_map.mpr ?_)
      exact Entries.forall_put (P := fun k => ∃ s, k = .text s) (Q := fun v : Value => v.isJson = true)
        (Value.json_map.mp he) hk hv
  exact hfold [] rfl

/-- What the readers give within a number of steps. -/
structure Reads (n : Nat) : Prop where
  value : ∀ {s r : List Char} {v : Value}, readValue n s = .ok (v, r) → v.isJson = true
  items : ∀ {s r : List Char} {vs : List Value}, readItems n s = .ok (vs, r) →
    (Value.list vs).isJson = true
  entries : ∀ {s r : List Char} {es : Entries}, readEntries n s = .ok (es, r) →
    (Value.map es).isJson = true

theorem Reads.succ_value {n : Nat} (h : Reads n) {s r : List Char} {v : Value}
    (hv : readValue (n + 1) s = .ok (v, r)) : v.isJson = true := by
  unfold readValue at hv
  split at hv
  · obtain ⟨t, _, ht⟩ := except_map_ok.mp hv
    cases ht
    rfl
  · split at hv
    · cases hv
      rfl
    · obtain ⟨es, hes, ht⟩ := except_map_ok.mp hv
      cases ht
      exact json_ofPairs (h.entries hes)
  · split at hv
    · cases hv
      rfl
    · obtain ⟨vs, hvs, ht⟩ := except_map_ok.mp hv
      cases ht
      exact h.items hvs
  case h_10 => exact readNumber_json hv
  case h_11 => exact readNumber_json hv
  all_goals
    cases hv
    rfl

theorem Reads.succ_items {n : Nat} (h : Reads n) {s r : List Char} {vs : List Value}
    (hv : readItems (n + 1) s = .ok (vs, r)) : (Value.list vs).isJson = true := by
  unfold readItems at hv
  obtain ⟨⟨item, r₁⟩, hitem, hv⟩ := except_bind_ok.mp hv
  have hj := h.value hitem
  dsimp only at hv
  split at hv
  · obtain ⟨⟨items, r₂⟩, hitems, hend⟩ := except_bind_ok.mp hv
    cases hend
    exact Value.json_list.mpr (List.forall_mem_cons.mpr ⟨hj, Value.json_list.mp (h.items hitems)⟩)
  · cases hv
    exact Value.json_list.mpr (List.forall_mem_singleton.mpr hj)
  · cases hv

theorem Reads.succ_entries {n : Nat} (h : Reads n) {s r : List Char} {es : Entries}
    (hv : readEntries (n + 1) s = .ok (es, r)) : (Value.map es).isJson = true := by
  unfold readEntries at hv
  split at hv
  · obtain ⟨⟨key, r₁⟩, _, hv⟩ := except_bind_ok.mp hv
    dsimp only at hv
    split at hv
    · obtain ⟨⟨value, r₂⟩, hvalue, hv⟩ := except_bind_ok.mp hv
      have hj := h.value hvalue
      dsimp only at hv
      split at hv
      · obtain ⟨⟨entries, r₃⟩, hentries, hend⟩ := except_bind_ok.mp hv
        cases hend
        exact Value.json_map.mpr (List.forall_mem_cons.mpr
          ⟨⟨⟨key, rfl⟩, hj⟩, Value.json_map.mp (h.entries hentries)⟩)
      · cases hv
        exact Value.json_map.mpr (List.forall_mem_singleton.mpr ⟨⟨key, rfl⟩, hj⟩)
      · cases hv
    · cases hv
  · cases hv

theorem reads (n : Nat) : Reads n := by
  induction n with
  | zero =>
    constructor
    all_goals
      intro s r v h
      cases h
  | succ n ih => exact ⟨ih.succ_value, ih.succ_items, ih.succ_entries⟩

theorem read_json {text : String} {v : Value} (h : read text = .ok v) : v.isJson = true := by
  unfold read at h
  obtain ⟨⟨value, rest⟩, hvalue, h⟩ := except_bind_ok.mp h
  dsimp only at h
  split at h
  · cases h
    exact (reads _).value hvalue
  · cases h

end Json

end ApiTypes
