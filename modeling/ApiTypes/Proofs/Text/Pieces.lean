import ApiTypes.Text.Pieces
import Mathlib.Data.List.Infix

/-!
# Pieces of a text

What the pieces of a text that is split at a separator are, what stands in front
of a separator or a pair at which a text is cut, and which texts replacing a pair leaves alone.
-/

set_option autoImplicit false

namespace ApiTypes.Text

theorem split_ne_nil (sep : Char) (s : List Char) : split sep s ≠ [] := by
  cases s with
  | nil => simp [split]
  | cons c r =>
    unfold split
    split
    · simp
    · split <;> simp

theorem split_pieces (sep : Char) (s : List Char) :
    (∀ p ∈ (split sep s).head?, p <+: s) ∧ ∀ p ∈ split sep s, p <:+: s := by
  induction s with
  | nil => simp [split]
  | cons c r ih =>
    by_cases hc : c = sep
    · rw [split, if_pos hc]
      refine ⟨by simp, fun p hp => ?_⟩
      rcases List.mem_cons.mp hp with rfl | hp
      · exact List.nil_infix
      · exact List.infix_cons (ih.2 p hp)
    · obtain ⟨piece, rest, hs⟩ := List.exists_cons_of_ne_nil (split_ne_nil sep r)
      have hp : piece <+: r := ih.1 piece (by simp [hs])
      have hhead : c :: piece <+: c :: r := (List.prefix_cons_inj c).mpr hp
      rw [split, if_neg hc, hs]
      refine ⟨fun q hq => ?_, fun q hq => ?_⟩
      · cases hq
        exact hhead
      · rcases List.mem_cons.mp hq with rfl | hq
        · exact hhead.isInfix
        · exact List.infix_cons (ih.2 q (by simp [hs, hq]))

theorem split_of_not_mem {sep : Char} {s : List Char} (h : sep ∉ s) : split sep s = [s] := by
  induction s with
  | nil => rfl
  | cons c r ih =>
    have hc : c ≠ sep := fun he => h (by simp [he])
    rw [split, if_neg hc, ih fun hr => h (by simp [hr])]

theorem split_append {sep : Char} {s : List Char} (h : sep ∉ s) (t : List Char) :
    split sep (s ++ sep :: t) = s :: split sep t := by
  induction s with
  | nil => rw [List.nil_append, split, if_pos rfl]
  | cons c r ih =>
    have hc : c ≠ sep := fun he => h (by simp [he])
    rw [List.cons_append, split, if_neg hc, ih fun hr => h (by simp [hr])]

theorem split_join {sep : Char} {between : String} (hsep : between.toList = [sep]) {texts : List String}
    (hne : texts ≠ []) (h : ∀ t ∈ texts, sep ∉ t.toList) :
    split sep (join between texts).toList = texts.map String.toList := by
  induction texts with
  | nil => exact (hne rfl).elim
  | cons t rest ih =>
    obtain ⟨ht, hrest⟩ := List.forall_mem_cons.mp h
    cases rest with
    | nil => rw [join, split_of_not_mem ht, List.map_singleton]
    | cons u more =>
      rw [join, String.toList_append, String.toList_append, hsep, List.append_assoc,
        List.singleton_append, split_append ht, ih (by simp) hrest]
      rfl

theorem replacePair_cons {a b c : Char} (hc : c ≠ a) (new s : List Char) :
    replacePair a b new (c :: s) = c :: replacePair a b new s := by
  cases s with
  | nil => rfl
  | cons d r => rw [replacePair, if_neg fun h => hc h.1]

theorem replacePair_of_not_mem {a b : Char} {new s : List Char} (h : a ∉ s) :
    replacePair a b new s = s := by
  induction s with
  | nil => rfl
  | cons c r ih =>
    cases r with
    | nil => rfl
    | cons d r =>
      have hc : c ≠ a := fun he => h (by simp [he])
      rw [replacePair, if_neg fun hp => hc hp.1, ih fun hr => h (by simp [hr])]

theorem replacePair_shorter (a b c : Char) (s : List Char) :
    replacePair a b [c] s = s ∨ (replacePair a b [c] s).length < s.length := by
  fun_induction replacePair a b [c] s with
  | case1 => exact .inl rfl
  | case2 d => exact .inl rfl
  | case3 d e r hp ih =>
    right
    rcases ih with h | h
    · simp [h]
    · simp only [List.singleton_append, List.length_cons]
      omega
  | case4 d e r hp ih =>
    rcases ih with h | h
    · exact .inl (by rw [h])
    · exact .inr (by simpa using h)

theorem cut_at {sep : Char} {s : List Char} (h : sep ∉ s) (t : List Char) :
    cut sep (s ++ sep :: t) = (s, some t) := by
  induction s with
  | nil => rw [List.nil_append, cut, if_pos rfl]
  | cons c r ih =>
    have hc : c ≠ sep := fun he => h (by simp [he])
    rw [List.cons_append, cut, if_neg hc, ih fun hr => h (List.mem_cons_of_mem c hr)]

theorem cutPair_cons {a b c d : Char} (h : ¬(c = a ∧ d = b)) (r : List Char) :
    cutPair a b (c :: d :: r) = (c :: (cutPair a b (d :: r)).1, (cutPair a b (d :: r)).2) := by
  rw [cutPair, if_neg h]

/-- A pair behind a text ends what stands in front of the first pair, if no pair came earlier. -/
theorem cutPair_before {a b : Char} (hab : a ≠ b) {t : List Char} (ht : t = [] ∨ ∃ u, t = a :: b :: u)
    (s : List Char) : (cutPair a b (s ++ t)).1 = (cutPair a b s).1 := by
  have hnil : (cutPair a b t).1 = [] := by
    rcases ht with rfl | ⟨u, rfl⟩
    · rfl
    · rw [cutPair, if_pos ⟨rfl, rfl⟩]
  match s with
  | [] => exact hnil
  | [c] =>
    rcases ht with rfl | ⟨u, rfl⟩
    · rfl
    · have hne : ¬(c = a ∧ a = b) := fun h => hab h.2
      rw [List.singleton_append, cutPair_cons hne]
      exact congrArg (c :: ·) hnil
  | c :: d :: r =>
    rw [List.cons_append, List.cons_append]
    by_cases hp : c = a ∧ d = b
    · rw [cutPair, cutPair, if_pos hp, if_pos hp]
    · rw [cutPair_cons hp, cutPair_cons hp]
      exact congrArg (c :: ·) (cutPair_before hab ht (d :: r))

theorem cutPair_at {a b : Char} (hab : a ≠ b) {s : List Char} (h : ¬[a, b] <:+: s) (u : List Char) :
    cutPair a b (s ++ a :: b :: u) = (s, some u) := by
  match s with
  | [] => rw [List.nil_append, cutPair, if_pos ⟨rfl, rfl⟩]
  | [c] =>
    rw [List.singleton_append, cutPair_cons fun hp => hab hp.2, cutPair, if_pos ⟨rfl, rfl⟩]
  | c :: d :: r =>
    have hp : ¬(c = a ∧ d = b) := by
      rintro ⟨rfl, rfl⟩
      exact h ⟨[], r, rfl⟩
    have ih := cutPair_at hab (s := d :: r) (fun hr => h (List.infix_cons hr)) u
    rw [List.cons_append] at ih
    rw [List.cons_append, List.cons_append, cutPair_cons hp, ih]

theorem pair_infix_append {a b : Char} {s t : List Char} (hb : b ∉ t) (h : [a, b] <:+: s ++ t) :
    [a, b] <:+: s := by
  obtain ⟨before, behind, he⟩ := h
  rcases List.append_eq_append_iff.mp he with ⟨between, hs, -⟩ | ⟨between, hs, ht⟩
  · exact ⟨before, between, hs.symm⟩
  · cases between using List.reverseRecOn with
    | nil => exact ⟨before, [], by simpa using hs⟩
    | append_singleton between c =>
      have hc : c = b := by
        have hlast := congrArg List.getLast? hs
        simpa using hlast.symm
      exact (hb (by simp [ht, hc])).elim

/-- A text behind another, where no pair can begin, stays behind the pair or is added whole. -/
theorem cutPair_after {a b : Char} {t : List Char} (ha : a ∉ t) (hb : b ∉ t) (s : List Char) :
    (cutPair a b (s ++ t)).1 =
      if (cutPair a b s).2.isSome then (cutPair a b s).1 else s ++ t := by
  have hwhole : ∀ u : List Char, a ∉ u → cutPair a b u = (u, none) := by
    intro u hu
    induction u with
    | nil => rfl
    | cons c r ih =>
      have hc : c ≠ a := fun he => hu (by simp [he])
      cases r with
      | nil => rfl
      | cons d r => rw [cutPair_cons fun h => hc h.1, ih fun hr => hu (by simp [hr])]
  match s with
  | [] => rw [List.nil_append, hwhole t ha]; rfl
  | [c] =>
    cases t with
    | nil => rfl
    | cons d r =>
      have hp : ¬(c = a ∧ d = b) := fun h => hb (by simp [h.2])
      rw [List.singleton_append, cutPair_cons hp, hwhole _ ha]
      rfl
  | c :: d :: r =>
    rw [List.cons_append, List.cons_append]
    by_cases hp : c = a ∧ d = b
    · rw [cutPair, cutPair, if_pos hp, if_pos hp]
      rfl
    · have ih := cutPair_after ha hb (d :: r)
      rw [List.cons_append] at ih
      rw [cutPair_cons hp, cutPair_cons hp, ih]
      dsimp only
      split <;> rfl

end ApiTypes.Text
