import ApiTypes.Reference.Imports
import Mathlib.Data.List.Basic

/-!
# The lines of the import block

Every key has one line that imports its document and one that maps the key to
the alias, both with the place of the key in the list. There are no other lines.
-/

set_option autoImplicit false

namespace ApiTypes.Imports

theorem append_cons_inj {p : Char → Bool} {xs ys r s : List Char} {c d : Char}
    (hx : ∀ x ∈ xs, p x = true) (hy : ∀ y ∈ ys, p y = true) (hc : p c = false) (hd : p d = false)
    (h : xs ++ c :: r = ys ++ d :: s) : xs = ys ∧ c :: r = d :: s := by
  have htake : ∀ {zs t : List Char} {e : Char}, (∀ z ∈ zs, p z = true) → p e = false →
      (zs ++ e :: t).takeWhile p = zs := by
    intro zs t e hz he
    rw [List.takeWhile_append_of_pos hz, List.takeWhile_cons_of_neg (by simp [he]), List.append_nil]
  have heq : xs = ys := by
    rw [← htake (t := r) hx hc, h, htake hy hd]
  exact ⟨heq, List.append_cancel_left (heq ▸ h)⟩

theorem toDigits_inj {i j : Nat} (h : Nat.toDigits 10 i = Nat.toDigits 10 j) : i = j := by
  have hi := Nat.ofDigitChars_toDigits (n := i) (b := 10) (by decide) (by decide)
  have hj := Nat.ofDigitChars_toDigits (n := j) (b := 10) (by decide) (by decide)
  rw [← hi, h, hj]

theorem isDigit_toDigits (n : Nat) : ∀ c ∈ Nat.toDigits 10 n, c.isDigit = true :=
  fun _ hc => Nat.isDigit_of_mem_toDigits (by decide) (by decide) hc

theorem aliasOf_toList (i : Nat) : (aliasOf i).toList = "external$".toList ++ Nat.toDigits 10 i := by
  rw [aliasOf, String.toList_append, Nat.toString_eq_repr, Nat.toList_repr]

theorem aliasOf_inj {i j : Nat} : aliasOf i = aliasOf j ↔ i = j := by
  constructor
  · intro h
    have hl := congrArg String.toList h
    rw [aliasOf_toList, aliasOf_toList] at hl
    exact toDigits_inj (List.append_cancel_left hl)
  · rintro rfl
    rfl

theorem importLine_toList (i : Nat) (k : String) : (importLine i k).toList =
    "import \x7b schemas as ".toList ++ ("external$".toList ++ (Nat.toDigits 10 i ++
      (" \x7d from \"./".toList ++ (k.toList ++ "\";".toList)))) := by
  unfold importLine
  rw [String.toList_append, String.toList_append, String.toList_append, String.toList_append,
    aliasOf_toList]
  simp only [List.append_assoc]

theorem mappingLine_toList (i : Nat) (k : String) : (mappingLine i k).toList =
    "\"".toList ++ (k.toList ++ "\": external".toList ++ '$' :: (Nat.toDigits 10 i ++ [';'])) := by
  have hmid : "\": ".toList ++ "external$".toList = "\": external".toList ++ ['$'] := by decide
  have hend : ";".toList = [';'] := by decide
  rw [mappingLine, String.toList_append, String.toList_append, String.toList_append,
    String.toList_append, aliasOf_toList, hend]
  simp only [List.append_assoc]
  rw [← List.append_assoc "\": ".toList, hmid]
  simp only [List.append_assoc, List.cons_append, List.nil_append]

theorem importLine_inj {i j : Nat} {k m : String} (h : importLine i k = importLine j m) :
    i = j ∧ k = m := by
  have hl := congrArg String.toList h
  have hfrom : " \x7d from \"./".toList = ' ' :: "\x7d from \"./".toList := by decide
  rw [importLine_toList, importLine_toList, hfrom] at hl
  obtain ⟨hij, hrest⟩ := append_cons_inj (isDigit_toDigits i) (isDigit_toDigits j)
    (c := ' ') (d := ' ') (by decide) (by decide)
    (List.append_cancel_left (List.append_cancel_left hl))
  refine ⟨toDigits_inj hij, ?_⟩
  have hk := List.append_cancel_left (List.cons.inj hrest).2
  exact String.toList_inj.mp (List.append_cancel_right hk)

/-- A line that maps tells its place and its key. The numeral is read from the end. -/
theorem mappingLine_inj {i j : Nat} {k m : String} (h : mappingLine i k = mappingLine j m) :
    i = j ∧ k = m := by
  have hl := congrArg String.toList h
  rw [mappingLine_toList, mappingLine_toList] at hl
  have hback := congrArg List.reverse (List.append_cancel_left hl)
  simp only [List.reverse_append, List.reverse_cons, List.append_assoc, List.reverse_nil,
    List.nil_append, List.cons_append] at hback
  have hrev : ∀ n : Nat, ∀ c ∈ (Nat.toDigits 10 n).reverse, c.isDigit = true :=
    fun n c hc => isDigit_toDigits n c (List.mem_reverse.mp hc)
  obtain ⟨hij, hrest⟩ := append_cons_inj (hrev i) (hrev j) (c := '$') (d := '$') (by decide) (by decide)
    (List.cons.inj hback).2
  refine ⟨toDigits_inj (List.reverse_inj.mp hij), ?_⟩
  have hk := List.reverse_inj.mp (List.append_cancel_left (List.cons.inj hrest).2)
  exact String.toList_inj.mp hk

/-- The line of a key at its place is there once; no other key has a line, and none at another
place. -/
theorem numbered_count {line : Nat → String → String}
    (hinj : ∀ {i j k m}, line i k = line j m → i = j ∧ k = m) (keys : List String) (n i : Nat)
    (k : String) : (numbered line n keys).count (line i k) =
      if n ≤ i ∧ keys[i - n]? = some k then 1 else 0 := by
  induction keys generalizing n with
  | nil => simp [numbered]
  | cons key rest ih =>
    rw [numbered, List.count_cons, ih]
    by_cases hi : i = n
    · subst hi
      have hbehind : ¬(i + 1 ≤ i ∧ rest[i - (i + 1)]? = some k) := fun h => Nat.not_succ_le_self i h.1
      rw [if_neg hbehind]
      by_cases hk : key = k
      · subst hk
        simp
      · have hne : line i key ≠ line i k := fun he => hk (hinj he).2
        simp [hk, hne]
    · have hne : line n key ≠ line i k := fun he => hi (hinj he).1.symm
      by_cases hle : n ≤ i
      · obtain ⟨d, rfl⟩ := Nat.exists_eq_add_of_lt (Nat.lt_of_le_of_ne hle (Ne.symm hi))
        have h1 : n + d + 1 - n = d + 1 := by omega
        have h2 : n + d + 1 - (n + 1) = d := by omega
        have h3 : n + 1 ≤ n + d + 1 := by omega
        simp [hne, h1, h2, h3, hle]
      · have h4 : ¬n + 1 ≤ i := by omega
        simp [hne, hle, h4]

def lines (keys : List String) : List String :=
  numbered importLine 0 keys ++
    ("" :: "export type external = \x7b" :: (numbered mappingLine 0 keys ++ ["\x7d", "", ""]))

theorem join_append {sep : String} {a b : List String} (ha : a ≠ []) (hb : b ≠ []) :
    Text.join sep (a ++ b) = Text.join sep a ++ sep ++ Text.join sep b := by
  induction a with
  | nil => exact (ha rfl).elim
  | cons s rest ih =>
    cases rest with
    | nil =>
      obtain ⟨t, more, rfl⟩ := List.exists_cons_of_ne_nil hb
      rfl
    | cons t more =>
      rw [List.cons_append, List.cons_append, Text.join, ← List.cons_append, ih (by simp), Text.join]
      simp only [String.append_assoc]

theorem numbered_ne_nil {line : Nat → String → String} {keys : List String} (h : keys ≠ []) (n : Nat) :
    numbered line n keys ≠ [] := by
  cases keys with
  | nil => exact (h rfl).elim
  | cons key rest => simp [numbered]

theorem block_eq {keys : List String} (h : keys ≠ []) : block keys = Text.join "\n" (lines keys) := by
  have hempty : ¬keys.isEmpty = true := by simpa using h
  have htail : Text.join "\n" ("export type external = \x7b" ::
      (numbered mappingLine 0 keys ++ ["\x7d", "", ""])) =
        Text.join "\n" ("export type external = \x7b" :: (numbered mappingLine 0 keys ++ ["\x7d"])) ++
          "\n" ++ "\n" := by
    have hsplit : "export type external = \x7b" :: (numbered mappingLine 0 keys ++ ["\x7d", "", ""]) =
        ("export type external = \x7b" :: (numbered mappingLine 0 keys ++ ["\x7d"])) ++ ["", ""] := by
      simp
    have hend : Text.join "\n" ["", ""] = "\n" := by decide
    rw [hsplit, join_append (by simp) (by simp), hend]
  have htwo : ("\n\n" : String) = "\n" ++ "\n" := by decide
  unfold block
  rw [if_neg hempty, lines, join_append (numbered_ne_nil h 0) (by simp), Text.join, htail, htwo]
  simp only [String.append_assoc, String.empty_append]

theorem importLine_head (i : Nat) (k : String) : (importLine i k).toList.head? = some 'i' := by
  rw [importLine_toList]
  rfl

theorem mappingLine_head (i : Nat) (k : String) : (mappingLine i k).toList.head? = some '"' := by
  rw [mappingLine_toList]
  rfl

theorem count_of_heads {c : Char} {line : String} {ls : List String} (hline : line.toList.head? = some c)
    (h : ∀ l ∈ ls, l.toList.head? ≠ some c) : ls.count line = 0 :=
  List.count_eq_zero.mpr fun hm => h line hm hline

theorem mem_numbered {line : Nat → String → String} {keys : List String} {n : Nat} {l : String}
    (h : l ∈ numbered line n keys) : ∃ i, ∃ k ∈ keys, l = line i k := by
  induction keys generalizing n with
  | nil => cases h
  | cons key rest ih =>
    rw [numbered] at h
    rcases List.mem_cons.mp h with rfl | h
    · exact ⟨n, key, by simp, rfl⟩
    · obtain ⟨i, k, hk, rfl⟩ := ih h
      exact ⟨i, k, by simp [hk], rfl⟩

/-- The line that imports the document of a key stands once in the block, for a key at its place. -/
theorem count_importLine (keys : List String) (i : Nat) (k : String) :
    (lines keys).count (importLine i k) = if keys[i]? = some k then 1 else 0 := by
  have hrest : ("" :: "export type external = \x7b" ::
      (numbered mappingLine 0 keys ++ ["\x7d", "", ""])).count (importLine i k) = 0 := by
    apply count_of_heads (importLine_head i k)
    intro l hl
    simp only [List.mem_cons, List.mem_append, List.not_mem_nil, or_false] at hl
    rcases hl with rfl | rfl | hl | rfl | rfl | rfl
    · decide
    · decide
    · obtain ⟨j, m, _, rfl⟩ := mem_numbered hl
      rw [mappingLine_head]
      decide
    · decide
    · decide
    · decide
  rw [lines, List.count_append, hrest, numbered_count importLine_inj]
  simp

/-- The line that maps a key stands once in the block, for a key at its place. -/
theorem count_mappingLine (keys : List String) (i : Nat) (k : String) :
    (lines keys).count (mappingLine i k) = if keys[i]? = some k then 1 else 0 := by
  have hfirst : (numbered importLine 0 keys).count (mappingLine i k) = 0 := by
    apply count_of_heads (mappingLine_head i k)
    intro l hl
    obtain ⟨j, m, _, rfl⟩ := mem_numbered hl
    rw [importLine_head]
    decide
  have hopen : ["", "export type external = \x7b"].count (mappingLine i k) = 0 := by
    apply count_of_heads (mappingLine_head i k)
    intro l hl
    simp only [List.mem_cons, List.not_mem_nil, or_false] at hl
    rcases hl with rfl | rfl <;> decide
  have hclose : ["\x7d", "", ""].count (mappingLine i k) = 0 := by
    apply count_of_heads (mappingLine_head i k)
    intro l hl
    simp only [List.mem_cons, List.not_mem_nil, or_false] at hl
    rcases hl with rfl | rfl | rfl <;> decide
  have hsplit : lines keys = numbered importLine 0 keys ++ (["", "export type external = \x7b"] ++
      (numbered mappingLine 0 keys ++ ["\x7d", "", ""])) := rfl
  rw [hsplit, List.count_append, List.count_append, List.count_append, hfirst, hopen, hclose,
    numbered_count mappingLine_inj]
  simp

theorem alias_eq_iff {keys : List String} {k m : String} (hk : k ∈ keys) :
    aliasOf (keys.idxOf k) = aliasOf (keys.idxOf m) ↔ k = m := by
  rw [aliasOf_inj]
  exact List.idxOf_inj hk

end ApiTypes.Imports
