import ApiTypes.Proofs.Schema.Node
import ApiTypes.Proofs.Type.Literal
import ApiTypes.Compose.Types
import Mathlib.Data.Nat.Digits.Lemmas

/-!
# Enumerations are read back

The text of an enumeration is `never`, one literal, or literals in brackets with bars
between them. A literal text ends at the next quote that no backslash escapes, so what
it holds, be it quotes or bars, never looks like the end of a literal: nulls, truth
values, integers and texts are read back as they were listed.
-/

set_option autoImplicit false

namespace ApiTypes.Enumeration

def isBasic : Value → Bool
  | .scalar .null => true
  | .scalar (.bool _) => true
  | .scalar (.int _) => true
  | .scalar (.text _) => true
  | _ => false

/-- The text up to the next quote that no backslash escapes, and what follows the quote. -/
def readText? : List Char → Option (List Char × List Char)
  | [] => none
  | '\'' :: rest => some ([], rest)
  | '\\' :: c :: rest => do
    let d ← TypeText.unescape? c
    let (s, behind) ← readText? rest
    return (d :: s, behind)
  | c :: rest => (readText? rest).map fun (s, behind) => (c :: s, behind)

def readDigits? (ds : List Char) : Option Nat :=
  if !ds.isEmpty && ds.all Char.isDigit then some (Nat.ofDigitChars 10 ds 0) else none

def readNumber? : List Char → Option Int
  | '-' :: ds => (readDigits? ds).map fun n : Nat => -(n : Int)
  | ds => (readDigits? ds).map Int.ofNat

def readWord? (w : List Char) : Option Scalar :=
  if w = "null".toList then some .null
  else if w = "true".toList then some (.bool true)
  else if w = "false".toList then some (.bool false)
  else (readNumber? w).map Scalar.int

/-- A literal at the front of a text, and what follows it. A word ends at a bracket. -/
def readLiteral? : List Char → Option (Value × List Char)
  | '\'' :: rest => (readText? rest).map fun (s, behind) => (.text (String.ofList s), behind)
  | cs => (readWord? (cs.takeWhile (· ≠ ')'))).map fun s => (.scalar s, cs.dropWhile (· ≠ ')'))

theorem readText?_length {cs s behind : List Char} (h : readText? cs = some (s, behind)) :
    behind.length < cs.length := by
  induction cs using readText?.induct generalizing s with
  | case1 => simp [readText?] at h
  | case2 rest =>
    simp only [readText?, Option.some.injEq, Prod.mk.injEq] at h
    simp [← h.2]
  | case3 c rest ih =>
    simp only [readText?, Option.bind_eq_bind, Option.bind_eq_some_iff] at h
    obtain ⟨d, _, ⟨t, u⟩, hread, hend⟩ := h
    cases hend
    have hlt : u.length < rest.length := ih hread
    simp only [List.length_cons]
    omega
  | case4 c rest hquote hescape ih =>
    simp only [readText?, Option.map_eq_some_iff] at h
    obtain ⟨⟨t, u⟩, hread, hend⟩ := h
    cases hend
    have hlt : u.length < rest.length := ih hread
    simp only [List.length_cons]
    omega

theorem readLiteral?_length {cs behind : List Char} {v : Value}
    (h : readLiteral? cs = some (v, behind)) : behind.length ≤ cs.length := by
  unfold readLiteral? at h
  split at h
  · obtain ⟨⟨s, rest⟩, hread, hend⟩ := Option.map_eq_some_iff.mp h
    cases hend
    have hlt := readText?_length hread
    simp only [List.length_cons]
    omega
  · obtain ⟨s, _, hend⟩ := Option.map_eq_some_iff.mp h
    cases hend
    exact (List.dropWhile_suffix _).length_le

def readAlternatives? (cs : List Char) : Option (List Value) :=
  match cs with
  | '(' :: rest =>
    match _h : readLiteral? rest with
    | some (v, [')']) => some [v]
    | some (v, ')' :: ' ' :: '|' :: ' ' :: more) => (readAlternatives? more).map (v :: ·)
    | _ => none
  | _ => none
termination_by cs.length
decreasing_by
  have hle := readLiteral?_length _h
  simp only [List.length_cons] at hle ⊢
  omega

def read? (cs : List Char) : Option (List Value) :=
  if cs = "never".toList then some []
  else match readLiteral? cs with
    | some (v, []) => some [v]
    | _ => readAlternatives? cs

theorem unescape?_escapes {c d : Char} (h : (c, d) ∈ TypeText.escapes) :
    TypeText.unescape? d = some c ∧ d ∉ ['\n', '\r', '\t'] := by
  have hall : ∀ p ∈ TypeText.escapes, TypeText.unescape? p.2 = some p.1 ∧ p.2 ∉ ['\n', '\r', '\t'] := by
    decide
  exact hall (c, d) h

theorem readText?_plain {c : Char} (hslash : c ≠ '\\') (hquote : c ≠ '\'') (r : List Char) :
    readText? (c :: r) = (readText? r).map fun (s, behind) => (c :: s, behind) := by
  rw [readText?.eq_def]
  split <;> simp_all

theorem readText?_escaped (s rest : List Char) :
    readText? (s.flatMap TypeText.escape ++ '\'' :: rest) = some (s, rest) := by
  induction s with
  | nil => rfl
  | cons c s ih =>
    rw [List.flatMap_cons, List.append_assoc]
    rcases TypeText.escape_cases c with ⟨d, he, hd⟩ | ⟨he, hc⟩
    · obtain ⟨hread, -⟩ := unescape?_escapes hd
      simp [he, readText?, hread, ih]
    · simp only [List.mem_cons, not_or] at hc
      rw [he, List.singleton_append, readText?_plain hc.1 hc.2.1, ih]
      rfl

theorem readDigits?_toDigits (n : Nat) : readDigits? (Nat.toDigits 10 n) = some n := by
  have hdigits : (Nat.toDigits 10 n).all Char.isDigit = true :=
    List.all_eq_true.mpr fun _ hc => Nat.isDigit_of_mem_toDigits (by decide) (by decide) hc
  simp [readDigits?, hdigits, Nat.ofDigitChars_toDigits]

theorem toList_numeral (n : Int) : (toString n).toList =
    if n < 0 then '-' :: Nat.toDigits 10 n.natAbs else Nat.toDigits 10 n.natAbs := by
  rw [Int.toString_eq_repr]
  cases n with
  | ofNat n => simp [Int.repr]
  | negSucc n => simp [Int.repr]

theorem readNumber?_numeral (n : Int) : readNumber? (toString n).toList = some n := by
  rw [toList_numeral]
  by_cases hn : n < 0
  · rw [if_pos hn, readNumber?, readDigits?_toDigits, Option.map_some]
    congr 1
    omega
  · rw [if_neg hn]
    have hread := readDigits?_toDigits n.natAbs
    have hsign : '-' ∉ Nat.toDigits 10 n.natAbs := fun hmem =>
      absurd (Nat.isDigit_of_mem_toDigits (by decide) (by decide) hmem) (by decide)
    unfold readNumber?
    split
    · rename_i ds hds
      exact (hsign (by rw [hds]; exact List.mem_cons_self)).elim
    · rw [hread, Option.map_some]
      exact congrArg some (Int.natAbs_of_nonneg (by omega))

theorem numeral_chars {n : Int} {c : Char} (h : c ∈ (toString n).toList) :
    c = '-' ∨ c.isDigit = true := by
  rw [toList_numeral] at h
  split at h
  · rcases List.mem_cons.mp h with rfl | h
    · exact .inl rfl
    · exact .inr (Nat.isDigit_of_mem_toDigits (by decide) (by decide) h)
  · exact .inr (Nat.isDigit_of_mem_toDigits (by decide) (by decide) h)

theorem numeral_ne {n : Int} {c : Char} {w : List Char} (hsign : c ≠ '-') (hdigit : c.isDigit = false) :
    (toString n).toList ≠ c :: w := by
  intro he
  have hmem : c ∈ (toString n).toList := by
    rw [he]
    exact List.mem_cons_self
  rcases numeral_chars hmem with h | h
  · exact hsign h
  · rw [hdigit] at h
    cases h

theorem readWord?_numeral (n : Int) : readWord? (toString n).toList = some (.int n) := by
  have hnull : (toString n).toList ≠ "null".toList := numeral_ne (by decide) (by decide)
  have htrue : (toString n).toList ≠ "true".toList := numeral_ne (by decide) (by decide)
  have hfalse : (toString n).toList ≠ "false".toList := numeral_ne (by decide) (by decide)
  rw [readWord?, if_neg hnull, if_neg htrue, if_neg hfalse, readNumber?_numeral, Option.map_some]

/-- The text of a word that is read back as the value. -/
structure IsWord (s : Scalar) (w : List Char) : Prop where
  read : readWord? w = some s
  chars : ∀ c ∈ w, c ∉ [')', '\'', '\n', '\r', '\t']

theorem isWord_null : IsWord .null "null".toList := ⟨rfl, by simp⟩

theorem isWord_bool (b : Bool) : IsWord (.bool b) (if b then "true" else "false").toList := by
  cases b with
  | true => exact ⟨rfl, by simp⟩
  | false => exact ⟨rfl, by simp⟩

theorem isWord_numeral (n : Int) : IsWord (.int n) (toString n).toList where
  read := readWord?_numeral n
  chars := by
    intro c hc
    rcases numeral_chars hc with rfl | hdigit
    · decide
    · intro hmem
      simp only [List.mem_cons, List.not_mem_nil, or_false] at hmem
      rcases hmem with rfl | rfl | rfl | rfl | rfl <;> revert hdigit <;> decide

/-- The text of a literal of the value: a word, or a text in quotes. -/
inductive IsLiteral : Value → List Char → Prop
  | word {s : Scalar} {w : List Char} (h : IsWord s w) : IsLiteral (.scalar s) w
  | text (s : String) : IsLiteral (.text s) ('\'' :: (s.toList.flatMap TypeText.escape ++ ['\'']))

theorem isLiteral_of_literal {v : Value} {text : String} (hv : isBasic v = true)
    (h : Expression.literal v = .ok text) : IsLiteral v text.toList := by
  unfold Expression.literal at h
  split at h
  · cases h
    exact .word isWord_null
  · cases h
    exact .word (isWord_bool _)
  · rw [TypeText.inner_int h]
    exact .word (isWord_numeral _)
  · cases hv
  · rename_i hnull hbool hint _
    obtain ⟨s, rfl⟩ : ∃ s, v = .text s := by
      unfold isBasic at hv
      split at hv
      · exact (hnull rfl).elim
      · exact (hbool _ rfl).elim
      · exact (hint _ rfl).elim
      · exact ⟨_, rfl⟩
      · cases hv
    cases h
    have htext : (Expression.textLiteral s).toList =
        '\'' :: (s.toList.flatMap TypeText.escape ++ ['\'']) := by
      simp [Expression.textLiteral, TypeText.escaped_eq]
    rw [htext]
    exact .text s

/-- What can stand behind a literal: nothing, or a closing bracket. -/
def Ends (rest : List Char) : Prop := ∀ c ∈ rest.head?, c = ')'

theorem IsWord.ne_quote {s : Scalar} {w rest r : List Char} (h : IsWord s w) (hrest : Ends rest) :
    w ++ rest ≠ '\'' :: r := by
  intro he
  cases w with
  | nil =>
    rw [List.nil_append] at he
    exact absurd (hrest '\'' (by simp [he])) (by decide)
  | cons c w =>
    obtain ⟨rfl, -⟩ := List.cons.inj he
    exact h.chars '\'' List.mem_cons_self (by decide)

theorem IsLiteral.read {v : Value} {cs rest : List Char} (h : IsLiteral v cs) (hrest : Ends rest) :
    readLiteral? (cs ++ rest) = some (v, rest) := by
  cases h with
  | @word s _ hw =>
    have hfree : ∀ c ∈ cs, decide (c ≠ ')') = true := fun c hc =>
      decide_eq_true fun he => hw.chars c hc (by simp [he])
    have htake : (cs ++ rest).takeWhile (· ≠ ')') = cs := by
      rw [List.takeWhile_append_of_pos hfree]
      cases rest with
      | nil => simp
      | cons c r => simp [hrest c rfl]
    have hdrop : (cs ++ rest).dropWhile (· ≠ ')') = rest := by
      rw [List.dropWhile_append_of_pos hfree]
      cases rest with
      | nil => simp
      | cons c r => simp [hrest c rfl]
    unfold readLiteral?
    split
    · rename_i r hr
      exact (hw.ne_quote hrest hr).elim
    · rw [htake, hdrop, hw.read, Option.map_some]
  | text s =>
    rw [List.cons_append, List.append_assoc, readLiteral?, List.singleton_append, readText?_escaped,
      Option.map_some]
    exact congrArg (fun t => some (Value.text t, rest)) String.ofList_toList

/-- A text with no line feed, carriage return or tab. -/
def Unbroken (cs : List Char) : Prop := ∀ c ∈ cs, c ∉ ['\n', '\r', '\t']

instance (cs : List Char) : Decidable (Unbroken cs) := List.decidableBAll _ cs

theorem Unbroken.append {a b : List Char} (ha : Unbroken a) (hb : Unbroken b) : Unbroken (a ++ b) :=
  fun c hc => (List.mem_append.mp hc).elim (ha c) (hb c)

theorem IsLiteral.unbroken {v : Value} {cs : List Char} (h : IsLiteral v cs) : Unbroken cs := by
  cases h with
  | word hw =>
    intro c hc hbreak
    exact hw.chars c hc (List.mem_cons_of_mem _ (List.mem_cons_of_mem _ hbreak))
  | text s =>
    intro c hc
    simp only [List.mem_cons, List.mem_append, List.mem_flatMap, List.not_mem_nil, or_false] at hc
    rcases hc with rfl | ⟨d, -, hd⟩ | rfl
    · decide
    · rcases TypeText.escape_cases d with ⟨e, he, hescape⟩ | ⟨he, hplain⟩
      · rw [he] at hd
        rcases List.mem_cons.mp hd with rfl | hd
        · decide
        · rw [List.mem_singleton.mp hd]
          exact (unescape?_escapes hescape).2
      · rw [he] at hd
        rw [List.mem_singleton.mp hd]
        exact fun hbreak => hplain (List.mem_cons_of_mem _ (List.mem_cons_of_mem _ hbreak))
    · decide

/-- The texts are literals of the values, one for one. -/
def Spelled (vs : List Value) (texts : List String) : Prop :=
  List.Forall₂ (fun v t => IsLiteral v t.toList) vs texts

theorem readAlternatives?_last {v : Value} {cs : List Char} (h : IsLiteral v cs) :
    readAlternatives? ('(' :: (cs ++ [')'])) = some [v] := by
  have hread : readLiteral? (cs ++ [')']) = some (v, [')']) := h.read (by simp [Ends])
  rw [readAlternatives?]
  split
  · rename_i he
    cases hread.symm.trans he
    rfl
  · rename_i he
    cases hread.symm.trans he
  · rename_i hlast _
    exact (hlast v hread).elim

theorem readAlternatives?_next {v : Value} {cs : List Char} (h : IsLiteral v cs)
    (more : List Char) :
    readAlternatives? ('(' :: (cs ++ (")".toList ++ " | ".toList ++ more))) =
      (readAlternatives? more).map (v :: ·) := by
  have hread : readLiteral? (cs ++ (")".toList ++ " | ".toList ++ more)) =
      some (v, ')' :: ' ' :: '|' :: ' ' :: more) := h.read (by simp [Ends])
  rw [readAlternatives?]
  split
  · rename_i he
    cases hread.symm.trans he
  · rename_i he
    cases hread.symm.trans he
    rfl
  · rename_i hnext
    exact (hnext v more hread).elim

theorem readAlternatives?_join {vs : List Value} {texts : List String} (h : Spelled vs texts)
    (hne : texts ≠ []) :
    readAlternatives? ('(' :: ((Text.join ") | (" texts).toList ++ [')'])) = some vs := by
  induction h with
  | nil => exact (hne rfl).elim
  | @cons v t vs rest hv hrest ih =>
    cases rest with
    | nil =>
      cases hrest
      exact readAlternatives?_last hv
    | cons u more =>
      have htext : (Text.join ") | (" (t :: u :: more)).toList ++ [')'] =
          t.toList ++ (")".toList ++ " | ".toList ++
            '(' :: ((Text.join ") | (" (u :: more)).toList ++ [')'])) := by
        simp [Text.join]
      rw [htext, readAlternatives?_next hv, ih (by simp), Option.map_some]

theorem readWord?_bracket (w : List Char) : readWord? ('(' :: w) = none := by
  have hdigit : '('.isDigit = false := by decide
  simp [readWord?, readNumber?, readDigits?, hdigit]

theorem readLiteral?_bracket (cs : List Char) : readLiteral? ('(' :: cs) = none := by
  simp [readLiteral?, readWord?_bracket]

theorem read?_union {vs : List Value} {texts : List String} (h : Spelled vs texts) :
    read? (Expression.union texts).toList = some vs := by
  unfold Expression.union Expression.joined
  split
  · cases h
    rfl
  · rename_i t
    obtain ⟨v, rest, hv, hrest, rfl⟩ := List.forall₂_cons_right_iff.mp h
    cases hrest
    have hread : readLiteral? t.toList = some (v, []) := by
      have happend : readLiteral? (t.toList ++ []) = some (v, []) := hv.read (by simp [Ends])
      rwa [List.append_nil] at happend
    unfold read?
    split
    · rename_i hnever
      have hnone : readLiteral? "never".toList = none := rfl
      rw [hnever, hnone] at hread
      cases hread
    · rw [hread]
  · rename_i hnil hone
    have hne : texts ≠ [] := fun he => hnil he
    have htext : ("(" ++ Text.join ") | (" texts ++ ")").toList =
        '(' :: ((Text.join ") | (" texts).toList ++ [')']) := by
      simp
    rw [htext, read?, if_neg (by simp), readLiteral?_bracket]
    exact readAlternatives?_join h hne

theorem unbroken_join {vs : List Value} {texts : List String} (h : Spelled vs texts) :
    Unbroken (Text.join ") | (" texts).toList := by
  induction h with
  | nil => decide
  | @cons v t vs rest hv hrest ih =>
    cases rest with
    | nil => exact hv.unbroken
    | cons u more =>
      have hbetween : Unbroken ") | (".toList := by decide
      rw [Text.join, String.toList_append, String.toList_append]
      exact (hv.unbroken.append hbetween).append ih

theorem unbroken_union {vs : List Value} {texts : List String} (h : Spelled vs texts) :
    Unbroken (Expression.union texts).toList := by
  have hjoin := unbroken_join h
  unfold Expression.union Expression.joined
  split
  · decide
  · exact hjoin
  · have hopen : Unbroken "(".toList := by decide
    have hclose : Unbroken ")".toList := by decide
    rw [String.toList_append, String.toList_append]
    exact (hopen.append hjoin).append hclose

/-- An integer with so many digits that it is not written. -/
def isLong : Value → Bool
  | .scalar (.int n) => Numeral.maxDigits < (Nat.digits 10 n.natAbs).length
  | _ => false

theorem isLong_int (n : Int) :
    isLong (.scalar (.int n)) = true ↔ 10 ^ Numeral.maxDigits ≤ n.natAbs := by
  rw [isLong, decide_eq_true_iff, Nat.lt_digits_length_iff (by decide)]

theorem write?_eq (n : Int) : Numeral.write? n =
    if Numeral.maxDigits < (Nat.digits 10 n.natAbs).length then none else some (toString n) := by
  have hlength := Nat.digits_length_le_iff (b := 10) (k := Numeral.maxDigits) (by decide) n.natAbs
  rw [Numeral.write?, Nat.pow_eq]
  by_cases hn : Numeral.maxDigits < (Nat.digits 10 n.natAbs).length
  · rw [if_pos hn, if_neg fun hlt => Nat.not_le_of_lt hn (hlength.mpr hlt)]
  · rw [if_neg hn, if_pos (hlength.mp (Nat.le_of_not_lt hn))]

theorem literal_short {v : Value} (hv : isBasic v = true) (h : isLong v = false) :
    ∃ text, Expression.literal v = .ok text := by
  unfold isBasic at hv
  split at hv
  · exact ⟨_, rfl⟩
  · exact ⟨_, rfl⟩
  · rename_i n
    refine ⟨toString n, ?_⟩
    unfold Expression.literal Scalar.inner
    dsimp only
    rw [write?_eq, if_neg (of_decide_eq_false h)]
  · exact ⟨_, rfl⟩
  · cases hv

theorem literal_long {v : Value} (h : isLong v = true) :
    Expression.literal v = .error .integerTooLong := by
  unfold isLong at h
  split at h
  · unfold Expression.literal Scalar.inner
    dsimp only
    rw [write?_eq, if_pos (of_decide_eq_true h)]
  · cases h

/-- The literals of basic values are written, unless an integer among them is too long. -/
theorem literals_basic {vs : List Value} (h : ∀ v ∈ vs, isBasic v = true) :
    if vs.any isLong then Expression.literals vs = .error .integerTooLong
    else ∃ texts, Expression.literals vs = .ok texts ∧ Spelled vs texts := by
  unfold Expression.literals
  induction vs with
  | nil => exact ⟨[], rfl, .nil⟩
  | cons v vs ih =>
    obtain ⟨hv, hvs⟩ := List.forall_mem_cons.mp h
    have ih := ih hvs
    rw [List.any_cons, List.mapM_cons]
    cases hlong : isLong v with
    | true =>
      rw [literal_long hlong]
      rfl
    | false =>
      obtain ⟨text, htext⟩ := literal_short hv hlong
      rw [htext, Bool.false_or]
      split at ih
      · rename_i hany
        rw [if_pos hany, ih]
        rfl
      · rename_i hany
        obtain ⟨texts, htexts, hspelled⟩ := ih
        rw [if_neg hany, htexts]
        exact ⟨_, rfl, .cons (isLiteral_of_literal hv htext) hspelled⟩

def node (vs : List Value) : Value := .map [(.text "enum", .list vs)]

theorem ofValue_node (vs : List Value) : Schema.ofValue (node vs) = .enumeration vs :=
  Schema.ofValue_enumeration rfl

theorem exec_node (root : String) (vs : List Value) (l : Ledger) :
    (composeType root (node vs)).exec l = ((Expression.literals vs).map Expression.union, l) := by
  rw [composeType, ofValue_node, Schema.compose, Compose.exec_bind, Compose.exec_lift]
  cases Expression.literals vs <;> rfl

theorem text_of_basic {vs : List Value} (h : ∀ v ∈ vs, isBasic v = true) {root text : String}
    {l l' : Ledger} (hrun : (composeType root (node vs)).exec l = (.ok text, l')) :
    Unbroken text.toList ∧ read? text.toList = some vs := by
  rw [exec_node] at hrun
  obtain ⟨texts, htexts, rfl⟩ := except_map_ok.mp (Prod.mk.inj hrun).1
  have hspelled := literals_basic h
  split at hspelled
  · rw [hspelled] at htexts
    cases htexts
  · obtain ⟨texts', htexts', hspelled⟩ := hspelled
    cases htexts.symm.trans htexts'
    exact ⟨unbroken_union hspelled, read?_union hspelled⟩

/-- An enumeration of nulls, truth values, integers and texts is written on one line, and read
back as the values it lists: no other such list has that text. Only a list with an integer that is
too long is not written at all. -/
theorem enumeration_read_back (vs : List Value) (h : ∀ v ∈ vs, isBasic v = true) (root : String)
    (l : Ledger) :
    if vs.any isLong then (composeType root (node vs)).exec l = (.error .integerTooLong, l)
    else ∃ text, (composeType root (node vs)).exec l = (.ok text, l) ∧
      Unbroken text.toList ∧ read? text.toList = some vs ∧
      ∀ ws : List Value, (∀ w ∈ ws, isBasic w = true) → ∀ root' l₁ l₂,
        (composeType root' (node ws)).exec l₁ = (.ok text, l₂) → ws = vs := by
  have hliterals := literals_basic h
  split at hliterals
  · rename_i hlong
    rw [if_pos hlong, exec_node, hliterals]
    rfl
  · rename_i hshort
    obtain ⟨texts, htexts, -⟩ := hliterals
    have hrun : (composeType root (node vs)).exec l = (.ok (Expression.union texts), l) := by
      rw [exec_node, htexts]
      rfl
    obtain ⟨hbreaks, hread⟩ := text_of_basic h hrun
    rw [if_neg hshort]
    refine ⟨_, hrun, hbreaks, hread, fun ws hws _ _ _ hother => ?_⟩
    have hsame := (text_of_basic hws hother).2.symm.trans hread
    exact Option.some.inj hsame

def mixed : List Value :=
  [.text "a') | ('b", .text "\\", .text "\\'", .text "", .text "null", .null, .scalar (.bool true),
    .scalar (.int (-12)), .text "one\r\n\ttwo"]

theorem mixed_read_back : (∀ v ∈ mixed, isBasic v = true) ∧
    ∃ text, (composeType "" (node mixed)).exec .empty = (.ok text, .empty) ∧
      Unbroken text.toList ∧ read? text.toList = some mixed := by
  have hbasic : ∀ v ∈ mixed, isBasic v = true := by decide
  have hshort : mixed.any isLong = false := by decide
  have hread := enumeration_read_back mixed hbasic "" .empty
  rw [hshort] at hread
  obtain ⟨text, hrun, hbreaks, hread, -⟩ := hread
  exact ⟨hbasic, text, hrun, hbreaks, hread⟩

def longInteger : Int := (10 ^ Numeral.maxDigits : Nat)

theorem longInteger_unwritten : isBasic (.scalar (.int longInteger)) = true ∧ ∀ text l,
    (composeType "" (node [.scalar (.int longInteger)])).exec .empty ≠ (.ok text, l) := by
  have hlong : isLong (.scalar (.int longInteger)) = true := by
    rw [isLong_int, longInteger, Int.natAbs_natCast]
  refine ⟨rfl, fun text l => ?_⟩
  rw [exec_node, Expression.literals, List.mapM_cons, literal_long hlong]
  exact fun h => by cases h

end ApiTypes.Enumeration
