import ApiTypes.Proofs.Outcome
import ApiTypes.Proofs.Type.Reading
import ApiTypes.Reference.Basic

/-!
# Names, numbers and literals as types

A name with indices is read back if its parts can be written at all. The literal
of a value is read back whatever the value is: a number is one word, and every
other text is quoted and escaped.
-/

set_option autoImplicit false

namespace ApiTypes.TypeText

theorem Wordlike.append {a b : List Char} (ha : Wordlike a) (hb : Wordlike b) : Wordlike (a ++ b) := by
  intro c hc
  rcases List.mem_append.mp hc with hc | hc
  · exact ha c hc
  · exact hb c hc

theorem isWordChar_digit {c : Char} (h : c.isDigit = true) : isWordChar c = true := by
  simp [isWordChar, Char.isAlphanum, h]

theorem wordlike_digits (n : Nat) : Wordlike (Nat.toDigits 10 n) :=
  fun _ hc => isWordChar_digit (Nat.isDigit_of_mem_toDigits (by decide) (by decide) hc)

theorem Wordlike.sublist {a b : List Char} (hb : Wordlike b) (h : List.Sublist a b) : Wordlike a :=
  fun c hc => hb c (h.subset hc)

theorem wordlike_zeros (n : Nat) : Wordlike (Shortest.zeros n) := by
  intro c hc
  rw [List.eq_of_mem_replicate hc]
  decide

theorem wordlike_exponent (e : Int) : Wordlike (Shortest.exponentText e).toList := by
  have hdigits := (wordlike_zeros (2 - (Nat.toDigits 10 e.natAbs).length)).append
    (wordlike_digits e.natAbs)
  have hsign : Wordlike (if e < 0 then "-" else "+").toList := by
    split <;> decide
  simpa [Shortest.exponentText] using hsign.append hdigits

theorem wordlike_place (c : Shortest.Decimal) : Wordlike (Shortest.layout.place c).toList := by
  have hds := wordlike_digits c.digits
  unfold Shortest.Layout.place
  dsimp only
  split
  · split
    · have h0 : Wordlike "0.".toList := by decide
      simpa using h0.append ((wordlike_zeros _).append hds)
    · split
      · have h0 : Wordlike ".0".toList := by decide
        simpa using (hds.append (wordlike_zeros _)).append h0
      · have hdot : Wordlike ".".toList := by decide
        simpa using ((hds.sublist (List.take_sublist _ _)).append hdot).append
          (hds.sublist (List.drop_sublist _ _))
  · have hdot : Wordlike ".".toList := by decide
    have hmark : Wordlike Shortest.layout.exponentMark.toList := by decide
    have hrest : Wordlike (if ((Nat.toDigits 10 c.digits).drop 1).isEmpty then ""
        else "." ++ String.ofList ((Nat.toDigits 10 c.digits).drop 1)).toList := by
      split
      · decide
      · simpa using hdot.append (hds.sublist (List.drop_sublist 1 _))
    simpa using ((hds.sublist (List.take_sublist 1 _)).append hrest).append
      (hmark.append (wordlike_exponent _))

theorem wordlike_float (x : Binary64) : Wordlike x.text.toList := by
  unfold Binary64.text Shortest.Layout.render
  split
  · decide
  · have hsign : Wordlike (if x.isNegative then "-" else "").toList := by
      split <;> decide
    rw [String.toList_append]
    refine hsign.append ?_
    split
    · decide
    · split
      · decide
      · exact wordlike_place _

theorem place_ne_nil (c : Shortest.Decimal) : (Shortest.layout.place c).toList ≠ [] := by
  unfold Shortest.Layout.place
  dsimp only
  repeat' split
  all_goals simp [Shortest.layout]

theorem float_ne_nil (x : Binary64) : x.text.toList ≠ [] := by
  unfold Binary64.text Shortest.Layout.render
  split
  · decide
  · rw [String.toList_append]
    intro h
    have hsize := (List.append_eq_nil_iff.mp h).2
    revert hsize
    split
    · decide
    · split
      · decide
      · exact place_ne_nil _

theorem wordlike_int (n : Int) : Wordlike (toString n).toList := by
  rw [Int.toString_eq_repr]
  cases n with
  | ofNat n =>
    simpa [Int.repr, Nat.toList_repr] using wordlike_digits n
  | negSucc n =>
    have hsign : Wordlike "-".toList := by decide
    simpa [Int.repr, Nat.toList_repr] using hsign.append (wordlike_digits (n + 1))

theorem int_ne_nil (n : Int) : (toString n).toList ≠ [] := by
  rw [Int.toString_eq_repr]
  cases n with
  | ofNat n => simp [Int.repr, Nat.toList_repr, Nat.toDigits_ne_nil]
  | negSucc n => simp [Int.repr]

theorem written_eq {n : Int} {s : String} (h : Numeral.write? n = some s) : s = toString n := by
  unfold Numeral.write? at h
  split at h
  · exact (Option.some.inj h).symm
  · cases h

theorem inner_int {n : Int} {s : String} (h : (Scalar.int n).inner = .ok s) : s = toString n := by
  generalize hx : Scalar.int n = x at h
  unfold Scalar.inner at h
  split at h
  case h_3 m =>
    cases hx
    split at h
    · rename_i t hw
      rw [← Except.ok.inj h]
      exact written_eq hw
    · cases h
  all_goals cases hx

def Tree.ofLiteral : Value → Tree
  | .scalar .null => word "null"
  | .scalar (.bool b) => word (if b then "true" else "false")
  | .scalar (.int n) => word (toString n)
  | .scalar (.float x) => word x.text
  | v => match v.plain with
    | .ok s => .literal s.toList
    | .error _ => missing

theorem reads_textLiteral (s : String) : Reads (Expression.textLiteral s).toList (.literal s.toList) := by
  have htext : (Expression.textLiteral s).toList = quotedText s.toList := by
    simp [Expression.textLiteral, quotedText, escaped_eq]
  rw [htext]
  exact reads_text _

theorem literal_form {v : Value} {text : String} (h : Expression.literal v = .ok text) :
    (Wordlike text.toList ∧ text.toList ≠ [] ∧ Tree.ofLiteral v = Tree.word text) ∨
      ∃ s : String, text = Expression.textLiteral s ∧ Tree.ofLiteral v = .literal s.toList := by
  unfold Expression.literal at h
  split at h
  · cases h
    exact .inl ⟨by decide, by decide, rfl⟩
  · rename_i b
    cases h
    cases b <;> exact .inl ⟨by decide, by decide, rfl⟩
  · rename_i n
    rw [inner_int h]
    exact .inl ⟨wordlike_int n, int_ne_nil n, rfl⟩
  · rename_i x
    cases h
    exact .inl ⟨wordlike_float x, float_ne_nil x, rfl⟩
  · rename_i hnull hbool hint hfloat
    obtain ⟨s, hv, rfl⟩ := except_map_ok.mp h
    refine .inr ⟨s, rfl, ?_⟩
    unfold Tree.ofLiteral
    split
    · exact (hnull rfl).elim
    · exact (hbool _ rfl).elim
    · exact (hint _ rfl).elim
    · exact (hfloat _ rfl).elim
    · rw [hv]

theorem closes_bracket {name : List Char} (h : Quotable name) :
    Closes (Reference.bracket name) [.mark '[', .quoted '"' name, .mark ']'] := by
  have hopen : Closes ['['] [.mark '['] := closes_mark rfl rfl
  have hclose : Closes [']'] [.mark ']'] := closes_mark rfl rfl
  have htext : Reference.bracket name = ['['] ++ quotedName name ++ [']'] := by
    simp [Reference.bracket, quotedName]
  rw [htext]
  exact (hopen.append (closes_name h)).append hclose

theorem reads_name {head : List Char} {names : List (List Char)} (hw : Wordlike head)
    (hne : head = [] → names = []) (hq : ∀ n ∈ names, Quotable n) :
    Reads (head ++ names.flatMap Reference.bracket) (.name head names) := by
  by_cases hh : head = []
  · rw [hne hh, hh]
    exact reads_missing
  have hindices : ∀ (names seen : List (List Char)), (∀ n ∈ names, Quotable n) →
      ∃ ts, Closes (names.flatMap Reference.bracket) ts ∧ ∀ fs,
        Parse.run ⟨fs, .type (Slot.blank.put (.name head seen))⟩ ts =
          some ⟨fs, .type (Slot.blank.put (.name head (seen ++ names)))⟩ := by
    intro names
    induction names with
    | nil => exact fun seen _ => ⟨[], closes_nil, fun fs => by rw [Parse.run_nil, List.append_nil]⟩
    | cons n names ih =>
      intro seen hq
      obtain ⟨ts, hcloses, hrun⟩ := ih (seen ++ [n]) fun m hm => hq m (by simp [hm])
      refine ⟨_, (closes_bracket (hq n (by simp))).append hcloses, fun fs => ?_⟩
      have hindex : Parse.run ⟨fs, .type (Slot.blank.put (.name head seen))⟩
          [.mark '[', .quoted '"' n, .mark ']'] =
            some ⟨fs, .type (Slot.blank.put (.name head (seen ++ [n])))⟩ := rfl
      rw [Parse.run_append, hindex, Option.bind_some, hrun]
      simp
  obtain ⟨ts, hcloses, hrun⟩ := hindices names [] hq
  refine ⟨.word head :: ts, ?_, parses_of_operand fun fs => ?_⟩
  · cases names with
    | nil =>
      have hts : ts = [] := by
        have := (closes_nil []).symm.trans (hcloses [])
        simpa using this.symm
      rw [hts, List.flatMap_nil, List.append_nil]
      exact spells_word hw hh
    | cons n names =>
      have happ := (spells_word hw hh).closes_append hcloses (by simp [Reference.bracket])
        (by simp [StartsApart, Reference.bracket]; rfl)
      exact happ.spells
  · have hword : Parse.step ⟨fs, .type .blank⟩ (.word head) =
        some ⟨fs, .type (Slot.blank.put (.name head []))⟩ := rfl
    rw [Parse.run_cons, hword, Option.bind_some, hrun, List.nil_append]

end ApiTypes.TypeText
