import ApiTypes.Declaration.DocComment
import ApiTypes.Declaration.Expression
import ApiTypes.Proofs.Text.Pieces
import ApiTypes.Proofs.Type.Scan
import Mathlib.Data.List.Chain

/-!
# Names, literals and comments are read as they were meant

A name between double quotes is one word if it holds no double quote, no
backslash and no line break. A literal of any text is one word, and a comment of
any text is none: neither needs a condition, since both are escaped.
-/

set_option autoImplicit false

namespace ApiTypes.TypeText

/-- A name that can stand between double quotes as it is. -/
def Quotable (s : List Char) : Prop := ∀ c ∈ s, c ≠ '"' ∧ c ≠ '\\' ∧ c ≠ '\n' ∧ c ≠ '\r'

instance (s : List Char) : Decidable (Quotable s) := List.decidableBAll _ s

def quotedName (s : List Char) : List Char := '"' :: (s ++ ['"'])

theorem run_name (s u : List Char) (ts : List Token) (h : Quotable s) :
    Scan.run ⟨.quoted '"' u, ts⟩ (s ++ ['"']) = some ⟨.between, ts ++ [.quoted '"' (u ++ s)]⟩ := by
  induction s generalizing u with
  | nil => simp [Scan.run_cons, Scan.run_nil, Scan.step, Scan.stepQuoted]
  | cons c s ih =>
    obtain ⟨hq, hb, hn, hr⟩ := h c (by simp)
    have hs : Quotable s := fun d hd => h d (by simp [hd])
    rw [List.cons_append, Scan.run_cons, Scan.step, Scan.stepQuoted, if_neg hq, if_neg hb,
      if_neg (by simp [hn, hr]), Option.bind_some, ih (u ++ [c]) hs]
    simp

theorem closes_name {s : List Char} (h : Quotable s) : Closes (quotedName s) [.quoted '"' s] := by
  intro before
  have hstep : Scan.step ⟨.between, before⟩ '"' = some ⟨.quoted '"' [], before⟩ := rfl
  rw [quotedName, Scan.run_cons, hstep, Option.bind_some, run_name s [] before h]
  rfl

theorem word_of_run_between {cs u w : List Char} {q : Char} {ts more : List Token} {m : Mode}
    (h : Scan.run ⟨.between, ts ++ [.quoted q u]⟩ cs = some ⟨m, ts ++ .quoted q w :: more⟩) : w = u := by
  have hbefore := Scan.run_before .between (ts ++ [.quoted q u]) [] cs
  rw [List.append_nil, h] at hbefore
  obtain ⟨t, -, ht⟩ := Option.map_eq_some_iff.mp hbefore.symm
  have htokens := (Scan.mk.inj ht).2
  rw [List.append_assoc, List.append_cancel_left_eq, List.singleton_append] at htokens
  exact (Token.quoted.inj (List.cons.inj htokens).1).2.symm

/-- The content of the quotation that a reader is in is shorter than what it has read of it. -/
theorem length_of_run_quoted {cs w : List Char} {q : Char} {ts more : List Token} {m : Mode}
    {s : List Char} (hm : m = .quoted q s ∨ m = .escape q s)
    (h : Scan.run ⟨m, ts⟩ cs = some ⟨.between, ts ++ .quoted q w :: more⟩) :
    w.length < s.length + cs.length := by
  induction cs generalizing m s with
  | nil =>
    rw [Scan.run_nil] at h
    rcases hm with rfl | rfl <;> cases h
  | cons c cs ih =>
    rw [Scan.run_cons] at h
    rcases hm with rfl | rfl
    · rw [Scan.step, Scan.stepQuoted] at h
      by_cases hq : c = q
      · rw [if_pos hq, Option.bind_some] at h
        rw [word_of_run_between h, List.length_cons]
        omega
      · rw [if_neg hq] at h
        by_cases hb : c = '\\'
        · rw [if_pos hb, Option.bind_some] at h
          have hlt := ih (.inr rfl) h
          rw [List.length_cons]
          omega
        · rw [if_neg hb] at h
          by_cases hn : c = '\n' ∨ c = '\r'
          · rw [if_pos hn] at h
            cases h
          · rw [if_neg hn, Option.bind_some] at h
            have hlt := ih (.inl rfl) h
            rw [List.length_append, List.length_singleton] at hlt
            rw [List.length_cons]
            omega
    · rw [Scan.step] at h
      cases hd : unescape? c with
      | none =>
        rw [hd] at h
        cases h
      | some d =>
        rw [hd] at h
        have hlt := ih (.inl rfl) h
        rw [List.length_append, List.length_singleton] at hlt
        rw [List.length_cons]
        omega

theorem quotable_of_run {s u : List Char} {ts : List Token}
    (h : Scan.run ⟨.quoted '"' u, ts⟩ (s ++ ['"']) = some ⟨.between, ts ++ [.quoted '"' (u ++ s)]⟩) :
    Quotable s := by
  induction s generalizing u with
  | nil => simp [Quotable]
  | cons c s ih =>
    rw [List.cons_append, Scan.run_cons, Scan.step, Scan.stepQuoted] at h
    by_cases hq : c = '"'
    · -- An early end leaves a word that is shorter than the name.
      rw [if_pos hq, Option.bind_some] at h
      have hlength := congrArg List.length (word_of_run_between h)
      rw [List.length_append, List.length_cons] at hlength
      omega
    rw [if_neg hq] at h
    by_cases hb : c = '\\'
    · -- So does a backslash, which is read together with what follows it.
      rw [if_pos hb, Option.bind_some] at h
      have hlt := length_of_run_quoted (.inr rfl) h
      simp only [List.length_append, List.length_cons, List.length_nil] at hlt
      omega
    rw [if_neg hb] at h
    by_cases hn : c = '\n' ∨ c = '\r'
    · rw [if_pos hn] at h
      cases h
    rw [if_neg hn, Option.bind_some, List.append_cons u c s] at h
    obtain ⟨hline, hreturn⟩ := not_or.mp hn
    exact List.forall_mem_cons.mpr ⟨⟨hq, hb, hline, hreturn⟩, ih h⟩

/-- A name between double quotes is read as that name if and only if it can stand there. -/
theorem run_quotedName_iff {s : List Char} {ts : List Token} :
    Scan.run ⟨.between, ts⟩ (quotedName s) = some ⟨.between, ts ++ [.quoted '"' s]⟩ ↔ Quotable s := by
  constructor
  · intro h
    have hstep : Scan.step ⟨.between, ts⟩ '"' = some ⟨.quoted '"' [], ts⟩ := rfl
    rw [quotedName, Scan.run_cons, hstep, Option.bind_some] at h
    exact quotable_of_run h
  · exact fun h => closes_name h ts

/-- The characters that are escaped in a literal, each with what stands for it behind a backslash. -/
def escapes : List (Char × Char) :=
  [('\\', '\\'), ('\'', '\''), ('\n', 'n'), ('\r', 'r'), ('\t', 't')]

def escape (c : Char) : List Char :=
  match escapes.find? fun p => p.1 = c with
  | some p => ['\\', p.2]
  | none => [c]

theorem escape_cases (c : Char) : (∃ d, escape c = ['\\', d] ∧ (c, d) ∈ escapes) ∨
    escape c = [c] ∧ c ∉ ['\\', '\'', '\n', '\r', '\t'] := by
  unfold escape
  split
  · rename_i p hfind
    have hkey : p.1 = c := by simpa using List.find?_some hfind
    exact .inl ⟨p.2, rfl, hkey ▸ List.mem_of_find?_eq_some hfind⟩
  · rename_i hfind
    refine .inr ⟨rfl, fun hc => ?_⟩
    have hkeys : ['\\', '\'', '\n', '\r', '\t'] = escapes.map Prod.fst := rfl
    rw [hkeys] at hc
    obtain ⟨p, hp, rfl⟩ := List.mem_map.mp hc
    simpa using List.find?_eq_none.mp hfind p hp

/-- The replacements one after another escape each character once: no later one meets what an earlier
one has put there. -/
theorem escaped_eq (s : List Char) : Expression.escaped s = s.flatMap escape := by
  unfold Expression.escaped Text.replaceChar
  dsimp only
  rw [List.flatMap_assoc, List.flatMap_assoc, List.flatMap_assoc, List.flatMap_assoc]
  congr 1
  funext c
  rcases escape_cases c with ⟨d, he, hd⟩ | ⟨he, hc⟩
  · rw [he]
    have hall : ∀ p ∈ escapes, (((((if p.1 = '\\' then ['\\', '\\'] else [p.1]).flatMap
        fun e => if e = '\'' then ['\\', '\''] else [e]).flatMap
        fun e => if e = '\n' then ['\\', 'n'] else [e]).flatMap
        fun e => if e = '\r' then ['\\', 'r'] else [e]).flatMap
        fun e => if e = '\t' then ['\\', 't'] else [e]) = ['\\', p.2] := by decide
    simpa only [List.flatMap_assoc] using hall (c, d) hd
  · simp only [List.mem_cons, List.not_mem_nil, or_false, not_or] at hc
    obtain ⟨hslash, hquote, hfeed, hreturn, htab⟩ := hc
    simp [he, hslash, hquote, hfeed, hreturn, htab]

theorem run_escape (c : Char) (u r : List Char) (ts : List Token) :
    Scan.run ⟨.quoted '\'' u, ts⟩ (escape c ++ r) =
      Scan.run ⟨.quoted '\'' (u ++ [c]), ts⟩ r := by
  rcases escape_cases c with ⟨d, he, hd⟩ | ⟨he, hc⟩
  · have hread : ∀ p ∈ escapes, unescape? p.2 = some p.1 := by decide
    have hslash : Scan.step ⟨.quoted '\'' u, ts⟩ '\\' = some ⟨.escape '\'' u, ts⟩ := rfl
    rw [he, List.cons_append, List.singleton_append, Scan.run_cons, hslash, Option.bind_some,
      Scan.run_cons, Scan.step, hread (c, d) hd]
    rfl
  · simp only [List.mem_cons, not_or] at hc
    obtain ⟨hslash, hquote, hfeed, hreturn, -⟩ := hc
    rw [he, List.singleton_append, Scan.run_cons, Scan.step, Scan.stepQuoted, if_neg hquote,
      if_neg hslash, if_neg (by simp [hfeed, hreturn]), Option.bind_some]

def quotedText (s : List Char) : List Char := '\'' :: (s.flatMap escape ++ ['\''])

theorem run_text (s u : List Char) (ts : List Token) :
    Scan.run ⟨.quoted '\'' u, ts⟩ (s.flatMap escape ++ ['\'']) =
      some ⟨.between, ts ++ [.quoted '\'' (u ++ s)]⟩ := by
  induction s generalizing u with
  | nil => simp [Scan.run_cons, Scan.run_nil, Scan.step, Scan.stepQuoted]
  | cons c s ih =>
    rw [List.flatMap_cons, List.append_assoc, run_escape, ih]
    simp

theorem closes_text (s : List Char) : Closes (quotedText s) [.quoted '\'' s] := by
  intro before
  have hstep : Scan.step ⟨.between, before⟩ '\'' = some ⟨.quoted '\'' [], before⟩ := rfl
  rw [quotedText, Scan.run_cons, hstep, Option.bind_some, run_text s [] before]
  rfl

/-- Two neighbours that do not end a comment. -/
def NoEnd (a b : Char) : Prop := ¬(a = '*' ∧ b = '/')

abbrev Endless (s : List Char) : Prop := s.IsChain NoEnd

theorem NoEnd.of_left {a b : Char} (h : a ≠ '*') : NoEnd a b := fun hab => h hab.1

theorem NoEnd.of_right {a b : Char} (h : b ≠ '/') : NoEnd a b := fun hab => h hab.2

def commentMode (c : Char) : Mode := if c = '*' then .star else .comment

theorem run_comment (s : List Char) (c : Char) (ts : List Token) (h : Endless (c :: s)) :
    Scan.run ⟨commentMode c, ts⟩ s = some ⟨commentMode ((c :: s).getLast (by simp)), ts⟩ := by
  induction s generalizing c with
  | nil => rfl
  | cons d s ih =>
    obtain ⟨hcd, hs⟩ := List.isChain_cons_cons.mp h
    have hstep : Scan.step ⟨commentMode c, ts⟩ d = some ⟨commentMode d, ts⟩ := by
      by_cases hc : c = '*'
      · have hd : d ≠ '/' := fun hd => hcd ⟨hc, hd⟩
        simp [commentMode, hc, hd, Scan.step]
      · simp [commentMode, hc, Scan.step]
    rw [Scan.run_cons, hstep, Option.bind_some, ih d hs]
    rfl

theorem closes_comment_of_endless (body : List Char) (h : Endless (body ++ [' '])) :
    Closes ("/*".toList ++ (body ++ " */\n".toList)) [] := by
  intro before
  have hopen : Scan.run ⟨.between, before⟩ "/*".toList = some ⟨commentMode ' ', before⟩ := rfl
  have hb : Endless (' ' :: (body ++ [' '])) :=
    List.isChain_cons.mpr ⟨fun c _ => NoEnd.of_left (by decide), h⟩
  have hbody := run_comment (body ++ [' ']) ' ' before hb
  rw [List.getLast_cons (by simp), List.getLast_append_singleton] at hbody
  have hend : Scan.run ⟨commentMode ' ', before⟩ "*/\n".toList = some ⟨.between, before⟩ := rfl
  rw [show body ++ " */\n".toList = (body ++ [' ']) ++ "*/\n".toList by simp, Scan.run_append, hopen,
    Option.bind_some, Scan.run_append, hbody, Option.bind_some, hend, List.append_nil]

theorem endless_broken (s : List Char) : Endless (Text.replacePair '*' '/' ['*', '\\', '/'] s) ∧
    (Text.replacePair '*' '/' ['*', '\\', '/'] s).head? = s.head? := by
  fun_induction Text.replacePair '*' '/' ['*', '\\', '/'] s with
  | case1 => exact ⟨List.isChain_nil, rfl⟩
  | case2 c => exact ⟨List.isChain_singleton c, rfl⟩
  | case3 c d r h ih =>
    obtain ⟨rfl, rfl⟩ := h
    have hslash : ∀ y ∈ (Text.replacePair '*' '/' ['*', '\\', '/'] r).head?, NoEnd '/' y :=
      fun y _ => NoEnd.of_left (by decide)
    refine ⟨?_, rfl⟩
    exact List.isChain_cons_cons.mpr ⟨NoEnd.of_right (by decide),
      List.isChain_cons_cons.mpr ⟨NoEnd.of_left (by decide), List.isChain_cons.mpr ⟨hslash, ih.1⟩⟩⟩
  | case4 c d r h ih =>
    refine ⟨List.isChain_cons.mpr ⟨fun y hy => ?_, ih.1⟩, rfl⟩
    rw [ih.2] at hy
    cases hy
    exact h

theorem endless_unified {s : List Char} (h : Endless s) :
    Endless (Text.replacePair '\r' '\n' ['\n'] s) ∧
      ∀ c ∈ (Text.replacePair '\r' '\n' ['\n'] s).head?, c = '\n' ∨ s.head? = some c := by
  fun_induction Text.replacePair '\r' '\n' ['\n'] s with
  | case1 => exact ⟨h, by simp⟩
  | case2 c => exact ⟨h, by simp⟩
  | case3 c d r hcd ih =>
    have hr : Endless r := (List.isChain_cons_cons.mp h).2.tail
    refine ⟨List.isChain_cons.mpr ⟨fun y _ => NoEnd.of_left (by decide), (ih hr).1⟩, ?_⟩
    simp
  | case4 c d r hcd ih =>
    obtain ⟨hne, hr⟩ := List.isChain_cons_cons.mp h
    refine ⟨List.isChain_cons.mpr ⟨fun y hy => ?_, (ih hr).1⟩, by simp⟩
    rcases (ih hr).2 y hy with rfl | hy
    · exact NoEnd.of_right (by decide)
    · cases hy
      exact hne

theorem stripRight_starts (s : List Char) : Text.stripRight s <+: s := by
  unfold Text.stripRight
  exact List.reverse_suffix.mp (by simpa using List.dropWhile_suffix _)

theorem endless_decorate {line : List Char} (h : Endless line) :
    Endless (DocComment.decorate line ++ ['\n']) := by
  have hfull : Endless (' ' :: '*' :: ' ' :: line) :=
    List.isChain_cons_cons.mpr ⟨NoEnd.of_left (by decide),
      List.isChain_cons_cons.mpr ⟨NoEnd.of_right (by decide),
        List.isChain_cons.mpr ⟨fun y _ => NoEnd.of_left (by decide), h⟩⟩⟩
  have hline : Endless (DocComment.decorate line) :=
    List.IsChain.infix hfull (stripRight_starts _).isInfix
  exact List.isChain_append.mpr ⟨hline, List.isChain_singleton _,
    fun x _ y hy => NoEnd.of_right (by simp at hy; subst hy; decide)⟩

theorem endless_append_of_last {a b : List Char} (ha : Endless (a ++ ['\n'])) (hb : Endless b) :
    Endless (a ++ ['\n'] ++ b) :=
  List.isChain_append.mpr ⟨ha, hb, fun x hx y _ => NoEnd.of_left (by simp at hx; subst hx; decide)⟩

theorem endless_decorated {ls : List (List Char)} (h : ∀ l ∈ ls, Endless l) :
    Endless (ls.flatMap (fun l => DocComment.decorate l ++ ['\n']) ++ [' ']) := by
  induction ls with
  | nil => exact List.isChain_singleton _
  | cons l ls ih =>
    rw [List.flatMap_cons, List.append_assoc]
    exact endless_append_of_last (endless_decorate (h l (by simp)))
      (ih fun m hm => h m (by simp [hm]))

/-- What stands between the two ends of a comment ends no comment: a second star, a blank or a line
break, and the text. -/
theorem endless_comment (s : List Char) : ∃ c inner,
    DocComment.renderChars s = "/*".toList ++ ('*' :: c :: inner ++ " */\n".toList) ∧
      (c = ' ' ∨ c = '\n') ∧ Endless ('*' :: c :: inner ++ [' ']) := by
  have hbody : Endless (DocComment.body s) := (endless_broken _).1
  unfold DocComment.renderChars
  dsimp only
  split
  · have hlines : ∀ l ∈ DocComment.lines (DocComment.body s), Endless l := fun l hl =>
      List.IsChain.infix (endless_unified hbody).1 ((Text.split_pieces _ _).2 l hl)
    refine ⟨'\n', _, rfl, .inr rfl, ?_⟩
    exact List.isChain_cons_cons.mpr ⟨NoEnd.of_right (by decide),
      List.isChain_cons.mpr ⟨fun y _ => NoEnd.of_left (by decide), endless_decorated hlines⟩⟩
  · refine ⟨' ', _, rfl, .inl rfl, ?_⟩
    exact List.isChain_cons_cons.mpr ⟨NoEnd.of_right (by decide), List.isChain_cons.mpr
      ⟨fun y _ => NoEnd.of_left (by decide), List.isChain_append.mpr ⟨hbody,
        List.isChain_singleton _, fun x _ y hy => NoEnd.of_right (by simp at hy; subst hy; decide)⟩⟩⟩

theorem closes_comment (s : List Char) : Closes (DocComment.renderChars s) [] := by
  obtain ⟨c, inner, hcomment, -, hendless⟩ := endless_comment s
  rw [hcomment]
  exact closes_comment_of_endless _ hendless

end ApiTypes.TypeText
