import ApiTypes.Proofs.Type.Quotation

/-!
# A comment holds its text

A comment ends where it was meant to end, whatever its text is. Without the
decoration there is the text again: all of it on one line, or line by line
without the blanks at the ends of the lines.
-/

set_option autoImplicit false

namespace ApiTypes.DocComment

open TypeText

/-- The lines of a text. A line feed ends a line, and so does a carriage return with a line feed
behind it. -/
def breakLines : List Char → List (List Char)
  | [] => [[]]
  | '\r' :: '\n' :: rest => [] :: breakLines rest
  | '\n' :: rest => [] :: breakLines rest
  | c :: rest =>
    match breakLines rest with
    | [] => [[c]]
    | line :: others => (c :: line) :: others

/-- A line of a comment: a star, and the text behind it if there is any. -/
def starred (text : List Char) : List Char :=
  if text = [] then [' ', '*'] else ' ' :: '*' :: ' ' :: text

def unstarred? : List Char → Option (List Char)
  | [' ', '*'] => some []
  | ' ' :: '*' :: ' ' :: text => some text
  | _ => none

/-- The text that a comment holds, line by line: on the line of the two ends if there is only one,
and between them otherwise. -/
def read? : List Char → Option (List (List Char))
  | '/' :: '*' :: '*' :: ' ' :: rest =>
    (Text.dropEnd? " */\n".toList rest).map fun text => [text]
  | '/' :: '*' :: '*' :: '\n' :: rest => do
    let rows ← Text.dropEnd? "\n */\n".toList rest
    (Text.split '\n' rows).mapM unstarred?
  | _ => none

theorem replacePair_first {c : Char} {rest : List Char}
    (h : ∀ r, c = '\r' → rest = '\n' :: r → False) :
    Text.replacePair '\r' '\n' ['\n'] (c :: rest) =
      c :: Text.replacePair '\r' '\n' ['\n'] rest := by
  cases rest with
  | nil => rfl
  | cons d r =>
    rw [Text.replacePair, if_neg]
    rintro ⟨rfl, rfl⟩
    exact h r rfl rfl

theorem lines_eq (s : List Char) : lines s = breakLines s := by
  unfold lines
  fun_induction breakLines s with
  | case1 => rfl
  | case2 rest ih =>
    rw [Text.replacePair, if_pos ⟨rfl, rfl⟩, List.singleton_append, Text.split, if_pos rfl, ih]
  | case3 rest ih =>
    rw [Text.replacePair_cons (by decide), Text.split, if_pos rfl, ih]
  | case4 c rest hpair hfeed hnone ih =>
    rw [replacePair_first hpair, Text.split, if_neg hfeed, ih, hnone]
  | case5 c rest hpair hfeed line others hlines ih =>
    rw [replacePair_first hpair, Text.split, if_neg hfeed, ih, hlines]

/-- The blanks behind the text of a line go, and so does the one behind a bare star. -/
theorem decorate_eq (line : List Char) : decorate line = starred (Text.stripRight line) := by
  have hblank : Text.isBlank ' ' = true := by decide
  have hstar : Text.isBlank '*' = false := by decide
  have hreverse : (' ' :: '*' :: ' ' :: line).reverse = line.reverse ++ [' ', '*', ' '] := by simp
  unfold decorate starred Text.stripRight
  rw [hreverse, List.dropWhile_append]
  by_cases hline : line.reverse.dropWhile Text.isBlank = []
  · simp [hline, hblank, hstar]
  · simp [hline]

theorem unstarred?_starred (text : List Char) : unstarred? (starred text) = some text := by
  unfold starred
  split
  · rename_i h
    rw [h]
    rfl
  · rfl

theorem dropEnd?_append (s ending : List Char) : Text.dropEnd? ending (s ++ ending) = some s := by
  rw [Text.dropEnd?, if_pos (List.isSuffixOf_iff_suffix.mpr (List.suffix_append s ending))]
  simp

theorem not_infix_of_endless {s : List Char} (h : Endless s) : ¬['*', '/'] <:+: s := by
  intro hin
  have hpair : Endless ['*', '/'] := List.IsChain.infix h hin
  exact (List.isChain_cons_cons.mp hpair).1 ⟨rfl, rfl⟩

/-- A comment end in front of a line feed is the only one behind an endless text. -/
theorem last_end {s before behind : List Char} (h : Endless (s ++ [' ']))
    (hs : s ++ " */\n".toList = before ++ '*' :: '/' :: behind) : behind = ['\n'] := by
  have hsplit : s ++ " */\n".toList = s ++ [' '] ++ '*' :: '/' :: ['\n'] := by simp
  rw [hsplit] at hs
  rcases List.append_eq_append_iff.mp hs with ⟨between, -, hend⟩ | ⟨between, hfront, hend⟩
  · match between, hend with
    | [], hend => simpa using hend.symm
    | [c], hend => simp at hend
    | [c, d], hend => simp at hend
    | c :: d :: e :: more, hend => simp at hend
  · match between, hend with
    | [], hend => simpa using hend
    | [c], hend => simp at hend
    | c :: d :: more, hend =>
      simp only [List.cons_append, List.cons.injEq] at hend
      obtain ⟨rfl, rfl, -⟩ := hend
      exact (not_infix_of_endless h ⟨before, more, by simpa using hfront.symm⟩).elim

theorem breakLines_feed (s : List Char) : ∀ line ∈ breakLines s, '\n' ∉ line := by
  fun_induction breakLines s with
  | case1 => simp
  | case2 rest ih => simpa using ih
  | case3 rest ih => simpa using ih
  | case4 c rest hpair hfeed hnone ih =>
    have hc : '\n' ≠ c := fun h => hfeed h.symm
    simpa using hc
  | case5 c rest hpair hfeed line others hlines ih =>
    have hc : '\n' ≠ c := fun h => hfeed h.symm
    rw [hlines] at ih
    obtain ⟨hline, hothers⟩ := List.forall_mem_cons.mp ih
    refine List.forall_mem_cons.mpr ⟨fun hmem => ?_, hothers⟩
    exact (List.mem_cons.mp hmem).elim hc hline

theorem breakLines_ne_nil (s : List Char) : breakLines s ≠ [] := by
  rw [← lines_eq]
  exact Text.split_ne_nil _ _

theorem feed_starred {text : List Char} (h : '\n' ∉ text) : '\n' ∉ starred text := by
  unfold starred
  split
  · decide
  · simpa using h

/-- Lines that are each ended by a line feed are the pieces in front of the last one. -/
theorem split_rows {rows : List (List Char)} (hne : rows ≠ []) (h : ∀ row ∈ rows, '\n' ∉ row) :
    ∃ text, rows.flatMap (· ++ ['\n']) = text ++ ['\n'] ∧ Text.split '\n' text = rows := by
  induction rows with
  | nil => exact (hne rfl).elim
  | cons row rows ih =>
    obtain ⟨hrow, hrows⟩ := List.forall_mem_cons.mp h
    cases rows with
    | nil => exact ⟨row, by simp, Text.split_of_not_mem hrow⟩
    | cons next more =>
      obtain ⟨text, htext, hsplit⟩ := ih (by simp) hrows
      refine ⟨row ++ '\n' :: text, ?_, ?_⟩
      · rw [List.flatMap_cons, htext]
        simp
      · rw [Text.split_append hrow, hsplit]

def rows (s : List Char) : List (List Char) :=
  (breakLines s).map fun line => starred (Text.stripRight line)

theorem renderChars_eq (t : List Char) : renderChars t =
    if '\n' ∈ body t then "/**\n".toList ++ (rows (body t)).flatMap (· ++ ['\n']) ++ " */\n".toList
    else "/** ".toList ++ body t ++ " */\n".toList := by
  unfold renderChars rows
  simp only [lines_eq, decorate_eq, List.flatMap_map, List.contains_iff_mem]

theorem mapM_unstarred? (texts : List (List Char)) :
    (texts.map starred).mapM unstarred? = some texts := by
  induction texts with
  | nil => rfl
  | cons text texts ih =>
    rw [List.map_cons, List.mapM_cons, unstarred?_starred, ih]
    rfl

theorem read?_line (s : List Char) :
    read? ("/** ".toList ++ s ++ " */\n".toList) = some [s] := by
  have hcomment : "/** ".toList ++ s ++ " */\n".toList =
      '/' :: '*' :: '*' :: ' ' :: (s ++ " */\n".toList) := rfl
  rw [hcomment, read?, dropEnd?_append, Option.map_some]

theorem read?_rows (s : List Char) :
    read? ("/**\n".toList ++ (rows s).flatMap (· ++ ['\n']) ++ " */\n".toList) =
      some ((breakLines s).map Text.stripRight) := by
  have hne : rows s ≠ [] := by simpa [rows] using breakLines_ne_nil s
  have hfeed : ∀ row ∈ rows s, '\n' ∉ row := by
    intro row hrow
    obtain ⟨line, hline, rfl⟩ := List.mem_map.mp hrow
    exact feed_starred fun h => breakLines_feed s line hline ((stripRight_starts line).subset h)
  obtain ⟨text, htext, hsplit⟩ := split_rows hne hfeed
  have hcomment : "/**\n".toList ++ (text ++ ['\n']) ++ " */\n".toList =
      '/' :: '*' :: '*' :: '\n' :: (text ++ "\n */\n".toList) := by simp
  have hrows : rows s = ((breakLines s).map Text.stripRight).map starred := by
    rw [rows, List.map_map]
    rfl
  rw [htext, hcomment, read?, dropEnd?_append]
  change (Text.split '\n' text).mapM unstarred? = _
  rw [hsplit, hrows, mapM_unstarred?]

/-- A comment with the given text in it, and with nothing but its decoration around that. -/
structure IsCommentOf (comment s : List Char) : Prop where
  begins : ∃ rest, comment = "/** ".toList ++ rest ∨ comment = "/**\n".toList ++ rest
  ends : "*/\n".toList <:+ comment
  /-- No other comment end stands in it. -/
  endless : ∀ before behind, comment = before ++ '*' :: '/' :: behind → behind = ['\n']
  /-- Whoever looks for the first comment end behind the beginning has passed the whole comment. -/
  closed : ∃ inside, Text.cutPair '*' '/' (comment.drop 2) = (inside, some ['\n'])
  layout : comment = if '\n' ∈ s then
      "/**\n".toList ++ (rows s).flatMap (· ++ ['\n']) ++ " */\n".toList
    else "/** ".toList ++ s ++ " */\n".toList
  read : read? comment =
    some (if '\n' ∈ s then (breakLines s).map Text.stripRight else [s])

/-- A comment holds the text it is made of, stripped and with its comment ends broken up. It ends
where it should and nowhere before, and gives the text back line by line. -/
theorem render_holds_text (t : String) : IsCommentOf (render t).toList
    (Text.replacePair '*' '/' ['*', '\\', '/'] (Text.strip t.toList)) := by
  have hrender : (render t).toList = renderChars t.toList := String.toList_ofList
  have hlayout := renderChars_eq t.toList
  obtain ⟨c, inner, hcomment, hc, hendless⟩ := endless_comment t.toList
  rw [hrender]
  change IsCommentOf _ (body t.toList)
  constructor
  case begins =>
    refine ⟨inner ++ " */\n".toList, ?_⟩
    rw [hcomment]
    rcases hc with rfl | rfl
    · exact .inl rfl
    · exact .inr rfl
  case ends => exact ⟨"/*".toList ++ ('*' :: c :: inner ++ [' ']), by rw [hcomment]; simp⟩
  case endless =>
    intro before behind hsplit
    have hwhole : Endless ('/' :: '*' :: '*' :: c :: inner ++ [' ']) :=
      List.isChain_cons_cons.mpr ⟨NoEnd.of_left (by decide),
        List.isChain_cons_cons.mpr ⟨NoEnd.of_right (by decide), hendless⟩⟩
    exact last_end hwhole (hcomment.symm.trans hsplit)
  case closed =>
    have hdrop : (renderChars t.toList).drop 2 =
        ('*' :: c :: inner ++ [' ']) ++ '*' :: '/' :: ['\n'] := by
      rw [hcomment]
      simp
    rw [hdrop]
    exact ⟨_, Text.cutPair_at (by decide) (not_infix_of_endless hendless) _⟩
  case layout => exact hlayout
  case read =>
    rw [hlayout]
    split
    · exact read?_rows _
    · exact read?_line _

example : render " one\t\r\n\r\n/two*/ " = "/**\n * one\n *\n * /two*\\/\n */\n" := by decide

end ApiTypes.DocComment
