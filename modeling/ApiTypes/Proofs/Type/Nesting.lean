import ApiTypes.Compose.Types
import ApiTypes.Proofs.Type.Quotation

/-!
# Brackets are nested

Of the words of a program text the brackets are kept, and each one that closes has to
close the last one that is open. A piece of text takes the brackets that are waited
for from one stack to another, whatever lies below; pieces are put together where the
one leaves what the other starts from.
-/

set_option autoImplicit false

namespace ApiTypes.TypeText

def closer? : Char → Option Char
  | '(' => some ')'
  | '[' => some ']'
  | '\x7b' => some '\x7d'
  | '<' => some '>'
  | _ => none

def isCloser (c : Char) : Bool := [')', ']', '\x7d', '>'].contains c

def nestStep (awaited : List Char) : Token → Option (List Char)
  | .mark c =>
    match closer? c with
    | some d => some (d :: awaited)
    | none =>
      if isCloser c then
        match awaited with
        | d :: rest => if d = c then some rest else none
        | [] => none
      else some awaited
  | _ => some awaited

def nest (awaited : List Char) (ts : List Token) : Option (List Char) := ts.foldlM nestStep awaited

/-- Every bracket is closed by its own, and none is closed that is not open. -/
def Nested (ts : List Token) : Prop := nest [] ts = some []

theorem nest_cons (awaited : List Char) (t : Token) (ts : List Token) :
    nest awaited (t :: ts) = (nestStep awaited t).bind fun a => nest a ts := rfl

theorem nest_append (awaited : List Char) (xs ys : List Token) :
    nest awaited (xs ++ ys) = (nest awaited xs).bind fun a => nest a ys := by
  simp only [nest, List.foldlM_append]
  rfl

theorem nestStep_below {a b : List Char} {t : Token} (h : nestStep a t = some b) (below : List Char) :
    nestStep (a ++ below) t = some (b ++ below) := by
  cases t with
  | mark c =>
    unfold nestStep at h ⊢
    dsimp only at h ⊢
    cases hc : closer? c with
    | some d =>
      rw [hc] at h
      cases h
      rfl
    | none =>
      rw [hc] at h
      dsimp only at h ⊢
      split at h
      · rename_i hcloser
        rw [if_pos hcloser]
        cases a with
        | nil => cases h
        | cons d rest =>
          dsimp only [List.cons_append] at h ⊢
          split at h
          · rename_i hd
            cases h
            rw [if_pos hd]
          · cases h
      · rename_i hcloser
        cases h
        rw [if_neg hcloser]
  | word w =>
    cases h
    rfl
  | quoted q s =>
    cases h
    rfl

theorem nest_below {a b : List Char} {ts : List Token} (h : nest a ts = some b) (below : List Char) :
    nest (a ++ below) ts = some (b ++ below) := by
  induction ts generalizing a with
  | nil =>
    cases h
    rfl
  | cons t ts ih =>
    rw [nest_cons] at h ⊢
    obtain ⟨c, hc, h⟩ := Option.bind_eq_some_iff.mp h
    rw [nestStep_below hc, Option.bind_some]
    exact ih h

/-- A text that takes the brackets waited for from one stack to another. Its last word may be open. -/
def Spans (a b : List Char) (text : String) : Prop :=
  ∃ ts, Spells text.toList ts ∧ nest a ts = some b

/-- A text that takes the brackets waited for from one stack to another, with no word open. -/
def Moves (a b : List Char) (text : String) : Prop :=
  ∃ ts, Closes text.toList ts ∧ nest a ts = some b

/-- A text all of whose brackets are its own. -/
abbrev Level (text : String) : Prop := Spans [] [] text

abbrev Flat (text : String) : Prop := Moves [] [] text

def endsWord (text : String) : Bool :=
  match text.toList with
  | c :: _ => !isWordChar c
  | [] => false

def moved? (a : List Char) (text : String) : Option (List Char) :=
  match Scan.start.run text.toList with
  | some ⟨.between, ts⟩ => nest a ts
  | _ => none

variable {a b c : List Char} {s t u : String}

theorem moves_of_moved (h : moved? a s = some b) : Moves a b s := by
  unfold moved? at h
  split at h
  · rename_i ts hrun
    exact ⟨ts, closes_of_run hrun, h⟩
  · cases h

theorem Moves.below (h : Moves a b s) (below : List Char) : Moves (a ++ below) (b ++ below) s := by
  obtain ⟨ts, hs, hn⟩ := h
  exact ⟨ts, hs, nest_below hn below⟩

theorem Spans.below (h : Spans a b s) (below : List Char) : Spans (a ++ below) (b ++ below) s := by
  obtain ⟨ts, hs, hn⟩ := h
  exact ⟨ts, hs, nest_below hn below⟩

theorem Moves.spans (h : Moves a b s) : Spans a b s := by
  obtain ⟨ts, hs, hn⟩ := h
  exact ⟨ts, hs.spells, hn⟩

theorem Moves.append (h : Moves a b s) (h' : Moves b c t) : Moves a c (s ++ t) := by
  obtain ⟨xs, hs, hn⟩ := h
  obtain ⟨ys, ht, hm⟩ := h'
  refine ⟨xs ++ ys, ?_, ?_⟩
  · rw [String.toList_append]
    exact hs.append ht
  · rw [nest_append, hn]
    exact hm

theorem Moves.append_spans (h : Moves a b s) (h' : Spans b c t) : Spans a c (s ++ t) := by
  obtain ⟨xs, hs, hn⟩ := h
  obtain ⟨ys, ht, hm⟩ := h'
  refine ⟨xs ++ ys, ?_, ?_⟩
  · rw [String.toList_append]
    exact hs.spells_append ht
  · rw [nest_append, hn]
    exact hm

theorem Spans.append_moves (h : Spans a b s) (h' : Moves b c t) (hp : endsWord t = true) :
    Moves a c (s ++ t) := by
  obtain ⟨xs, hs, hn⟩ := h
  obtain ⟨ys, ht, hm⟩ := h'
  have hstart : t.toList ≠ [] ∧ StartsApart t.toList := by
    unfold endsWord at hp
    split at hp
    · rename_i c rest hc
      rw [hc]
      exact ⟨by simp, fun d hd => by cases hd; simpa using hp⟩
    · cases hp
  refine ⟨xs ++ ys, ?_, ?_⟩
  · rw [String.toList_append]
    exact hs.closes_append ht hstart.1 hstart.2
  · rw [nest_append, hn]
    exact hm

theorem Level.between (h : Level t) (hs : Moves a b s) (hu : Moves b c u) (hp : endsWord u = true) :
    Moves a c (s ++ t ++ u) :=
  (hs.append_spans (h.below b)).append_moves hu hp

theorem Flat.between (h : Flat t) (hs : Moves a b s) (hu : Moves b c u) : Moves a c (s ++ t ++ u) :=
  (hs.append (h.below b)).append hu

theorem flat_empty : Flat "" := ⟨[], closes_nil, rfl⟩

theorem flat_join {ts : List String} (h : ∀ t ∈ ts, Flat t) : Flat (String.join ts) := by
  induction ts with
  | nil => exact flat_empty
  | cons t rest ih =>
    rw [String.join_cons]
    exact (h t (by simp)).append (ih fun u hu => h u (by simp [hu]))

theorem spans_join {ts : List String} (h : ∀ t ∈ ts, Level t) (hs : Moves a a s) (hp : endsWord s = true) :
    Spans a a (Text.join s ts) := by
  match ts, h with
  | [], _ => exact (flat_empty.below a).spans
  | [t], h => exact (h t (by simp)).below a
  | t :: u :: rest, h =>
    rw [Text.join]
    have hfirst := ((h t (by simp)).below a).append_moves hs hp
    exact hfirst.append_spans (spans_join (fun v hv => h v (by simp [hv])) hs hp)

theorem level_word {w : String} (hw : Wordlike w.toList) (hne : w.toList ≠ []) : Level w :=
  ⟨_, spells_word hw hne, rfl⟩

theorem flat_name {name : String} (h : Quotable name.toList) : Flat ("\"" ++ name ++ "\"") := by
  have htext : ("\"" ++ name ++ "\"").toList = quotedName name.toList := by
    simp [quotedName]
  unfold Flat Moves
  rw [htext]
  exact ⟨_, closes_name h, rfl⟩

theorem flat_textLiteral (s : String) : Flat (Expression.textLiteral s) := by
  have htext : (Expression.textLiteral s).toList = quotedText s.toList := by
    simp [Expression.textLiteral, quotedText, escaped_eq]
  unfold Flat Moves
  rw [htext]
  exact ⟨_, closes_text s.toList, rfl⟩

end ApiTypes.TypeText
