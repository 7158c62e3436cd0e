import ApiTypes.Text.Blank

/-!
# The words of a program text

Declarations are read as a compiler reads them: blanks and block comments part
the words, a quoted text runs to the next quote of its kind that no backslash
escapes, and a line may not break inside of one. A text that ends inside a
quotation or a comment, or that holds a character with no place in declarations,
has no words.
-/

set_option autoImplicit false

namespace ApiTypes.TypeText

inductive Token where
  | word (w : List Char)
  | quoted (quote : Char) (s : List Char)
  | mark (c : Char)
  deriving DecidableEq, Repr

def isWordChar (c : Char) : Bool :=
  c.isAlphanum || ['_', '$', '.', '+', '-'].contains c || (128 ≤ c.toNat && !Text.isBlank c)

/-- A text that runs through as one word. -/
def Wordlike (cs : List Char) : Prop := ∀ c ∈ cs, isWordChar c = true

instance (cs : List Char) : Decidable (Wordlike cs) := List.decidableBAll _ cs

def isMark (c : Char) : Bool :=
  ['(', ')', '[', ']', '\x7b', '\x7d', '<', '>', '|', '&', ';', ':', ',', '?', '='].contains c

def isGap (c : Char) : Bool := [' ', '\n', '\r', '\t'].contains c

def unescape? : Char → Option Char
  | '\\' => some '\\'
  | '\'' => some '\''
  | '"' => some '"'
  | 'n' => some '\n'
  | 'r' => some '\r'
  | 't' => some '\t'
  | _ => none

/-- Where in a text the reader is. -/
inductive Mode where
  | between
  | word (w : List Char)
  | quoted (quote : Char) (s : List Char)
  | escape (quote : Char) (s : List Char)
  | slash
  | comment
  | star
  deriving DecidableEq, Repr

structure Scan where
  mode : Mode
  tokens : List Token
  deriving DecidableEq, Repr

namespace Scan

def start : Scan := ⟨.between, []⟩

def settle : Scan → Scan
  | ⟨.word w, ts⟩ => ⟨.between, ts ++ [.word w]⟩
  | s => s

def stepBetween (ts : List Token) (c : Char) : Option Scan :=
  if isWordChar c then some ⟨.word [c], ts⟩
  else if isMark c then some ⟨.between, ts ++ [.mark c]⟩
  else if isGap c then some ⟨.between, ts⟩
  else if c = '"' ∨ c = '\'' then some ⟨.quoted c [], ts⟩
  else if c = '/' then some ⟨.slash, ts⟩
  else none

def stepQuoted (q : Char) (s : List Char) (ts : List Token) (c : Char) : Option Scan :=
  if c = q then some ⟨.between, ts ++ [.quoted q s]⟩
  else if c = '\\' then some ⟨.escape q s, ts⟩
  else if c = '\n' ∨ c = '\r' then none
  else some ⟨.quoted q (s ++ [c]), ts⟩

def step : Scan → Char → Option Scan
  | ⟨.between, ts⟩, c => stepBetween ts c
  | ⟨.word w, ts⟩, c =>
    if isWordChar c then some ⟨.word (w ++ [c]), ts⟩ else stepBetween (ts ++ [.word w]) c
  | ⟨.quoted q s, ts⟩, c => stepQuoted q s ts c
  | ⟨.escape q s, ts⟩, c => (unescape? c).map fun d => ⟨.quoted q (s ++ [d]), ts⟩
  | ⟨.slash, ts⟩, c => if c = '*' then some ⟨.comment, ts⟩ else none
  | ⟨.comment, ts⟩, c => some ⟨if c = '*' then .star else .comment, ts⟩
  | ⟨.star, ts⟩, c =>
    if c = '/' then some ⟨.between, ts⟩
    else some ⟨if c = '*' then .star else .comment, ts⟩

def run (s : Scan) (cs : List Char) : Option Scan := cs.foldlM step s

def words? (s : Scan) : Option (List Token) :=
  match s.settle with
  | ⟨.between, ts⟩ => some ts
  | _ => none

theorem run_nil (s : Scan) : s.run [] = some s := rfl

theorem run_cons (s : Scan) (c : Char) (cs : List Char) :
    s.run (c :: cs) = (s.step c).bind fun t => t.run cs := rfl

theorem run_append (s : Scan) (a b : List Char) :
    s.run (a ++ b) = (s.run a).bind fun t => t.run b := by
  simp only [run, List.foldlM_append]
  rfl

theorem step_settle {m : Mode} {ts : List Token} {c : Char} (hc : isWordChar c = false)
    (hm : (settle ⟨m, ts⟩).mode = .between) : step ⟨m, ts⟩ c = step (settle ⟨m, ts⟩) c := by
  cases m <;> simp_all [settle, step]

end Scan

def words? (cs : List Char) : Option (List Token) := (Scan.start.run cs).bind Scan.words?

/-- A text that is read as these words wherever no word is being read in front of it. Its last
word may still be open. -/
def Spells (cs : List Char) (ts : List Token) : Prop :=
  ∀ before : List Token, ∃ s, Scan.run ⟨.between, before⟩ cs = some s ∧
    s.settle = ⟨.between, before ++ ts⟩

/-- A text that is read as these words, of which none is open at its end. -/
def Closes (cs : List Char) (ts : List Token) : Prop :=
  ∀ before : List Token, Scan.run ⟨.between, before⟩ cs = some ⟨.between, before ++ ts⟩

/-- Nothing in front of this text can run into its first word. -/
def StartsApart (cs : List Char) : Prop := ∀ c ∈ cs.head?, isWordChar c = false

theorem Closes.spells {cs : List Char} {ts : List Token} (h : Closes cs ts) : Spells cs ts :=
  fun before => ⟨_, h before, rfl⟩

theorem Spells.words {cs : List Char} {ts : List Token} (h : Spells cs ts) : words? cs = some ts := by
  obtain ⟨s, hr, hs⟩ := h []
  simp only [words?, Scan.start, hr, Option.bind_some, Scan.words?, hs, List.nil_append]

theorem Scan.step_before (m : Mode) (before ts : List Token) (c : Char) :
    Scan.step ⟨m, before ++ ts⟩ c = (Scan.step ⟨m, ts⟩ c).map fun s => ⟨s.mode, before ++ s.tokens⟩ := by
  cases m with
  | escape q s => simp [step, Option.map_map, Function.comp_def]
  | _ =>
    simp only [step, stepBetween, stepQuoted]
    repeat' split
    all_goals simp

theorem Scan.run_before (m : Mode) (before ts : List Token) (cs : List Char) :
    Scan.run ⟨m, before ++ ts⟩ cs = (Scan.run ⟨m, ts⟩ cs).map fun s => ⟨s.mode, before ++ s.tokens⟩ := by
  induction cs generalizing m ts with
  | nil => rfl
  | cons c cs ih =>
    rw [run_cons, run_cons, step_before]
    cases step ⟨m, ts⟩ c with
    | none => rfl
    | some s => exact ih s.mode s.tokens

theorem closes_of_run {cs : List Char} {ts : List Token}
    (h : Scan.start.run cs = some ⟨.between, ts⟩) : Closes cs ts := by
  intro before
  have hb := Scan.run_before .between before [] cs
  rw [List.append_nil] at hb
  rw [hb]
  exact congrArg (Option.map _) h

theorem closes_nil : Closes [] [] := fun before => by simp [Scan.run_nil]

theorem Closes.append {a b : List Char} {xs ys : List Token} (ha : Closes a xs) (hb : Closes b ys) :
    Closes (a ++ b) (xs ++ ys) := by
  intro before
  rw [Scan.run_append, ha before, Option.bind_some, hb, List.append_assoc]

theorem Closes.spells_append {a b : List Char} {xs ys : List Token} (ha : Closes a xs)
    (hb : Spells b ys) : Spells (a ++ b) (xs ++ ys) := by
  intro before
  rw [Scan.run_append, ha before, Option.bind_some, ← List.append_assoc]
  exact hb _

/-- What follows a text with an open last word ends that word before it is read itself. -/
theorem run_settle {b : List Char} {s : Scan} {ts : List Token} (hb : StartsApart b)
    (hne : b ≠ []) (hs : s.settle = ⟨.between, ts⟩) : s.run b = Scan.run ⟨.between, ts⟩ b := by
  obtain ⟨c, r, rfl⟩ := List.exists_cons_of_ne_nil hne
  have hc : isWordChar c = false := hb c rfl
  have hm : s.settle.mode = .between := by rw [hs]
  rw [Scan.run_cons, Scan.run_cons, Scan.step_settle hc hm, hs]

theorem Spells.closes_append {a b : List Char} {xs ys : List Token} (ha : Spells a xs)
    (hb : Closes b ys) (hne : b ≠ []) (hs : StartsApart b) : Closes (a ++ b) (xs ++ ys) := by
  intro before
  obtain ⟨s, hr, hset⟩ := ha before
  rw [Scan.run_append, hr, Option.bind_some, run_settle hs hne hset, hb, List.append_assoc]

theorem spells_word {w : List Char} (hw : Wordlike w) (hne : w ≠ []) :
    Spells w [.word w] := by
  have grow : ∀ (w u : List Char) (ts : List Token), (∀ c ∈ w, isWordChar c = true) →
      Scan.run ⟨.word u, ts⟩ w = some ⟨.word (u ++ w), ts⟩ := by
    intro w
    induction w with
    | nil => intro u ts _; simp [Scan.run_nil]
    | cons c w ih =>
      intro u ts h
      have hc : isWordChar c = true := h c (by simp)
      rw [Scan.run_cons, Scan.step, if_pos hc, Option.bind_some, ih _ _ (fun d hd => h d (by simp [hd]))]
      simp
  obtain ⟨c, r, rfl⟩ := List.exists_cons_of_ne_nil hne
  intro before
  have hc : isWordChar c = true := hw c (by simp)
  refine ⟨⟨.word (c :: r), before⟩, ?_, rfl⟩
  rw [Scan.run_cons, Scan.step, Scan.stepBetween, if_pos hc, Option.bind_some,
    grow r [c] before (fun d hd => hw d (by simp [hd]))]
  rfl

end ApiTypes.TypeText
