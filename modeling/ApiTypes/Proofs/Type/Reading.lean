import ApiTypes.Compose.Types
import ApiTypes.Proofs.Type.Quotation
import ApiTypes.Proofs.Type.Tree
import Mathlib.Data.List.Forall2

/-!
# The text of a type is read as the type

One statement for each way to build the text of a type from the texts of its
parts: what the parts are read as decides what the whole is read as. Each part
stands between marks that end it, so nothing in front of it or behind it can take
hold of a piece of it.
-/

set_option autoImplicit false

namespace ApiTypes.TypeText

/-- Words that are read as a type wherever a type can begin. -/
def Parses (ts : List Token) (t : Tree) : Prop :=
  ∀ fs : List Frame, ∃ s, Parse.run ⟨fs, .type .blank⟩ ts = some ⟨fs, .type s⟩ ∧ s.type? = some t

/-- A text that is read as a type wherever a type can begin. -/
def Reads (cs : List Char) (t : Tree) : Prop := ∃ ts, Spells cs ts ∧ Parses ts t

theorem Reads.read {cs : List Char} {t : Tree} (h : Reads cs t) : Tree.read cs = some t := by
  obtain ⟨ts, hs, hp⟩ := h
  obtain ⟨s, hr, ht⟩ := hp []
  simp only [Tree.read, hs.words, hr, Option.bind_eq_bind, Option.bind_some, Parse.type?, ht]

theorem parses_missing : Parses [] .missing := fun _ => ⟨.blank, rfl, rfl⟩

theorem reads_missing : Reads [] .missing := ⟨[], closes_nil.spells, parses_missing⟩

theorem parses_of_operand {ts : List Token} {t : Tree}
    (h : ∀ fs, Parse.run ⟨fs, .type .blank⟩ ts = some ⟨fs, .type (Slot.blank.put t)⟩) : Parses ts t :=
  fun fs => ⟨_, h fs, rfl⟩

theorem reads_word {w : List Char} (hw : Wordlike w) (hne : w ≠ []) :
    Reads w (.name w []) :=
  ⟨_, spells_word hw hne, parses_of_operand fun _ => rfl⟩

theorem reads_text (s : List Char) : Reads (quotedText s) (.literal s) :=
  ⟨_, (closes_text s).spells, parses_of_operand fun _ => rfl⟩

theorem Spells.between {a b cs : List Char} {xs ys ts : List Token} (h : Spells cs ts)
    (ha : Closes a xs) (hb : Closes b ys) (hne : b ≠ []) (hs : StartsApart b) :
    Closes (a ++ cs ++ b) (xs ++ ts ++ ys) := by
  rw [List.append_assoc, List.append_assoc]
  exact ha.append (h.closes_append hb hne hs)

theorem closes_mark {c : Char} (hw : isWordChar c = false) (hm : isMark c = true) :
    Closes [c] [.mark c] := by
  intro before
  rw [Scan.run_cons, Scan.step, Scan.stepBetween, if_neg (by simp [hw]), if_pos hm]
  rfl

theorem run_group {ts : List Token} {t : Tree} (h : Parses ts t) (fs : List Frame) (s : Slot)
    (hs : s.operand = none) :
    Parse.run ⟨fs, .type s⟩ (.mark '(' :: (ts ++ [.mark ')'])) = some ⟨fs, .type (s.put t)⟩ := by
  obtain ⟨u, hr, ht⟩ := h (.group s :: fs)
  have hopen : Parse.step ⟨fs, .type s⟩ (.mark '(') = some ⟨.group s :: fs, .type .blank⟩ := by
    simp only [Parse.step, Parse.stepType, hs]
    rfl
  have hclose : Parse.step ⟨.group s :: fs, .type u⟩ (.mark ')') = some ⟨fs, .type (s.put t)⟩ := by
    have h1 : Parse.step ⟨.group s :: fs, .type u⟩ (.mark ')') =
        u.type?.map fun t => ⟨fs, .type (s.put t)⟩ := rfl
    rw [h1, ht, Option.map_some]
  rw [Parse.run_cons, hopen, Option.bind_some, Parse.run_append, hr, Option.bind_some,
    Parse.run_cons, hclose]
  rfl

theorem Spells.grouped {cs : List Char} {ts : List Token} (h : Spells cs ts) :
    Closes (['('] ++ cs ++ [')']) (.mark '(' :: (ts ++ [.mark ')'])) := by
  have hopen : Closes ['('] [.mark '('] := closes_mark rfl rfl
  have hclose : Closes [')'] [.mark ')'] := closes_mark rfl rfl
  exact h.between hopen hclose (by simp) (by simp [StartsApart]; rfl)

/-- How one of the two operators between types is written and read: what stands in front of it, and
the type that the whole makes. -/
structure Operator where
  sign : Char
  slot : List Tree → Option Tree → Slot
  whole : List Tree → Tree
  spelled : Closes [' ', sign, ' '] [.mark sign]
  start : slot [] none = .blank
  step : ∀ fs ts t, Parse.step ⟨fs, .type (slot ts (some t))⟩ (.mark sign) =
    some ⟨fs, .type (slot (ts ++ [t]) none)⟩
  put : ∀ ts t, (slot ts none).put t = slot ts (some t)
  free : ∀ ts, (slot ts none).operand = none
  type : ∀ ts t, (slot ts (some t)).type? = some (whole (ts ++ [t]))

namespace Operator

def either : Operator where
  sign := '|'
  slot ts t := ⟨ts, [], t⟩
  whole := Tree.unionOf
  spelled := fun _ => rfl
  start := rfl
  step := fun _ _ _ => rfl
  put := fun _ _ => rfl
  free := fun _ => rfl
  type := fun _ _ => rfl

def both : Operator where
  sign := '&'
  slot ts t := ⟨[], ts, t⟩
  whole := Tree.intersectionOf
  spelled := fun _ => rfl
  start := rfl
  step := fun _ _ _ => rfl
  put := fun _ _ => rfl
  free := fun _ => rfl
  type := fun _ _ => rfl

variable (o : Operator)

def further (cs : List Char) : List Char := [' ', o.sign, ' '] ++ (['('] ++ cs ++ [')'])

theorem run_further {ts : List Token} {u : Tree} (h : Parses ts u) (fs : List Frame)
    (before : List Tree) (t : Tree) :
    Parse.run ⟨fs, .type (o.slot before (some t))⟩ (.mark o.sign :: .mark '(' :: (ts ++ [.mark ')'])) =
      some ⟨fs, .type (o.slot (before ++ [t]) (some u))⟩ := by
  rw [Parse.run_cons, o.step, Option.bind_some, run_group h fs _ (o.free _), o.put]

theorem reads_further {texts : List (List Char)} {types : List Tree}
    (h : List.Forall₂ Reads texts types) : ∃ ts, Closes (texts.flatMap o.further) ts ∧
      ∀ fs before t, ∃ before' t', before' ++ [t'] = before ++ t :: types ∧
        Parse.run ⟨fs, .type (o.slot before (some t))⟩ ts =
          some ⟨fs, .type (o.slot before' (some t'))⟩ := by
  induction h with
  | nil => exact ⟨[], closes_nil, fun fs before t => ⟨before, t, rfl, rfl⟩⟩
  | @cons cs u texts types hread hrest ih =>
    obtain ⟨ts, hspell, hparse⟩ := hread
    obtain ⟨rest, hcloses, hrun⟩ := ih
    refine ⟨.mark o.sign :: .mark '(' :: (ts ++ [.mark ')']) ++ rest, ?_, ?_⟩
    · rw [List.flatMap_cons]
      exact (o.spelled.append hspell.grouped).append hcloses
    · intro fs before t
      obtain ⟨before', t', heq, hr⟩ := hrun fs (before ++ [t]) u
      refine ⟨before', t', by simpa using heq, ?_⟩
      rw [Parse.run_append, run_further o hparse, Option.bind_some, hr]

theorem reads_chain {cs : List Char} {texts : List (List Char)} {t : Tree} {types : List Tree}
    (h : Reads cs t) (hs : List.Forall₂ Reads texts types) :
    Reads (['('] ++ cs ++ [')'] ++ texts.flatMap o.further) (o.whole (t :: types)) := by
  obtain ⟨ts, hspell, hparse⟩ := h
  obtain ⟨rest, hcloses, hrun⟩ := o.reads_further hs
  refine ⟨_, (hspell.grouped.append hcloses).spells, fun fs => ?_⟩
  obtain ⟨before, u, heq, hr⟩ := hrun fs [] t
  refine ⟨o.slot before (some u), ?_, ?_⟩
  · rw [Parse.run_append, run_group hparse fs _ rfl, Option.bind_some, ← o.start, o.put, hr]
  · rw [o.type, heq, List.nil_append]

theorem join_chain {sep : String} (hsep : sep.toList = [')', ' ', o.sign, ' ', '(']) (first : String)
    (rest : List String) : (Text.join sep (first :: rest)).toList ++ [')'] =
      first.toList ++ [')'] ++ (rest.map String.toList).flatMap o.further := by
  induction rest generalizing first with
  | nil => simp [Text.join]
  | cons second rest ih =>
    rw [Text.join, String.toList_append, String.toList_append, List.append_assoc, ih, hsep]
    simp [further]

theorem reads_joined {sep : String} (hsep : sep.toList = [')', ' ', o.sign, ' ', '('])
    {first : String} {rest : List String} {types : List Tree}
    (h : List.Forall₂ (fun s t => Reads s.toList t) (first :: rest) types) :
    Reads ("(" ++ Text.join sep (first :: rest) ++ ")").toList (o.whole types) := by
  obtain ⟨t, types, hfirst, hrest, rfl⟩ := List.forall₂_cons_left_iff.mp h
  have hmap : List.Forall₂ Reads (rest.map String.toList) types := List.forall₂_map_left_iff.mpr hrest
  have htext : ("(" ++ Text.join sep (first :: rest) ++ ")").toList =
      ['('] ++ first.toList ++ [')'] ++ (rest.map String.toList).flatMap o.further := by
    have hj := o.join_chain hsep first rest
    rw [String.toList_append, String.toList_append, List.append_assoc]
    change ['('] ++ ((Text.join sep (first :: rest)).toList ++ [')']) = _
    rw [hj]
    simp
  rw [htext]
  exact o.reads_chain hfirst hmap

end Operator

theorem reads_named (w : String) (hw : Wordlike w.toList) (hne : w.toList ≠ []) :
    Reads w.toList (Tree.word w) := reads_word hw hne

theorem reads_union {texts : List String} {types : List Tree}
    (h : List.Forall₂ (fun s t => Reads s.toList t) texts types) :
    Reads (Expression.union texts).toList (Tree.unionOf types) := by
  match texts, types, h with
  | [], [], _ => exact reads_named "never" (by decide) (by decide)
  | [_], [_], .cons h .nil => exact h
  | _ :: _ :: _, _, h => exact Operator.either.reads_joined (by decide) h

theorem reads_intersection {texts : List String} {types : List Tree}
    (h : List.Forall₂ (fun s t => Reads s.toList t) texts types) :
    Reads (Expression.intersection texts).toList (Tree.intersectionOf types) := by
  match texts, types, h with
  | [], [], _ => exact reads_named "unknown" (by decide) (by decide)
  | [_], [_], .cons h .nil => exact h
  | _ :: _ :: _, _, h => exact Operator.both.reads_joined (by decide) h

theorem reads_orNull {text : String} {t : Tree} (h : Reads text.toList t) :
    Reads (Expression.orNull text).toList (.union [t, Tree.word "null"]) := by
  obtain ⟨ts, hspell, hparse⟩ := h
  have hbar : Closes [' ', '|', ' '] [.mark '|'] := Operator.either.spelled
  have hnull : Spells " | null".toList [.mark '|', .word "null".toList] :=
    hbar.spells_append (spells_word (w := "null".toList) (by decide) (by decide))
  have htext : (Expression.orNull text).toList = ['('] ++ text.toList ++ [')'] ++ " | null".toList := by
    simp [Expression.orNull]
  rw [htext]
  refine ⟨_, hspell.grouped.spells_append hnull, fun fs => ?_⟩
  refine ⟨⟨[t], [], some (Tree.word "null")⟩, ?_, rfl⟩
  rw [Parse.run_append, run_group hparse fs _ rfl, Option.bind_some]
  rfl

theorem reads_partial {text : String} {t : Tree} (h : Reads text.toList t) :
    Reads (Expression.partialOf text).toList (.partialOf t) := by
  obtain ⟨ts, hspell, hparse⟩ := h
  have hopen : Closes "Partial<".toList [.word "Partial".toList, .mark '<'] := closes_of_run (by decide)
  have hclose : Closes ['>'] [.mark '>'] := closes_mark rfl rfl
  have htext : (Expression.partialOf text).toList = "Partial<".toList ++ text.toList ++ ['>'] := by
    simp [Expression.partialOf]
  rw [htext]
  refine ⟨_, (hspell.between hopen hclose (by simp) (by simp [StartsApart]; rfl)).spells, ?_⟩
  apply parses_of_operand
  intro fs
  obtain ⟨s, hr, ht⟩ := hparse (.argument .blank :: fs)
  have hend : Parse.step ⟨.argument .blank :: fs, .type s⟩ (.mark '>') =
      s.type?.map fun t => ⟨fs, .type (Slot.blank.put (.partialOf t))⟩ := rfl
  have hbegin : Parse.run ⟨fs, .type .blank⟩ [.word "Partial".toList, .mark '<'] =
      some ⟨.argument .blank :: fs, .type .blank⟩ := rfl
  rw [Parse.run_append, Parse.run_append, hbegin, Option.bind_some, hr, Option.bind_some,
    Parse.run_cons, hend, ht]
  rfl

theorem reads_array {text : String} {t : Tree} (h : Reads text.toList t) :
    Reads (Expression.array text).toList (.array t) := by
  obtain ⟨ts, hspell, hparse⟩ := h
  have hbrackets : Closes "[]".toList [.mark '[', .mark ']'] := closes_of_run (by decide)
  have htext : (Expression.array text).toList = ['('] ++ text.toList ++ [')'] ++ "[]".toList := by
    simp [Expression.array]
  rw [htext]
  refine ⟨_, (hspell.grouped.append hbrackets).spells, parses_of_operand fun fs => ?_⟩
  rw [Parse.run_append, run_group hparse fs _ rfl, Option.bind_some]
  rfl

theorem reads_openMap {text : String} {t : Tree} (h : Reads text.toList t) :
    Reads (Expression.openMap text).toList (.openMap t) := by
  obtain ⟨ts, hspell, hparse⟩ := h
  have hopen : Closes "\x7b [key: string]: ".toList
      (.mark '\x7b' :: .mark '[' :: Parse.keyWords) := closes_of_run (by decide)
  have hclose : Closes " \x7d".toList [.mark '\x7d'] := closes_of_run (by decide)
  have htext : (Expression.openMap text).toList =
      "\x7b [key: string]: ".toList ++ text.toList ++ " \x7d".toList := by
    simp [Expression.openMap, Expression.braced]
  rw [htext]
  refine ⟨_, (hspell.between hopen hclose (by simp) (by simp [StartsApart]; rfl)).spells, ?_⟩
  apply parses_of_operand
  intro fs
  obtain ⟨s, hr, ht⟩ := hparse (.value .blank :: fs)
  have hend : Parse.step ⟨.value .blank :: fs, .type s⟩ (.mark '\x7d') =
      s.type?.map fun t => ⟨fs, .type (Slot.blank.put (.openMap t))⟩ := rfl
  have hbegin : Parse.run ⟨fs, .type .blank⟩ (.mark '\x7b' :: .mark '[' :: Parse.keyWords) =
      some ⟨.value .blank :: fs, .type .blank⟩ := rfl
  rw [Parse.run_append, Parse.run_append, hbegin, Option.bind_some, hr, Option.bind_some,
    Parse.run_cons, hend, ht]
  rfl

/-- The items of a tuple up to its end. One slot alone in which nothing stands is no item. -/
theorem reads_items {first : String} {rest : List String} {t : Tree} {types : List Tree}
    (h : Reads first.toList t) (hs : List.Forall₂ (fun s t => Reads s.toList t) rest types) :
    ∃ ts, Spells (Text.join ", " (first :: rest)).toList ts ∧
      ∀ fs s before, (before = [] → t :: types ≠ [.missing]) →
        Parse.run ⟨.item s before :: fs, .type .blank⟩ (ts ++ [.mark ']']) =
          some ⟨fs, .type (s.put (.tuple (before ++ t :: types)))⟩ := by
  induction hs generalizing first t with
  | nil =>
    obtain ⟨ts, hspell, hparse⟩ := h
    refine ⟨ts, hspell, fun fs s before hne => ?_⟩
    obtain ⟨u, hr, ht⟩ := hparse (.item s before :: fs)
    have hfull : (before.isEmpty && u.isBlank) = false := by
      cases before with
      | cons => rfl
      | nil =>
        cases hb : u.isBlank with
        | false => rfl
        | true =>
          obtain ⟨as, ps, op⟩ := u
          simp only [Slot.isBlank, Bool.and_eq_true, List.isEmpty_iff, Option.isNone_iff_eq_none] at hb
          obtain ⟨⟨rfl, rfl⟩, rfl⟩ := hb
          cases ht
          exact absurd rfl (hne rfl)
    have hend : Parse.step ⟨.item s before :: fs, .type u⟩ (.mark ']') =
        if before.isEmpty && u.isBlank then some ⟨fs, .type (s.put (.tuple []))⟩
        else u.type?.map fun t => ⟨fs, .type (s.put (.tuple (before ++ [t])))⟩ := rfl
    rw [Parse.run_append, hr, Option.bind_some, Parse.run_cons, hend, hfull, ht]
    rfl
  | @cons second u rest types hsecond _ ih =>
    obtain ⟨ts, hspell, hparse⟩ := h
    obtain ⟨more, hmore, hrun⟩ := ih hsecond
    have hcomma : Closes ", ".toList [.mark ','] := closes_of_run (by decide)
    have hhead : Closes (first.toList ++ ", ".toList) (ts ++ [.mark ',']) :=
      hspell.closes_append hcomma (by decide) (by simp [StartsApart]; rfl)
    refine ⟨ts ++ [.mark ','] ++ more, ?_, fun fs s before _ => ?_⟩
    · have htext : (Text.join ", " (first :: second :: rest)).toList =
          first.toList ++ ", ".toList ++ (Text.join ", " (second :: rest)).toList := by
        simp [Text.join]
      rw [htext]
      exact hhead.spells_append hmore
    · obtain ⟨v, hr, ht⟩ := hparse (.item s before :: fs)
      have hnext : Parse.step ⟨.item s before :: fs, .type v⟩ (.mark ',') =
          v.type?.map fun t => ⟨.item s (before ++ [t]) :: fs, .type .blank⟩ := rfl
      rw [List.append_assoc, List.append_assoc, Parse.run_append, hr, Option.bind_some,
        List.singleton_append, Parse.run_cons, hnext, ht, Option.map_some, Option.bind_some,
        hrun fs s (before ++ [t]) (by simp)]
      simp

theorem reads_tuple {texts : List String} {types : List Tree}
    (h : List.Forall₂ (fun s t => Reads s.toList t) texts types) (hne : types ≠ [.missing]) :
    Reads (Expression.tuple texts).toList (.tuple types) := by
  cases h with
  | nil =>
    have hspell : Closes "[]".toList [.mark '[', .mark ']'] := closes_of_run (by decide)
    exact ⟨_, hspell.spells, parses_of_operand fun _ => rfl⟩
  | @cons first t rest types hfirst hrest =>
    obtain ⟨ts, hspell, hrun⟩ := reads_items hfirst hrest
    have hopen : Closes ['['] [.mark '['] := closes_mark rfl rfl
    have hclose : Closes [']'] [.mark ']'] := closes_mark rfl rfl
    have htext : (Expression.tuple (first :: rest)).toList =
        ['['] ++ (Text.join ", " (first :: rest)).toList ++ [']'] := by
      simp [Expression.tuple]
    rw [htext]
    refine ⟨_, (hspell.between hopen hclose (by simp) (by simp [StartsApart]; rfl)).spells, ?_⟩
    apply parses_of_operand
    intro fs
    have hbegin : Parse.step ⟨fs, .type .blank⟩ (.mark '[') =
        some ⟨.item .blank [] :: fs, .type .blank⟩ := rfl
    rw [List.append_assoc, List.singleton_append, Parse.run_cons, hbegin, Option.bind_some,
      hrun fs .blank [] (fun _ => hne)]
    rfl

/-- A text that is read as field declarations wherever one can begin. -/
def ReadsFields (cs : List Char) (fields : List Field) : Prop :=
  ∃ ts, Closes cs ts ∧ ∀ fs s before,
    Parse.run ⟨fs, .members s before⟩ ts = some ⟨fs, .members s (before ++ fields)⟩

theorem readsFields_nil : ReadsFields [] [] :=
  ⟨[], closes_nil, fun fs s before => by rw [Parse.run_nil, List.append_nil]⟩

theorem ReadsFields.append {a b : List Char} {fields more : List Field} (ha : ReadsFields a fields)
    (hb : ReadsFields b more) : ReadsFields (a ++ b) (fields ++ more) := by
  obtain ⟨xs, hx, hrx⟩ := ha
  obtain ⟨ys, hy, hry⟩ := hb
  refine ⟨xs ++ ys, hx.append hy, fun fs s before => ?_⟩
  rw [Parse.run_append, hrx, Option.bind_some, hry, List.append_assoc]

def fieldWords (name : List Char) (required : Bool) : List Token :=
  .quoted '"' name :: (if required then [.mark ':'] else [.mark '?', .mark ':'])

theorem closes_fieldHead {name : String} (h : Quotable name.toList) (required : Bool) :
    Closes (Expression.fieldHead name required).toList (fieldWords name.toList required) := by
  have hname := closes_name h
  have htext : (Expression.fieldHead name required).toList =
      quotedName name.toList ++ (if required then ": " else "?: ").toList := by
    cases required <;> simp [Expression.fieldHead, quotedName]
  rw [htext]
  cases required with
  | true =>
    have hcolon : Closes ": ".toList [.mark ':'] := closes_of_run (by decide)
    exact hname.append hcolon
  | false =>
    have hcolon : Closes "?: ".toList [.mark '?', .mark ':'] := closes_of_run (by decide)
    exact hname.append hcolon

theorem run_fieldWords (fs : List Frame) (s : Slot) (fields : List Field) (name : List Char)
    (required : Bool) : Parse.run ⟨fs, .members s fields⟩ (fieldWords name required) =
      some ⟨.field s fields name required :: fs, .type .blank⟩ := by
  cases required <;> rfl

theorem readsFields_one {comment name type : String} {t : Tree} (required : Bool)
    (hc : Closes comment.toList []) (hn : Quotable name.toList) (ht : Reads type.toList t) :
    ReadsFields (comment ++ Expression.fieldHead name required ++ type ++ ";\n").toList
      [(name.toList, required, t)] := by
  obtain ⟨ts, hspell, hparse⟩ := ht
  have hend : Closes ";\n".toList [.mark ';'] := closes_of_run (by decide)
  have htext : (comment ++ Expression.fieldHead name required ++ type ++ ";\n").toList =
      (comment.toList ++ (Expression.fieldHead name required).toList) ++ type.toList ++ ";\n".toList := by
    simp
  rw [htext]
  refine ⟨_, hspell.between (hc.append (closes_fieldHead hn required)) hend (by decide)
    (by simp [StartsApart]; rfl), fun fs s before => ?_⟩
  obtain ⟨u, hr, hu⟩ := hparse (.field s before name.toList required :: fs)
  have hstep : Parse.step ⟨.field s before name.toList required :: fs, .type u⟩ (.mark ';') =
      u.type?.map fun t => ⟨fs, .members s (before ++ [(name.toList, required, t)])⟩ := rfl
  rw [List.nil_append, Parse.run_append, Parse.run_append, run_fieldWords, Option.bind_some, hr,
    Option.bind_some, Parse.run_cons, hstep, hu]
  rfl

theorem reads_record {text : String} {fields : List Field} (h : ReadsFields text.toList fields) :
    Reads (Expression.record text).toList (.record fields) := by
  obtain ⟨ts, hcloses, hrun⟩ := h
  have hopen : Closes "\x7b ".toList [.mark '\x7b'] := fun _ => rfl
  have hclose : Closes " \x7d".toList [.mark '\x7d'] := closes_of_run (by decide)
  have htext : (Expression.record text).toList = "\x7b ".toList ++ text.toList ++ " \x7d".toList := by
    simp [Expression.record, Expression.braced]
  rw [htext]
  refine ⟨_, ((hopen.append hcloses).append hclose).spells, parses_of_operand fun fs => ?_⟩
  have hbegin : Parse.step ⟨fs, .type .blank⟩ (.mark '\x7b') = some ⟨fs, .members .blank []⟩ := rfl
  rw [List.append_assoc, List.singleton_append, Parse.run_cons, hbegin, Option.bind_some,
    Parse.run_append, hrun, Option.bind_some]
  rfl

end ApiTypes.TypeText
