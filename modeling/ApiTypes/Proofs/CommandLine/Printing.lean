import ApiTypes.CommandLine.Command
import ApiTypes.Surroundings.Local
import ApiTypes.Proofs.Text.Pieces
import Mathlib.Data.List.Basic

/-!
# Lines that can be printed

A line of progress begins with a tag. What stands behind it can be shown if it holds no opening
bracket, which may begin a tag, no colon, which may begin the name of an emoji, and no half of a
surrogate pair. So what a command says about paths without these can be printed.
-/

set_option autoImplicit false

namespace ApiTypes

namespace Markup

variable {s t behind rest tag : List Char} {styles : List Opened} {word : List Char}

/-- A text without tags, names of emoji and halves of surrogate pairs. -/
def Plain (s : List Char) : Prop := '[' ∉ s ∧ ':' ∉ s ∧ ∀ c ∈ s, Text.half? c = none

theorem plain_iff (s : List Char) :
    (!s.contains '[' && !s.contains ':' && s.all fun c => (Text.half? c).isNone) = true ↔ Plain s := by
  simp [Plain, and_assoc]

instance (s : List Char) : Decidable (Plain s) := decidable_of_iff _ (plain_iff s)

theorem Plain.append (hs : Plain s) (ht : Plain t) : Plain (s ++ t) := by
  obtain ⟨hs₁, hs₂, hs₃⟩ := hs
  obtain ⟨ht₁, ht₂, ht₃⟩ := ht
  exact ⟨by simp [hs₁, ht₁], by simp [hs₂, ht₂], List.forall_mem_append.mpr ⟨hs₃, ht₃⟩⟩

theorem pieces_of_not_mem (h : '[' ∉ s) (n : Nat) (before : List Char) :
    pieces n before s = [.plain (before.reverse ++ s)] := by
  induction n generalizing before s with
  | zero => rw [pieces]
  | succ n ih =>
    cases s with
    | nil => simp [pieces]
    | cons c r =>
      have hr : '[' ∉ r := fun hr => h (List.mem_cons_of_mem c hr)
      rw [pieces]
      split
      · rename_i behind hdrop
        exact (h (List.mem_of_mem_drop (hdrop ▸ List.mem_cons_self))).elim
      · rw [ih hr, List.reverse_cons, List.append_assoc, List.singleton_append]

theorem cutTag_name {c : Char} {body : List Char} (hopens : opensTag c = true)
    (hbody : (body.all fun d => d ≠ '[' && d ≠ ']') = true) (rest : List Char) :
    cutTag (c :: (body ++ ']' :: rest)) = some (c :: body, rest) := by
  have hplain := List.all_eq_true.mp hbody
  rw [cutTag, List.takeWhile_append_of_pos hplain, List.dropWhile_append_of_pos hplain]
  simp [hopens]

theorem pieces_tag (h : cutTag behind = some (tag, rest)) (n : Nat) :
    pieces (n + 1) [] ('[' :: behind) = .plain [] :: .plain [] :: .tag tag :: pieces n [] rest := by
  rw [pieces]
  simp [h, tagged]

theorem withEmoji_of_not_mem (h : ':' ∉ s) : withEmoji s = s := by
  induction s with
  | nil => rw [withEmoji]
  | cons c r ih =>
    have hc : c ≠ ':' := fun he => h (by simp [he])
    rw [withEmoji, if_neg hc, ih fun hr => h (List.mem_cons_of_mem c hr)]

theorem unescape_of_not_mem (h : '[' ∉ s) : unescape s = s := by
  unfold unescape
  fun_induction Text.replacePair '\\' '[' ['['] s with
  | case1 => rfl
  | case2 c => rfl
  | case3 c d r hp => exact (h (by simp [hp.2])).elim
  | case4 c d r hp ih => rw [ih fun hr => h (List.mem_cons_of_mem c hr)]

theorem mem_expandTabs {c : Char} {column : Nat} (h : c ∈ expandTabs column s) : c = ' ' ∨ c ∈ s := by
  fun_induction expandTabs column s with
  | case1 => cases h
  | case2 column r blanks ih =>
    rcases List.mem_append.mp h with hblank | hr
    · exact .inl (List.eq_of_mem_replicate hblank)
    · exact (ih hr).imp_right (List.mem_cons_of_mem _)
  | case3 column r hne ih =>
    rcases List.mem_cons.mp h with rfl | hr
    · exact .inr List.mem_cons_self
    · exact (ih hr).imp_right (List.mem_cons_of_mem _)
  | case4 column d r htab hbreak ih =>
    rcases List.mem_cons.mp h with rfl | hr
    · exact .inr List.mem_cons_self
    · exact (ih hr).imp_right (List.mem_cons_of_mem _)

theorem strip_plain {pieces : List Piece} (h : Plain s) (hrest : strip styles pieces = .ok t) :
    strip styles (.plain s :: pieces) = .ok (s ++ t) := by
  rw [strip, unescape_of_not_mem h.1, withEmoji_of_not_mem h.2.1, hrest]
  rfl

theorem strip_last (h : Plain s) (styles : List Opened) : strip styles [.plain s] = .ok s := by
  have hlast : strip styles [.plain s] = .ok (s ++ []) := strip_plain h (by rw [strip])
  rwa [List.append_nil] at hlast

theorem strip_nothing (styles : List Opened) (pieces : List Piece) :
    strip styles (.plain [] :: pieces) = strip styles pieces := by
  rw [strip, unescape_of_not_mem List.not_mem_nil, withEmoji_of_not_mem List.not_mem_nil]
  cases strip styles pieces <;> rfl

theorem strip_tag {styles' : List Opened} (h : applyTag tag styles = .ok styles') (pieces : List Piece) :
    strip styles (.tag tag :: pieces) = strip styles' pieces := by
  rw [strip, h]
  rfl

theorem isColor_ok (h : between? "rgb(" word = none) : ∃ answer, isColor word = .ok answer := by
  unfold isColor
  -- the list of names is long, and nothing depends on what is in it
  generalize (decide (word = "default".toList) || _) = isNamed
  rw [h]
  cases isNamed with
  | true => exact ⟨true, rfl⟩
  | false =>
    rw [if_neg Bool.false_ne_true]
    split
    · exact ⟨_, rfl⟩
    · exact ⟨_, rfl⟩
    · rename_i hparts _
      cases hparts
    · exact ⟨_, rfl⟩

/-- A single word is read as a style or as none, be it a colour or not. -/
theorem Style.read_word (h : between? "rgb(" (Style.lower word) = none) (style : Style) :
    ∃ answer, Style.read style [word] = .ok answer := by
  obtain ⟨answer, hcolor⟩ := isColor_ok h
  rw [Style.read]
  split
  · exact ⟨_, rfl⟩
  · split
    · exact ⟨_, rfl⟩
    · split
      · exact ⟨_, rfl⟩
      · split
        · exact ⟨_, rfl⟩
        · rw [hcolor]
          cases answer with
          | true => exact ⟨_, rfl⟩
          | false => exact ⟨_, rfl⟩

theorem normalStyle_word (hone : wordsOf s = [word]) (h : between? "rgb(" (Style.lower word) = none) :
    ∃ name, normalStyle s = .ok name := by
  obtain ⟨answer, hread⟩ := Style.read_word h .plain
  unfold normalStyle
  split
  · exact ⟨_, rfl⟩
  · rw [hone, hread]
    cases answer with
    | none => exact ⟨_, rfl⟩
    | some style => exact ⟨_, rfl⟩

theorem applyTag_word {name : String} (hname : normalStyle tag = .ok name)
    (hcut : Text.cut '=' tag = (tag, none)) (hopens : tag.head? ≠ some '/') (styles : List Opened) :
    applyTag tag styles = .ok (⟨name, none⟩ :: styles) := by
  rw [applyTag, hcut]
  dsimp only
  split
  · exact (hopens rfl).elim
  · rw [hname]
    rfl

theorem applyTag_ended {name : String} (hname : normalStyle tag = .ok name)
    (hcut : Text.cut '=' ('/' :: tag) = ('/' :: tag, none)) (hstrip : Text.strip tag = tag)
    (styles : List Opened) : applyTag ('/' :: tag) (⟨name, none⟩ :: styles) = .ok styles := by
  have hend : endStyle name (⟨name, none⟩ :: styles) = some (⟨name, none⟩, styles) := if_pos rfl
  rw [applyTag, hcut]
  simp only [hstrip, hname, Except.mapError, bind, Except.bind, hend]
  cases tag <;> rfl

theorem printed_of_strip {line : String} (h : strip [] (piecesOf line.toList) = .ok s)
    (hwhole : ∀ c ∈ s, Text.half? c = none) : ∃ text, printed line = .ok text := by
  refine ⟨String.ofList (expandTabs 0 (s.filter fun c => !isControl c)), ?_⟩
  have hrender : render line = .ok (String.ofList (expandTabs 0 (s.filter fun c => !isControl c))) := by
    rw [render, h]
    rfl
  have hnone : ((expandTabs 0 (s.filter fun c => !isControl c)).any fun c => (Text.half? c).isSome) =
      false := by
    rw [List.any_eq_false]
    intro c hc
    rcases mem_expandTabs hc with rfl | hc
    · decide
    · simp [hwhole c (List.mem_of_mem_filter hc)]
  rw [printed, hrender]
  change (if _ then _ else _ : Except MarkupFault String) = _
  rw [String.toList_ofList, hnone]
  rfl

end Markup

namespace Command

section

variable {Tree Target : Type} {s : Surroundings Tree Target}

def Printable (s : Surroundings Tree Target) (lines : List String) : Prop :=
  ∀ line ∈ lines, fault? s line = none

/-- What is shown of the progress of a conversion can be printed. -/
def Announced (s : Surroundings Tree Target) (c : Conversion) : Prop :=
  fault? s (startingLine c) = none ∧ fault? s (doneLine c) = none

theorem fault?_eq_none {line : String} : fault? s line = none ↔ ∃ text, s.print line = .ok text := by
  unfold fault?
  cases s.print line with
  | ok text => exact ⟨fun _ => ⟨text, rfl⟩, fun _ => rfl⟩
  | error fault => exact ⟨nofun, nofun⟩

theorem print_printable {lines : List String} (h : Printable s lines) (printed : String) :
    ∃ text, print s printed lines = (text, none) := by
  induction lines generalizing printed with
  | nil => exact ⟨printed, rfl⟩
  | cons line lines ih =>
    obtain ⟨hline, hlines⟩ := List.forall_mem_cons.mp h
    obtain ⟨text, htext⟩ := fault?_eq_none.mp hline
    rw [print, htext]
    exact ih hlines _

theorem succeed_printable {lines : List String} (h : Printable s lines) :
    (succeed s lines).status = 0 := by
  obtain ⟨text, htext⟩ := print_printable h ""
  rw [succeed, htext]
  rfl

end

open Markup

variable {w : Workspace}

theorem fault?_plain {line : String} (h : Plain line.toList) : fault? w.surroundings line = none := by
  refine fault?_eq_none.mpr (printed_of_strip ?_ h.2.2)
  rw [piecesOf, pieces_of_not_mem h.1]
  exact strip_last h []

theorem fault?_progress {t : String} (h : Plain t.toList) : fault? w.surroundings (progressStyle ++ t) = none := by
  have hcut : cutTag ("progress.description".toList ++ ']' :: t.toList) =
      some ("progress.description".toList, t.toList) := cutTag_name rfl (by decide) _
  have hpieces : piecesOf (progressStyle ++ t).toList =
      [.plain [], .plain [], .tag "progress.description".toList, .plain t.toList] := by
    rw [piecesOf, String.toList_append]
    change pieces (_ + 1) [] ('[' :: ("progress.description".toList ++ ']' :: t.toList)) = _
    rw [pieces_tag hcut, pieces_of_not_mem h.1]
    rfl
  have hword : wordsOf "progress.description".toList = ["progress.description".toList] := by
    decide +kernel
  obtain ⟨name, hname⟩ := normalStyle_word hword (by decide +kernel)
  refine fault?_eq_none.mpr (printed_of_strip ?_ h.2.2)
  rw [hpieces, strip_nothing, strip_nothing,
    strip_tag (applyTag_word hname (by decide) (by decide) [])]
  exact strip_last h _

theorem announced_of_plain {c : Conversion} (hsource : Plain c.source.toList)
    (houtput : Plain c.output.toList) : Announced w.surroundings c := by
  have hgenerating : Plain "Generating ".toList := by decide
  have hfrom : Plain " from ".toList := by decide
  have hdots : Plain "...".toList := by decide
  have hdone : Plain "Done with ".toList := by decide
  have hmark : Plain "!".toList := by decide
  constructor
  · rw [startingLine, String.append_assoc, String.append_assoc, String.append_assoc, String.append_assoc]
    apply fault?_progress
    simp only [String.toList_append]
    exact hgenerating.append (houtput.append (hfrom.append (hsource.append hdots)))
  · rw [doneLine, String.append_assoc, String.append_assoc]
    apply fault?_progress
    simp only [String.toList_append]
    exact hdone.append (hsource.append hmark)

theorem fault?_success :
    fault? w.surroundings "[green]Successfully generated declarations[/green]" = none := by
  have hword : wordsOf "green".toList = ["green".toList] := by decide +kernel
  obtain ⟨name, hname⟩ := normalStyle_word hword (by decide +kernel)
  have hplain : Plain "Successfully generated declarations".toList := by decide
  have hpieces : piecesOf "[green]Successfully generated declarations[/green]".toList =
      [.plain [], .plain [], .tag "green".toList, .plain "Successfully generated declarations".toList,
        .plain [], .tag "/green".toList, .plain []] := by decide +kernel
  have hended : strip [⟨name, none⟩] [.plain [], .tag "/green".toList, .plain []] = .ok [] := by
    rw [strip_nothing]
    change strip _ [.tag ('/' :: "green".toList), .plain []] = _
    rw [strip_tag (applyTag_ended hname (by decide) (by decide) []), strip_nothing, strip]
  have hstrip := strip_plain hplain hended
  rw [List.append_nil] at hstrip
  refine fault?_eq_none.mpr (printed_of_strip ?_ hplain.2.2)
  rw [hpieces, strip_nothing, strip_nothing,
    strip_tag (applyTag_word hname (by decide) (by decide) [])]
  exact hstrip

theorem printable_generatedLines {paths : List String} (h : ∀ path ∈ paths, Plain path.toList) :
    Printable w.surroundings (generatedLines paths) := by
  have hprinted : Markup.printed "[dim]Generated files:[/dim]" = .ok "Generated files:" := by
    decide +kernel
  have hfiles : fault? w.surroundings "[dim]Generated files:[/dim]" = none :=
    fault?_eq_none.mpr ⟨_, hprinted⟩
  refine List.forall_mem_cons.mpr ⟨fault?_success, List.forall_mem_cons.mpr ⟨hfiles, ?_⟩⟩
  intro line hline
  obtain ⟨path, hpath, rfl⟩ := List.mem_map.mp hline
  have hdash : Plain "  - ".toList := by decide
  apply fault?_plain
  rw [String.toList_append]
  exact hdash.append (h path hpath)

end Command

end ApiTypes
