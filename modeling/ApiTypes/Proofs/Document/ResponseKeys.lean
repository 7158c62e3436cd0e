import ApiTypes.Proofs.Compose.Alone
import ApiTypes.Proofs.Document.Operations
import ApiTypes.Proofs.Reference.Imports

/-!
# The keys of responses

A response is declared under a number, the bare word `default` or a quoted text. No key of
one form is a key of another, so two statuses have one key only where they are one text or
numerals of one number. What stands for a body that is not described follows from that
number, not from the digits it is written in.
-/

set_option autoImplicit false

namespace ApiTypes

namespace StatusKey

/-- One digit or more, each of them from 0 to 9. -/
def IsNumeral (status : String) : Prop :=
  status.toList ≠ [] ∧ ∀ c ∈ status.toList, c.isDigit = true

theorem isNumeral_iff (status : String) :
    (!status.toList.isEmpty && status.toList.all Char.isDigit) = true ↔ IsNumeral status := by
  rw [Bool.and_eq_true, List.all_eq_true, IsNumeral]
  simp

instance (status : String) : Decidable (IsNumeral status) :=
  decidable_of_iff _ (isNumeral_iff status)

def number (status : String) : Nat := Nat.ofDigitChars 10 status.toList 0

/-- Is a status no numeral, or one that is not too long to be read? -/
def Readable (status : String) : Prop :=
  IsNumeral status → status.toList.length ≤ Numeral.maxDigits

instance (status : String) : Decidable (Readable status) := inferInstanceAs (Decidable (_ → _))

/-- Two statuses that are one text, or numerals of one number. -/
def Alike (a b : String) : Prop := a = b ∨ IsNumeral a ∧ IsNumeral b ∧ number a = number b

/-- A numeral of the number 204, or of one from 300 to 399. -/
def LacksBody (status : String) : Prop :=
  IsNumeral status ∧ (number status = 204 ∨ 300 ≤ number status ∧ number status ≤ 399)

instance (status : String) : Decidable (LacksBody status) := inferInstanceAs (Decidable (_ ∧ _))

def keyOf (status : String) : StatusKey :=
  if IsNumeral status then .code (number status)
  else if status = "default" then .default
  else .other status

theorem digitsValue_digits {s : List Char} (h : ∀ c ∈ s, c.isDigit = true) :
    Text.digitsValue 10 (s.filterMap Text.asciiDigit?) = Nat.ofDigitChars 10 s 0 := by
  have hfold : ∀ n : Nat, (s.filterMap Text.asciiDigit?).foldl (fun n d => n * 10 + d) n =
      Nat.ofDigitChars 10 s n := by
    induction s with
    | nil => exact fun _ => rfl
    | cons c rest ih =>
      obtain ⟨hc, hrest⟩ := List.forall_mem_cons.mp h
      intro n
      have hdigit : Text.asciiDigit? c = some (c.toNat - 48) := by rw [Text.asciiDigit?, if_pos hc]
      rw [List.filterMap_cons_some hdigit, List.foldl_cons, ih hrest, Nat.ofDigitChars_cons,
        Nat.mul_comm n]
      rfl
  exact hfold 0

theorem ofText_ok {status : String} {key : StatusKey} :
    ofText status = .ok key ↔ Readable status ∧ key = keyOf status := by
  unfold ofText ofChars keyOf Readable
  by_cases hn : IsNumeral status
  · rw [if_pos ((isNumeral_iff status).mpr hn), if_pos hn, digitsValue_digits hn.2]
    by_cases hlong : Numeral.maxDigits < status.toList.length
    · rw [if_pos hlong]
      exact ⟨fun h => (by cases h), fun h => absurd (h.1 hn) (Nat.not_le.mpr hlong)⟩
    · rw [if_neg hlong]
      exact ⟨fun h => ⟨fun _ => Nat.not_lt.mp hlong, (Except.ok.inj h).symm⟩, fun h => h.2 ▸ rfl⟩
  · rw [if_neg fun h => hn ((isNumeral_iff status).mp h), if_neg hn]
    have hword : status.toList = "default".toList ↔ status = "default" := String.toList_inj
    by_cases hdefault : status = "default"
    · rw [if_pos (hword.mpr hdefault), if_pos hdefault]
      exact ⟨fun h => ⟨fun h => absurd h hn, (Except.ok.inj h).symm⟩, fun h => h.2 ▸ rfl⟩
    · rw [if_neg fun h => hdefault (hword.mp h), if_neg hdefault, String.ofList_toList]
      exact ⟨fun h => ⟨fun h => absurd h hn, (Except.ok.inj h).symm⟩, fun h => h.2 ▸ rfl⟩

theorem toList_code (n : Nat) : (StatusKey.code n).text.toList = Nat.toDigits 10 n := Nat.toList_repr

theorem toList_other (s : String) : (StatusKey.other s).text.toList = '"' :: (s.toList ++ ['"']) := by
  simp [text]

theorem code_ne {n : Nat} {key : StatusKey} {c : Char} {r : List Char} (h : key.text.toList = c :: r)
    (hc : c.isDigit = false) : (StatusKey.code n).text ≠ key.text := by
  intro he
  have hmem : c ∈ Nat.toDigits 10 n := by
    rw [← toList_code, he, h]
    exact List.mem_cons_self
  have hdigit := Imports.isDigit_toDigits n c hmem
  rw [hc] at hdigit
  cases hdigit

theorem default_ne_other (s : String) : StatusKey.default.text ≠ (StatusKey.other s).text := by
  intro he
  have hl := congrArg String.toList he
  rw [toList_other] at hl
  exact absurd (List.cons.inj hl).1 (by decide)

theorem text_inj {key key' : StatusKey} (h : key.text = key'.text) : key = key' := by
  cases key with
  | code n =>
    cases key' with
    | code m =>
      have hdigits : Nat.toDigits 10 n = Nat.toDigits 10 m := by rw [← toList_code, h, toList_code]
      rw [Imports.toDigits_inj hdigits]
    | default => exact absurd h (code_ne rfl (by decide))
    | other s => exact absurd h (code_ne (toList_other s) (by decide))
  | default =>
    cases key' with
    | code m => exact absurd h.symm (code_ne rfl (by decide))
    | default => rfl
    | other s => exact absurd h (default_ne_other s)
  | other s =>
    cases key' with
    | code m => exact absurd h.symm (code_ne (toList_other s) (by decide))
    | default => exact absurd h.symm (default_ne_other s)
    | other t =>
      have hl := congrArg String.toList h
      rw [toList_other, toList_other] at hl
      rw [String.toList_inj.mp (List.append_cancel_right (List.cons.inj hl).2)]

theorem keyOf_eq_iff {a b : String} : keyOf a = keyOf b ↔ Alike a b := by
  constructor
  · intro h
    unfold keyOf at h
    by_cases ha : IsNumeral a <;> by_cases hb : IsNumeral b
    · rw [if_pos ha, if_pos hb] at h
      exact .inr ⟨ha, hb, StatusKey.code.inj h⟩
    · rw [if_pos ha, if_neg hb] at h
      split at h <;> cases h
    · rw [if_neg ha, if_pos hb] at h
      split at h <;> cases h
    · rw [if_neg ha, if_neg hb] at h
      left
      split at h <;> split at h
      · rename_i hda hdb
        rw [hda, hdb]
      · cases h
      · cases h
      · exact StatusKey.other.inj h
  · rintro (rfl | ⟨ha, hb, hnumber⟩)
    · rfl
    · rw [keyOf, keyOf, if_pos ha, if_pos hb, hnumber]

theorem text_keyOf_iff {a b : String} : (keyOf a).text = (keyOf b).text ↔ Alike a b :=
  ⟨fun h => keyOf_eq_iff.mp (text_inj h), fun h => congrArg text (keyOf_eq_iff.mpr h)⟩

theorem isBodiless_iff (status : String) : (keyOf status).isBodiless = true ↔ LacksBody status := by
  unfold keyOf LacksBody
  by_cases hn : IsNumeral status
  · rw [if_pos hn]
    simp only [isBodiless, Bool.or_eq_true, decide_eq_true_eq, hn, true_and]
    omega
  · rw [if_neg hn]
    split <;> simp [isBodiless, hn]

end StatusKey

namespace Operation

open Compose StatusKey

variable {ctx : Context} {l l' : Ledger}

/-- The line of a response: the text of its status, and what is written for it. -/
structure ResponseLine where
  status : String
  comment : String
  key : String
  body : String

def ResponseLine.text (line : ResponseLine) : String :=
  line.comment ++ line.key ++ ": " ++ line.body ++ "\n"

/-- What is written for a response: its content or its reference, composed by itself, or what stands
for a body that is not described. -/
def bodyUnder (ctx : Context) (status : String) (entries : Entries) : Except Fault String :=
  if hasBody entries then (content ctx (.map entries)).result
  else .ok ((if LacksBody status then "never" else "unknown") ++ ";")

/-- The line is that of the response under a status. -/
structure IsLineOf (ctx : Context) (line : ResponseLine) (status : Scalar) (r : Value) : Prop where
  status : status.plain = .ok line.status
  comment : comment r.entriesIn = .ok line.comment
  key : (StatusKey.ofText line.status).map StatusKey.text = .ok line.key
  body : bodyUnder ctx line.status r.entriesIn = .ok line.body

/-- The responses that are declared: mappings that are not empty. -/
def declaredResponses (entries : Entries) : Entries := entries.filter fun e => !e.2.entriesIn.isEmpty

/-- No two numerals among the statuses denote one number. -/
def NumbersApart (lines : List ResponseLine) : Prop :=
  lines.Pairwise fun a b => IsNumeral a.status → IsNumeral b.status → number a.status ≠ number b.status

theorem IsLineOf.key_eq {line : ResponseLine} {status : Scalar} {r : Value}
    (h : IsLineOf ctx line status r) : Readable line.status ∧ line.key = (keyOf line.status).text := by
  obtain ⟨key, hkey, htext⟩ := except_map_ok.mp h.key
  obtain ⟨hreadable, rfl⟩ := ofText_ok.mp hkey
  exact ⟨hreadable, htext.symm⟩

theorem absentBody_keyOf (name : String) :
    absentBody (keyOf name) = (if LacksBody name then "never" else "unknown") ++ ";" := by
  unfold absentBody
  by_cases h : LacksBody name
  · rw [if_pos ((isBodiless_iff name).mpr h), if_pos h]
    rfl
  · rw [if_neg fun hb => h ((isBodiless_iff name).mp hb), if_neg h]
    rfl

theorem IsLineOf.parts {line : ResponseLine} {status : Scalar} {r : Value} {name body : String}
    (h : IsLineOf ctx line status r) (hs : status.plain = .ok name)
    (hb : bodyUnder ctx name r.entriesIn = .ok body) : line.status = name ∧ line.body = body := by
  have hname : line.status = name := Except.ok.inj (h.status.symm.trans hs)
  have hbody := h.body
  rw [hname, hb] at hbody
  exact ⟨hname, (Except.ok.inj hbody).symm⟩

theorem response_line {status : Scalar} {r : Value} {text : String}
    (h : (response ctx (.scalar status) r).exec l = (.ok text, l')) :
    (r.entriesIn = [] ∧ text = "") ∨
      (r.entriesIn ≠ [] ∧ ∃ line : ResponseLine, IsLineOf ctx line status r ∧ text = line.text) := by
  rcases response_ok h with ⟨hnone, htext, _⟩ | ⟨hsome, name, key, comment, body, hs, hk, hc, hb, htext⟩
  · exact .inl ⟨hnone, htext⟩
  · have hbody : bodyUnder ctx name r.entriesIn = .ok body := by
      unfold BodyOf at hb
      unfold bodyUnder
      split at hb
      · rename_i hhas
        rw [if_pos hhas]
        exact (result_of_exec (closed_content closed_additive.toClosed ctx _) hb).1
      · rename_i hhas
        rw [if_neg hhas, hb.1, (ofText_ok.mp hk).2, absentBody_keyOf]
    exact .inr ⟨hsome, ⟨name, comment, key.text, body⟩, ⟨hs, hc, by rw [hk]; rfl, hbody⟩, htext⟩

theorem responses_lines {entries : Entries} {text : String}
    (h : (responses ctx entries).exec l = (.ok text, l')) :
    ∃ lines : List ResponseLine, text = String.join (lines.map ResponseLine.text) ∧
      List.Forall₂ (fun e line => IsLineOf ctx line e.1 e.2) (declaredResponses entries) lines := by
  rw [responses_eq] at h
  obtain ⟨texts, rfl, hruns⟩ := inTurn_ok h
  clear h
  induction hruns with
  | nil => exact ⟨[], rfl, .nil⟩
  | @cons e rest _ _ _ _ _ first _ ih =>
    obtain ⟨lines, htext, hlines⟩ := ih
    rcases response_line first with ⟨hnone, rfl⟩ | ⟨hsome, line, hline, rfl⟩
    · refine ⟨lines, by rw [String.join_cons, htext, String.empty_append], ?_⟩
      rwa [declaredResponses, List.filter_cons_of_neg (by simp [hnone])]
    · refine ⟨line :: lines, by rw [List.map_cons, String.join_cons, String.join_cons, htext], ?_⟩
      rw [declaredResponses, List.filter_cons_of_pos (by simpa using hsome)]
      exact .cons hline hlines

/-- A response without a reference and without content has its body from the number of its status. -/
theorem response_bodiless {status : Scalar} {name : String} {r : Value} (hs : status.plain = .ok name)
    (hreadable : Readable name) (hr : r.entriesIn ≠ []) (hbody : hasBody r.entriesIn = false) :
    (response ctx (.scalar status) r).exec l =
      ((comment r.entriesIn).map fun comment => comment ++ (keyOf name).text ++ ": " ++
        (if LacksBody name then "never" else "unknown") ++ ";\n", l) := by
  obtain ⟨e, rest, he⟩ := List.exists_cons_of_ne_nil hr
  have hopened : r.opened = .map (e :: rest) := by
    unfold Value.entriesIn at he
    split at he
    · rename_i entries ho
      rw [ho, he]
    · cases he
  have hplain : (Value.scalar status).plain = .ok name := hs
  have hkey : StatusKey.ofText name = .ok (keyOf name) := ofText_ok.mpr ⟨hreadable, rfl⟩
  rw [he] at hbody ⊢
  unfold response
  rw [hopened]
  simp only [exec_bind, hplain, hkey, exec_lift, hbody]
  cases comment (e :: rest) with
  | error fault => rfl
  | ok comment =>
    change (Except.ok (comment ++ (keyOf name).text ++ ": " ++ absentBody (keyOf name) ++ "\n"), l) = _
    have hend : ";" ++ "\n" = ";\n" := by decide
    rw [absentBody_keyOf]
    simp only [String.append_assoc, hend]
    rfl

theorem statuses_nodup {entries : Entries} {lines : List ResponseLine} (hd : Entries.Distinct entries)
    (ht : ∀ e ∈ entries, ∃ s, e.1 = .text s)
    (h : List.Forall₂ (fun e line => IsLineOf ctx line e.1 e.2) entries lines) :
    (lines.map ResponseLine.status).Nodup := by
  have hkeys : entries.map (·.1) = (lines.map ResponseLine.status).map Scalar.text := by
    clear hd
    induction h with
    | nil => rfl
    | @cons e line _ _ hline _ ih =>
      obtain ⟨⟨s, hs⟩, hrest⟩ := List.forall_mem_cons.mp ht
      have hstatus := hline.status
      rw [hs] at hstatus
      rw [List.map_cons, List.map_cons, List.map_cons, ih hrest, hs, Except.ok.inj hstatus]
  exact List.Nodup.of_map Scalar.text (hkeys ▸ hd.nodup_keys)

theorem keys_alike {entries : Entries} {lines : List ResponseLine}
    (h : List.Forall₂ (fun e line => IsLineOf ctx line e.1 e.2) entries lines) :
    lines.Pairwise fun a b => a.key = b.key ↔ Alike a.status b.status := by
  have hkey : ∀ line ∈ lines, line.key = (keyOf line.status).text := by
    induction h with
    | nil => exact fun _ hmem => (by cases hmem)
    | cons hline _ ih => exact List.forall_mem_cons.mpr ⟨hline.key_eq.2, ih⟩
  refine List.pairwise_of_forall_mem_list fun a ha b hb => ?_
  rw [hkey a ha, hkey b hb]
  exact text_keyOf_iff

theorem keys_nodup {lines : List ResponseLine}
    (halike : lines.Pairwise fun a b => a.key = b.key ↔ Alike a.status b.status)
    (hstatuses : (lines.map ResponseLine.status).Nodup) (hnumbers : NumbersApart lines) :
    (lines.map ResponseLine.key).Nodup := by
  refine List.pairwise_map.mpr ?_
  refine ((halike.and (List.pairwise_map.mp hstatuses)).and hnumbers).imp ?_
  rintro a b ⟨⟨hiff, hstatus⟩, hnumber⟩ hkey
  rcases hiff.mp hkey with hsame | ⟨ha, hb, heq⟩
  · exact hstatus hsame
  · exact hnumber ha hb heq

/-- Statuses have one key where they are one text or numerals of one number. A response without a
reference and without content has no body but what its number says, and it is written unless its
description has no text. In the responses of an operation two keys agree where the texts of their
statuses are alike, so that statuses which are texts have keys of their own if no two of them are
numerals of one number. -/
theorem responses_keyed (ctx : Context) :
    (∀ a b : String, Readable a → Readable b →
      StatusKey.ofText a = .ok (keyOf a) ∧ StatusKey.ofText b = .ok (keyOf b) ∧
        ((keyOf a).text = (keyOf b).text ↔ Alike a b)) ∧
    (∀ (status : Scalar) (name : String) (r : Value) (l : Ledger),
      status.plain = .ok name → Readable name → r.entriesIn ≠ [] →
      Entries.has "$ref" r.entriesIn = false → (Value.field "content" r.entriesIn).truthy = false →
      (response ctx (.scalar status) r).exec l =
        ((comment r.entriesIn).map fun comment => comment ++ (keyOf name).text ++ ": " ++
          (if LacksBody name then "never" else "unknown") ++ ";\n", l)) ∧
    (∀ (entries : Entries) (text : String) (l l' : Ledger),
      (responses ctx entries).exec l = (.ok text, l') →
      ∃ lines : List ResponseLine, text = String.join (lines.map ResponseLine.text) ∧
        List.Forall₂ (fun e line => IsLineOf ctx line e.1 e.2) (declaredResponses entries) lines ∧
        (lines.Pairwise fun a b => a.key = b.key ↔ Alike a.status b.status) ∧
        (Entries.Distinct entries → (∀ e ∈ entries, ∃ s, e.1 = .text s) → NumbersApart lines →
          (lines.map ResponseLine.key).Nodup)) := by
  refine ⟨fun a b ha hb => ⟨ofText_ok.mpr ⟨ha, rfl⟩, ofText_ok.mpr ⟨hb, rfl⟩, text_keyOf_iff⟩, ?_, ?_⟩
  · intro status name r l hs hreadable hr href hcontent
    exact response_bodiless hs hreadable hr (by rw [hasBody, href, hcontent]; rfl)
  · intro entries text l l' h
    obtain ⟨lines, htext, hlines⟩ := responses_lines h
    refine ⟨lines, htext, hlines, keys_alike hlines, fun hd ht => ?_⟩
    have hdeclared : Entries.Distinct (declaredResponses entries) := hd.filter _
    exact keys_nodup (keys_alike hlines)
      (statuses_nodup hdeclared (fun e he => ht e (List.mem_filter.mp he).1) hlines)

def mixedResponses : Entries :=
  [(.text "200", .map [(.text "content", .map [(.text "application/json", .map
      [(.text "schema", .map [(.text "type", .text "string")])])])]),
    (.text "0204", .map [(.text "description", .text "Gone")]),
    (.text "default", .map [(.text "$ref", .text "#/components/responses/Error")])]

theorem keyed_mixedResponses : ∃ text l', (responses ⟨.map [], ""⟩ mixedResponses).exec .empty =
      (.ok text, l') ∧
    ∃ lines : List ResponseLine, text = String.join (lines.map ResponseLine.text) ∧
      List.Forall₂ (fun e line => IsLineOf ⟨.map [], ""⟩ line e.1 e.2) mixedResponses lines ∧
        lines.map ResponseLine.status = ["200", "0204", "default"] ∧
          lines.map ResponseLine.body = ["\x7b\n\"application/json\": string;\n\x7d", "never;",
            "components[\"responses\"][\"Error\"];"] ∧ (lines.map ResponseLine.key).Nodup := by
  have hrun : ∃ text, (responses ⟨.map [], ""⟩ mixedResponses).result = .ok text := ⟨_, rfl⟩
  obtain ⟨text, htext⟩ := hrun
  have hexec := exec_eq (responses ⟨.map [], ""⟩ mixedResponses)
  rw [htext] at hexec
  obtain ⟨lines, hjoin, hlines, -, hnodup⟩ := (responses_keyed ⟨.map [], ""⟩).2.2 _ _ _ _ hexec
  refine ⟨text, _, hexec, lines, hjoin, hlines, ?_⟩
  have hparts : lines.map ResponseLine.status = ["200", "0204", "default"] ∧
      lines.map ResponseLine.body = ["\x7b\n\"application/json\": string;\n\x7d", "never;",
        "components[\"responses\"][\"Error\"];"] := by
    cases hlines with | cons h₁ hrest =>
    cases hrest with | cons h₂ hrest =>
    cases hrest with | cons h₃ hrest =>
    cases hrest
    obtain ⟨hs₁, hb₁⟩ := h₁.parts rfl rfl
    obtain ⟨hs₂, hb₂⟩ := h₂.parts rfl rfl
    obtain ⟨hs₃, hb₃⟩ := h₃.parts rfl rfl
    simp only [List.map_cons, List.map_nil, hs₁, hs₂, hs₃, hb₁, hb₂, hb₃]
    decide +kernel
  have hnumbers : NumbersApart lines := by
    unfold NumbersApart
    rw [← List.pairwise_map (f := ResponseLine.status) (R := fun a b =>
      IsNumeral a → IsNumeral b → number a ≠ number b), hparts.1]
    decide +kernel
  refine ⟨hparts.1, hparts.2, hnodup (Entries.distinct_ofPairs mixedResponses) ?_ hnumbers⟩
  intro e he
  simp only [mixedResponses, List.mem_cons, List.not_mem_nil, or_false] at he
  rcases he with rfl | rfl | rfl <;> exact ⟨_, rfl⟩

/-- Leading zeros do not tell statuses apart, digits of other scripts do. -/
example : (keyOf "0304").text = (keyOf "304").text ∧ (keyOf "٣٠٤").text ≠ (keyOf "304").text ∧
    LacksBody "0304" ∧ ¬LacksBody "٣٠٤" := by decide +kernel

end Operation

end ApiTypes
