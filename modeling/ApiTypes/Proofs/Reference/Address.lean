import ApiTypes.Proofs.Text.Pieces
import ApiTypes.Reference.Lookup

/-!
# What references are addressed by

A reference into another document begins at the slot of that document's key, and
the key does not depend on the suffix of the document or on the pointer into it.
A reference to a component is addressed by its section and its name.
-/

set_option autoImplicit false

namespace ApiTypes.Reference

def documentName (ref : String) : String := String.ofList (Text.cutPair '#' '/' ref.toList).1

theorem ofChars_outside {s : List Char} (h : s.head? ≠ some '#') : Target.ofChars s =
    .outside (documentKeyChars (Text.cutPair '#' '/' s).1) ((Text.cutPair '#' '/' s).2.getD []) := by
  unfold Target.ofChars
  split
  · exact (h rfl).elim
  · rfl

theorem externalKey_eq (ref : String) : externalKey? ref =
    if ref.toList.head? = some '#' then none else some (documentKey (documentName ref)) := by
  unfold externalKey? target documentKey documentName
  generalize ref.toList = cs
  rw [String.toList_ofList]
  by_cases h : cs.head? = some '#'
  · obtain ⟨rest, rfl⟩ := List.head?_eq_some_iff.mp h
    rfl
  · rw [ofChars_outside h, if_neg h]
    rfl

theorem expression_external {root ref key : String} (h : externalKey? ref = some key) :
    ∃ rest, expression root ref = "external[\"" ++ key ++ "\"]" ++ rest := by
  unfold externalKey? at h
  cases ht : target ref with
  | inside path =>
    rw [ht] at h
    cases h
  | outside k path =>
    rw [ht] at h
    cases h
    refine ⟨String.ofList (if path.isEmpty then [] else index (Text.split '/' path)), ?_⟩
    have he : (Target.outside k path).expression root.toList = "external[\"".toList ++ k ++
        "\"]".toList ++ (if path.isEmpty then [] else index (Text.split '/' path)) := by
      change "external".toList ++ ('[' :: '"' :: (k ++ ['"', ']'])) ++ _ = _
      simp
    rw [expression, ht, he]
    apply String.toList_inj.mp
    simp

/-- The suffixes, as they stand behind the name of a document. -/
def suffixTexts : List String := [".json", ".yaml", ".yml"]

theorem documentKey_suffix {suffix : String} (h : suffix ∈ suffixTexts) (d : List Char) :
    documentKeyChars (d ++ suffix.toList) = d := by
  have hdrop : dropSuffix? (d ++ suffix.toList) = some d := by
    simp only [suffixTexts, List.mem_cons, List.not_mem_nil, or_false] at h
    rcases h with rfl | rfl | rfl <;>
      simp [dropSuffix?, suffixes, Text.dropEnd?, List.isSuffixOf]
  rw [documentKeyChars, hdrop]

/-- A pointer into a document: nothing, or a path behind `#/`. -/
def IsPointer (p : String) : Prop := p = "" ∨ ∃ path, p = "#/" ++ path

theorem externalKey_document (d : String) {suffix p : String} (hs : suffix ∈ suffixTexts)
    (hp : IsPointer p) : externalKey? (d ++ suffix ++ p) =
      if d.toList.head? = some '#' then none
      else some (String.ofList (if (Text.cutPair '#' '/' d.toList).2.isSome
        then documentKeyChars (Text.cutPair '#' '/' d.toList).1 else d.toList)) := by
  have hpointer : p.toList = [] ∨ ∃ u, p.toList = '#' :: '/' :: u := by
    rcases hp with rfl | ⟨path, rfl⟩
    · exact .inl rfl
    · exact .inr ⟨path.toList, by simp⟩
  have hfree : '#' ∉ suffix.toList ∧ '/' ∉ suffix.toList ∧ suffix.toList.head? = some '.' := by
    simp only [suffixTexts, List.mem_cons, List.not_mem_nil, or_false] at hs
    rcases hs with rfl | rfl | rfl <;> decide
  have hhead : (d ++ suffix ++ p).toList.head? = some '#' ↔ d.toList.head? = some '#' := by
    rw [String.toList_append, String.toList_append]
    cases d.toList with
    | nil =>
      obtain ⟨c, r, hc⟩ := List.exists_cons_of_ne_nil (l := suffix.toList) (by
        intro h
        rw [h] at hfree
        cases hfree.2.2)
      have hdot : c = '.' := by simpa [hc] using hfree.2.2
      simp [hc, hdot]
    | cons c r => rfl
  have hname : (Text.cutPair '#' '/' (d ++ suffix ++ p).toList).1 =
      if (Text.cutPair '#' '/' d.toList).2.isSome then (Text.cutPair '#' '/' d.toList).1
      else d.toList ++ suffix.toList := by
    rw [String.toList_append, Text.cutPair_before (by decide) hpointer, String.toList_append]
    exact Text.cutPair_after hfree.1 hfree.2.1 d.toList
  rw [externalKey_eq]
  by_cases hd : d.toList.head? = some '#'
  · rw [if_pos hd, if_pos (hhead.mpr hd)]
  · rw [if_neg hd, if_neg fun h => hd (hhead.mp h), documentName, hname, documentKey,
      String.toList_ofList]
    by_cases hcut : (Text.cutPair '#' '/' d.toList).2.isSome = true
    · rw [if_pos hcut, if_pos hcut]
    · rw [if_neg hcut, if_neg hcut, documentKey_suffix hs]

theorem externalKey_shared (d : String) {s t p q : String} (hs : s ∈ suffixTexts) (ht : t ∈ suffixTexts)
    (hp : IsPointer p) (hq : IsPointer q) : externalKey? (d ++ s ++ p) = externalKey? (d ++ t ++ q) := by
  rw [externalKey_document d hs hp, externalKey_document d ht hq]

def componentRef (part segment : String) : String := "#/components/" ++ part ++ "/" ++ segment

def segmentName (segment : String) : String := String.ofList (unescape segment.toList)

def componentAddress (part name : String) : String :=
  "components[\"" ++ part ++ "\"][\"" ++ name ++ "\"]"

variable {part segment : String}

theorem componentRef_toList (part segment : String) : (componentRef part segment).toList =
    '#' :: '/' :: ("components".toList ++ '/' :: (part.toList ++ '/' :: segment.toList)) := by
  unfold componentRef
  simp

theorem unescape_of_not_mem {s : List Char} (h : '~' ∉ s) : unescape s = s := by
  rw [unescape, Text.replacePair_of_not_mem h, Text.replacePair_of_not_mem h]

theorem split_component (hpart : '/' ∉ part.toList) (hsegment : '/' ∉ segment.toList) :
    Text.split '/' ("components".toList ++ '/' :: (part.toList ++ '/' :: segment.toList)) =
      ["components".toList, part.toList, segment.toList] := by
  rw [Text.split_append (by decide), Text.split_append hpart, Text.split_of_not_mem hsegment]

theorem expression_component (hpart : '/' ∉ part.toList) (hplain : '~' ∉ part.toList)
    (hsegment : '/' ∉ segment.toList) :
    expression "" (componentRef part segment) = componentAddress part (segmentName segment) := by
  have htarget : target (componentRef part segment) =
      .inside ("components".toList ++ '/' :: (part.toList ++ '/' :: segment.toList)) := by
    rw [target, componentRef_toList]
    rfl
  have haddress : (Target.inside ("components".toList ++ '/' ::
      (part.toList ++ '/' :: segment.toList))).expression "".toList = "components".toList ++
        (bracket part.toList ++ bracket (unescape segment.toList)) := by
    change address ("components".toList ++ '/' :: (part.toList ++ '/' :: segment.toList)) = _
    rw [address, split_component hpart hsegment]
    change _ ++ (bracket (unescape part.toList) ++ (bracket (unescape segment.toList) ++ [])) = _
    rw [unescape_of_not_mem hplain, List.append_nil]
  rw [expression, htarget, haddress]
  apply String.toList_inj.mp
  unfold componentAddress segmentName
  simp [bracket]

theorem lookup_component (document : Value) (hpart : '/' ∉ part.toList) (hplain : '~' ∉ part.toList)
    (hne : part ≠ "") (hsegment : '/' ∉ segment.toList) (hnamed : segment ≠ "") :
    lookup document (componentRef part segment) =
      follow document ["components", part, segmentName segment] := by
  have hsegments : segments
      ('/' :: ("components".toList ++ '/' :: (part.toList ++ '/' :: segment.toList))) =
        ["components", part, segmentName segment] := by
    have hpart' : part.toList.isEmpty = false := by simpa using hne
    have hsegment' : segment.toList.isEmpty = false := by simpa using hnamed
    rw [segments, Text.split, if_pos rfl, split_component hpart hsegment,
      List.filter_cons_of_neg (by simp), List.filter_cons_of_pos (by simp),
      List.filter_cons_of_pos (by simp [hpart']), List.filter_cons_of_pos (by simp [hsegment'])]
    simp only [List.filter_nil, List.map_cons, List.map_nil, unescape_of_not_mem hplain,
      String.ofList_toList]
    rfl
  unfold lookup
  rw [componentRef_toList]
  exact congrArg (follow document) hsegments

end ApiTypes.Reference
