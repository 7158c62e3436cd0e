import ApiTypes.Proofs.Outcome
import ApiTypes.Proofs.Reference.Address

/-!
# Pointers made from names

A pointer is written from names by escaping each of them and putting a slash in front.
Reading it back gives the names, whatever characters are in them: the lookup goes down
under the names, and the expression has an index for each of them.
-/

set_option autoImplicit false

namespace ApiTypes.Reference

open Text (replaceChar)

/-- The segment of a pointer that stands for a name: first `~0` for tildes, then `~1` for slashes. -/
def escape (name : List Char) : List Char :=
  replaceChar '/' ['~', '1'] (replaceChar '~' ['~', '0'] name)

def escaped (name : String) : String := String.ofList (escape name.toList)

def pointer (names : List String) : String := "#/" ++ Text.join "/" (names.map escaped)

def indexed (names : List String) : String := String.join (names.map fun n => "[\"" ++ n ++ "\"]")

/-- What is found when the names are followed, through mappings only, as far as they are there. -/
inductive Leads : Value → List String → Option Value → Prop
  | here (v : Value) : Leads v [] (some v)
  | missing {v : Value} {entries : Entries} {name : String} {names : List String}
      (hv : v.opened = .map entries) (hname : Entries.get? name entries = none) :
      Leads v (name :: names) none
  | down {v next : Value} {entries : Entries} {name : String} {names : List String}
      {found : Option Value} (hv : v.opened = .map entries)
      (hname : Entries.get? name entries = some next) (hnext : Leads next names found) :
      Leads v (name :: names) found

theorem follow_leads {v : Value} {names : List String} {found : Option Value}
    (h : Leads v names found) : follow v names = found := by
  induction h with
  | here v => rfl
  | missing hv hname => simp [follow, step, hv, hname]
  | down hv hname _ ih =>
    rw [← ih]
    simp [follow, step, hv, hname]

theorem replaceChar_cons (c d : Char) (new s : List Char) :
    replaceChar c new (d :: s) = (if d = c then new else [d]) ++ replaceChar c new s := rfl

/-- Reading back the tildes is the last step: in front of it only the slashes have been read. -/
theorem replacePair_escape (name : List Char) :
    Text.replacePair '~' '1' ['/'] (escape name) = replaceChar '~' ['~', '0'] name := by
  unfold escape
  induction name with
  | nil => rfl
  | cons c rest ih =>
    rw [replaceChar_cons]
    by_cases htilde : c = '~'
    · subst htilde
      simpa [replaceChar_cons, Text.replacePair, Text.replacePair_cons] using ih
    · by_cases hslash : c = '/'
      · subst hslash
        simpa [replaceChar_cons, Text.replacePair] using ih
      · simpa [replaceChar_cons, htilde, hslash, Text.replacePair_cons htilde] using ih

theorem unescape_escape (name : List Char) : unescape (escape name) = name := by
  rw [unescape, replacePair_escape]
  induction name with
  | nil => rfl
  | cons c rest ih =>
    rw [replaceChar_cons]
    by_cases htilde : c = '~'
    · subst htilde
      simpa [Text.replacePair] using ih
    · simpa [htilde, Text.replacePair_cons htilde] using ih

theorem slash_not_mem_escape (name : List Char) : '/' ∉ escape name := by
  unfold escape replaceChar
  intro h
  obtain ⟨c, _, hc⟩ := List.mem_flatMap.mp h
  split at hc
  · simp at hc
  · rename_i hne
    exact hne (List.mem_singleton.mp hc).symm

theorem escape_ne_nil {name : List Char} (h : name ≠ []) : escape name ≠ [] := by
  intro he
  rw [← unescape_escape name, he] at h
  exact h rfl

section Names

variable {names : List String}

def path (names : List String) : List Char := (Text.join "/" (names.map escaped)).toList

theorem pointer_toList (names : List String) : (pointer names).toList = '#' :: '/' :: path names := by
  rw [pointer, String.toList_append]
  rfl

theorem split_path (hne : names ≠ []) :
    Text.split '/' (path names) = names.map fun n => escape n.toList := by
  have hfree : ∀ t ∈ names.map escaped, '/' ∉ t.toList := by
    intro t ht
    obtain ⟨n, _, rfl⟩ := List.mem_map.mp ht
    rw [escaped, String.toList_ofList]
    exact slash_not_mem_escape _
  rw [path, Text.split_join rfl (by simpa using hne) hfree, List.map_map]
  exact List.map_congr_left fun n _ => String.toList_ofList

theorem index_path (hne : names ≠ []) : index (Text.split '/' (path names)) = (indexed names).toList := by
  rw [split_path hne, index, indexed, String.toList_join, List.flatMap_map, List.flatMap_map]
  congr 1
  funext n
  simp [unescape_escape, bracket]

theorem target_pointer {d suffix : String} (hs : suffix ∈ suffixTexts) (hd : d.toList.head? ≠ some '#')
    (hfree : ¬['#', '/'] <:+: d.toList) :
    target (d ++ suffix ++ pointer names) = .outside d.toList (path names) := by
  have hsuffix : '/' ∉ suffix.toList ∧ suffix.toList.head? = some '.' := by
    simp only [suffixTexts, List.mem_cons, List.not_mem_nil, or_false] at hs
    rcases hs with rfl | rfl | rfl <;> decide
  have hhead : (d ++ suffix ++ pointer names).toList.head? ≠ some '#' := by
    rw [String.toList_append, String.toList_append, List.head?_append, List.head?_append]
    cases hc : d.toList.head? with
    | none => simp [hsuffix.2]
    | some c => simpa [hc] using hd
  have hpair : ¬['#', '/'] <:+: (d ++ suffix).toList := by
    rw [String.toList_append]
    exact fun h => hfree (Text.pair_infix_append hsuffix.1 h)
  rw [target, ofChars_outside hhead, String.toList_append, pointer_toList,
    Text.cutPair_at (by decide) hpair, String.toList_append, documentKey_suffix hs, Option.getD_some]

variable (hnames : ∀ n ∈ names, n ≠ "")

include hnames

theorem segments_pointer (hne : names ≠ []) : segments ('/' :: path names) = names := by
  have hkeep : ∀ s ∈ names.map fun n => escape n.toList, (!s.isEmpty) = true := by
    intro s hs
    obtain ⟨n, hn, rfl⟩ := List.mem_map.mp hs
    simpa using escape_ne_nil (by simpa using hnames n hn)
  rw [segments, Text.split, if_pos rfl, split_path hne, List.filter_cons_of_neg (by simp),
    List.filter_eq_self.mpr hkeep, List.map_map]
  refine (List.map_congr_left fun n _ => ?_).trans (List.map_id _)
  simp [unescape_escape]

theorem lookup_pointer (hne : names ≠ []) (document : Value) :
    lookup document (pointer names) = follow document names := by
  unfold lookup
  rw [pointer_toList]
  exact congrArg _ (segments_pointer hnames hne)

theorem path_eq_cons (hne : names ≠ []) : ∃ c rest, path names = c :: rest ∧ c ≠ '/' := by
  obtain ⟨n, more, rfl⟩ := List.exists_cons_of_ne_nil hne
  have hsegment : escape n.toList ≠ [] := escape_ne_nil (by simpa using hnames n (by simp))
  have hpieces := split_path hne
  rw [List.map_cons] at hpieces
  cases hp : path (n :: more) with
  | nil =>
    rw [hp] at hpieces
    exact (hsegment (List.cons.inj hpieces).1.symm).elim
  | cons c rest =>
    refine ⟨c, rest, rfl, fun hc => ?_⟩
    rw [hp, Text.split, if_pos hc] at hpieces
    exact hsegment (List.cons.inj hpieces).1.symm

theorem expression_pointer (hne : names ≠ []) {root : String} (hroot : '/' ∉ root.toList) :
    expression (root ++ "/") (pointer names) = root ++ indexed names := by
  obtain ⟨c, rest, hp, hc⟩ := path_eq_cons hnames hne
  have hkeep : (path names).dropWhile (· = '/') = path names := by
    rw [hp, List.dropWhile_cons_of_neg (by simpa using hc)]
  have htarget : target (pointer names) = .inside (path names) := by
    rw [target, pointer_toList]
    exact congrArg Target.inside hkeep
  have haddress : address (root.toList ++ '/' :: path names) = root.toList ++ (indexed names).toList := by
    rw [address, Text.split_append hroot]
    exact congrArg (root.toList ++ ·) (index_path hne)
  rw [expression, htarget]
  apply String.toList_inj.mp
  rw [String.toList_ofList, String.toList_append, String.toList_append, ← haddress]
  change address (root.toList ++ ['/'] ++ path names) = _
  rw [List.append_assoc]
  rfl

theorem expression_outside (hne : names ≠ []) {ref key : String}
    (h : target ref = .outside key.toList (path names)) (root : String) :
    expression root ref = "external[\"" ++ key ++ "\"]" ++ indexed names := by
  obtain ⟨c, rest, hp, _⟩ := path_eq_cons hnames hne
  have hsome : (path names).isEmpty = false := by rw [hp, List.isEmpty_cons]
  rw [expression, h]
  apply String.toList_inj.mp
  rw [String.toList_ofList]
  change "external".toList ++ bracket key.toList ++
    (if (path names).isEmpty then [] else index (Text.split '/' (path names))) = _
  rw [hsome, if_neg Bool.false_ne_true, index_path hne]
  simp [bracket]

end Names

/-- Reading a pointer made from names gives the names: the lookup finds what they lead to, the
expression has an index for each of them behind the root, and behind the key of another document,
which is recorded. -/
theorem read_pointer {names : List String} (hne : names ≠ []) (hnames : ∀ n ∈ names, n ≠ "") :
    (∀ document found, Leads document names found → lookup document (pointer names) = found) ∧
    (∀ l, (Compose.refer "schemas/" (pointer names)).exec l = (.ok ("schemas" ++ indexed names), l)) ∧
    ∀ d suffix : String, suffix ∈ suffixTexts → d.toList.head? ≠ some '#' →
      ¬['#', '/'] <:+: d.toList → ∀ root l,
        (Compose.refer root (d ++ suffix ++ pointer names)).exec l =
            (.ok ("external[\"" ++ d ++ "\"]" ++ indexed names), l.addExternal d) ∧
          d ∈ (l.addExternal d).externals := by
  refine ⟨fun document found h => ?_, fun l => ?_, fun d suffix hs hd hfree root l => ⟨?_, ?_⟩⟩
  · rw [lookup_pointer hnames hne]
    exact follow_leads h
  · have hinside : externalKey? (pointer names) = none := by
      rw [externalKey_eq, pointer_toList]
      rfl
    rw [Compose.refer_ok, hinside]
    exact ⟨(expression_pointer hnames hne (by decide)).symm, rfl⟩
  · have htarget : target (d ++ suffix ++ pointer names) = .outside d.toList (path names) :=
      target_pointer hs hd hfree
    have hkey : externalKey? (d ++ suffix ++ pointer names) = some d := by
      rw [externalKey?, htarget]
      exact congrArg some String.ofList_toList
    rw [Compose.refer_ok, hkey]
    exact ⟨(expression_outside hnames hne htarget root).symm, rfl⟩
  · unfold Ledger.addExternal
    split
    · assumption
    · simp

/-- Names with the signs of a pointer in them, and the document in which they lead to a text. -/
def oddNames : List String := ["~1", "/", "~01", "#/", ".json"]

def oddDocument : Value :=
  oddNames.foldr (fun name v => .map [(.text name, v)]) (.text "here")

theorem read_pointer_oddNames : (oddNames ≠ [] ∧ (∀ n ∈ oddNames, n ≠ "") ∧
      Leads oddDocument oddNames (some (.text "here")) ∧ ".yml" ∈ suffixTexts ∧
      "a#.json".toList.head? ≠ some '#' ∧ ¬['#', '/'] <:+: "a#.json".toList) ∧
    pointer oddNames = "#/~01/~1/~001/#~1/.json" ∧
    lookup oddDocument (pointer oddNames) = some (.text "here") ∧
    (Compose.refer "" ("a#.json" ++ ".yml" ++ pointer oddNames)).exec .empty =
      (.ok "external[\"a#.json\"][\"~1\"][\"/\"][\"~01\"][\"#/\"][\".json\"]",
        ⟨["a#.json"], [], []⟩) := by
  have hne : oddNames ≠ [] := by decide
  have hnames : ∀ n ∈ oddNames, n ≠ "" := by decide
  have hleads : Leads oddDocument oddNames (some (.text "here")) :=
    .down rfl rfl (.down rfl rfl (.down rfl rfl (.down rfl rfl (.down rfl rfl (.here _)))))
  have hsuffix : ".yml" ∈ suffixTexts := by decide
  have hhead : "a#.json".toList.head? ≠ some '#' := by decide
  have hfree : ¬['#', '/'] <:+: "a#.json".toList := by decide
  obtain ⟨hlookup, -, hrefer⟩ := read_pointer hne hnames
  have htext : "external[\"" ++ "a#.json" ++ "\"]" ++ indexed oddNames =
      "external[\"a#.json\"][\"~1\"][\"/\"][\"~01\"][\"#/\"][\".json\"]" := by decide
  refine ⟨⟨hne, hnames, hleads, hsuffix, hhead, hfree⟩, by decide, hlookup _ _ hleads, ?_⟩
  rw [(hrefer _ _ hsuffix hhead hfree "" .empty).1, htext]
  rfl

end ApiTypes.Reference
