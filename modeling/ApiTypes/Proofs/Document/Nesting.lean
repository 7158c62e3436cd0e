import ApiTypes.Proofs.Document.Names
import ApiTypes.Proofs.Reference.Imports

/-!
# The brackets of a generated text are nested

Whatever a document holds as descriptions, enumerated values and nodes of no known
kind, the text generated for it is read to its end, and every bracket outside of
quotations and comments is closed by its own. Only the names that are written between
double quotes have to be names that can stand there.
-/

set_option autoImplicit false

namespace ApiTypes

open Compose TypeText

section Names

variable {a b : List Char} {name before rest : String}

theorem moves_named {behind : String} (h : Quotable name.toList) (hr : Moves a b rest)
    (hb : behind = "\"" ++ rest) : Moves a b ("\"" ++ name ++ behind) := by
  have htext : "\"" ++ name ++ behind = ("\"" ++ name ++ "\"") ++ rest := by
    rw [hb]
    simp only [String.append_assoc]
  rw [htext]
  exact ((flat_name h).below a).append hr

theorem flat_colon : Flat ": " := moves_of_moved (by decide)

theorem flat_declared (hb : Flat before) (h : Quotable name.toList) :
    Flat (before ++ "\"" ++ name ++ "\": ") := by
  have htext : before ++ "\"" ++ name ++ "\": " = before ++ ("\"" ++ name ++ "\": ") := by
    simp only [String.append_assoc]
  rw [htext]
  exact hb.append (moves_named h flat_colon rfl)

end Names

theorem flat_mapM {α : Type} {as : List α} {f : α → Except Fault String} {texts : List String}
    (h : as.mapM f = .ok texts) (hf : ∀ a ∈ as, ∀ t, f a = .ok t → Flat t) :
    Flat (String.join texts) := by
  apply flat_join
  intro t ht
  obtain ⟨a, ha, hrun⟩ := except_mapM_mem h ht
  exact hf a ha t hrun

namespace ParameterField

theorem flat_render {f : ParameterField} {name : Scalar} {text : String}
    (hn : Quotable (Value.keyName name)) (ht : Level f.type) (h : f.render name = .ok text) : Flat text := by
  unfold render at h
  obtain ⟨comment, hc, h⟩ := except_bind_ok.mp h
  obtain ⟨name, hk, h⟩ := except_bind_ok.mp h
  cases h
  rw [keyName_of_plain hk] at hn
  exact ht.between ((flat_description hc).append (flat_fieldHead hn f.required))
    (moves_of_moved (by decide)) (by decide)

end ParameterField

namespace ParameterGroups

theorem flat_renderGroup {location : Scalar} {fields : List (Scalar × ParameterField)} {text : String}
    (hl : Quotable (Value.keyName location))
    (hf : ∀ f ∈ fields, Quotable (Value.keyName f.1) ∧ Level f.2.type)
    (h : renderGroup location fields = .ok text) : Flat text := by
  unfold renderGroup renderFields at h
  obtain ⟨name, hk, h⟩ := except_bind_ok.mp h
  obtain ⟨body, hbody, h⟩ := except_bind_ok.mp h
  obtain ⟨texts, hm, hjoin⟩ := except_bind_ok.mp hbody
  cases h
  cases hjoin
  rw [keyName_of_plain hk] at hl
  have hfields : Flat (String.join texts) :=
    flat_mapM hm fun f hmem _ => ParameterField.flat_render (hf f hmem).1 (hf f hmem).2
  have hopen : Moves [] ['\x7d'] ": \x7b\n" := moves_of_moved (by decide)
  exact hfields.between (moves_named hl hopen rfl) (moves_of_moved (by decide))

theorem flat_render {groups : ParameterGroups} {text : String} (h : groups.render = .ok text)
    (hn : ∀ n ∈ groups.names, Quotable n) (ht : ∀ g ∈ groups, ∀ f ∈ g.2, Level f.2.type) :
    Flat text := by
  unfold render at h
  obtain ⟨texts, hm, h⟩ := except_bind_ok.mp h
  cases h
  have hgroups : Flat (String.join texts) := by
    refine flat_mapM hm fun g hg _ => flat_renderGroup ?_ fun f hf => ⟨?_, ht g hg f hf⟩
    · exact hn _ (List.mem_flatMap.mpr ⟨g, hg, by simp⟩)
    · exact hn _ (List.mem_flatMap.mpr ⟨g, hg, List.mem_cons_of_mem _ (List.mem_map_of_mem hf)⟩)
  exact hgroups.between (moves_of_moved (b := ['\x7d']) (by decide)) (moves_of_moved (by decide))

end ParameterGroups

namespace Parameters

variable {ctx : Context} {l l' : Ledger}

theorem level_slot (hroot : ctx.root = "") {p : Value} {s : Slot}
    (hc : Clean "" (entryNames p) (entryReferences ctx p)) (h : (slot ctx p).exec l = (.ok (some s), l')) :
    Level s.field.type := by
  unfold entryNames entryReferences at hc
  cases slot_ok h with
  | referred hp href htarget hplace htype =>
    simp only [hp, href, htarget, Option.any_some, hplace] at hc
    rw [(refer_ok.mp htype).1]
    exact level_reference (hc.references _ (by simp))
  | @given entries _ _ hp href hplace htype =>
    rw [Value.entriesIn_of_map hp] at hc
    have hno : Entries.has "$ref" entries = false := by rw [Entries.has, href]; rfl
    simp only [hp, href, hno] at hc
    rw [hroot] at htype
    exact Schema.level_compose _ hc htype

theorem samePlace_congr {location name location' name' : Scalar}
    (h : (location'.same location && name'.same name) = true) (q : Value × Value) :
    samePlace (.scalar location', .scalar name') q = samePlace (.scalar location, .scalar name) q := by
  obtain ⟨hl, hn⟩ := Bool.and_eq_true_iff.mp h
  obtain ⟨c, d⟩ := q
  cases c with
  | scalar c =>
    cases d with
    | scalar d => rw [samePlace, samePlace, Scalar.same_congr hl, Scalar.same_congr hn]
    | _ => rfl
  | _ => rfl

/-- The fields that no later entry replaces are level at the end if they are on the way. -/
theorem level_groupOnto (hroot : ctx.root = "") {items : List Value} {groups final : ParameterGroups}
    (hc : Clean "" ((retained ctx items).flatMap entryNames)
      ((retained ctx items).flatMap (entryReferences ctx)))
    (hkept : ∀ location name f, groups.Holds location name f →
      (items.filterMap (entryPlace? ctx)).any (samePlace (.scalar location, .scalar name)) = false →
        Level f.type)
    (hapart : groups.Apart) (h : (groupOnto ctx groups items).exec l = (.ok final, l')) :
    final.Apart ∧ ∀ location name f, final.Holds location name f → Level f.type := by
  induction items generalizing groups l with
  | nil =>
    cases h
    exact ⟨hapart, fun location name f hf => hkept location name f hf rfl⟩
  | cons p rest ih =>
    rw [groupOnto] at h
    obtain ⟨s, l₁, hs, h⟩ := exec_bind_ok.mp h
    obtain ⟨hplace, _⟩ := resolves_slot hroot hs
    rw [retained, ← hplace] at hc
    rw [List.filterMap_cons, ← hplace] at hkept
    cases s with
    | none => exact ih hc hkept hapart h
    | some s =>
      obtain ⟨next, l₂, hn, hgo⟩ := exec_bind_ok.mp h
      obtain ⟨location', name', hl, hm, rfl⟩ := place_ok (exec_lift_ok.mp hn).1
      rw [Option.map_some, hl, hm] at hc hkept
      dsimp only at hc hkept
      refine ih ?_ ?_ (hapart.put _ _ _) hgo
      · split at hc
        · exact hc
        · rw [List.flatMap_cons, List.flatMap_cons] at hc
          exact hc.right
      · intro location name f hf hfree
        rcases ParameterGroups.holds_of_put hf with ⟨hsame, rfl⟩ | ⟨hother, hold⟩
        · have hlater : (rest.filterMap (entryPlace? ctx)).any
              (samePlace (.scalar location', .scalar name')) = false := by
            rw [← hfree]
            congr 1
            funext q
            exact samePlace_congr hsame q
          rw [if_neg (by simp [hlater]), List.flatMap_cons, List.flatMap_cons] at hc
          exact level_slot hroot hc.left hs
        · refine hkept location name f hold ?_
          rw [List.any_cons, hfree, Bool.or_false, samePlace, Scalar.same_comm location,
            Scalar.same_comm name]
          exact hother

theorem flat_composeIfAny (hroot : ctx.root = "") {parameters : Value} {text : String}
    (hc : Clean "" (names ctx parameters) (shown ctx parameters))
    (h : (composeIfAny ctx parameters).exec l = (.ok text, l')) : Flat text := by
  unfold composeIfAny at h
  split at h
  · rename_i ht
    unfold compose at h
    obtain ⟨groups, l₁, hg, hend⟩ := exec_bind_ok.mp h
    have hr := (exec_lift_ok.mp hend).1
    have hgroups : groupsOf ctx parameters = groups := by
      obtain ⟨l₂, hempty⟩ := (closed_group closed_plain ctx parameters).exec_ok hg .empty
      rw [groupsOf, hempty]
    unfold shown at hc
    rw [names, if_pos ht, hgroups] at hc
    have hentries : Clean "" ((retained ctx (entriesOf parameters)).flatMap entryNames)
        ((retained ctx (entriesOf parameters)).flatMap (entryReferences ctx)) :=
      ⟨fun n hn => hc.names n (List.mem_append_right _ hn), hc.references⟩
    obtain ⟨hapart, hlevel⟩ := level_groupOnto hroot hentries (by rintro _ _ _ ⟨_, hnone, _⟩; cases hnone)
      ParameterGroups.apart_nil (group_ok hg)
    exact ParameterGroups.flat_render hr (fun n hn => hc.names n (List.mem_append_left _ hn))
      fun g hg f hf => hlevel _ _ _ (hapart.holds hg hf)
  · cases h
    exact flat_empty

end Parameters

theorem flat_inTurn {α : Type} {f : α → Compose String} {as : List α} {ns : α → List (List Char)}
    {rs : α → List String} {root text : String} {l l' : Ledger}
    (hc : Clean root (as.flatMap ns) (as.flatMap rs)) (h : (inTurn f as).exec l = (.ok text, l'))
    (hf : ∀ a t l l', Clean root (ns a) (rs a) → (f a).exec l = (.ok t, l') → Flat t) : Flat text := by
  obtain ⟨ts, rfl, hruns⟩ := inTurn_ok h
  apply flat_join
  intro t ht
  obtain ⟨a, ha, l₁, l₂, hrun⟩ := hruns.mem ht
  exact hf a t l₁ l₂ (hc.of_mem ha) hrun

namespace Operation

variable {ctx : Context} {l l' : Ledger}

theorem flat_mediaType (hroot : ctx.root = "") {e : Scalar × Value} {text : String}
    (hc : Clean "" (Value.keyName e.1 :: (Schema.ofValue (Value.field "schema" e.2.entriesIn)).names)
      (Schema.ofValue (Value.field "schema" e.2.entriesIn)).references)
    (h : (mediaType ctx e.1 e.2).exec l = (.ok text, l')) : Flat text := by
  rw [mediaType_eq] at h
  obtain ⟨name, l₁, hn, hgo⟩ := exec_bind_ok.mp h
  obtain ⟨type, l₂, ht, hend⟩ := exec_bind_ok.mp hgo
  cases hend
  rw [composeType, hroot] at ht
  have hname : Quotable name.toList := hc.quotable (exec_lift_ok.mp hn).1
  have hhead : Flat ("\"" ++ name ++ "\": ") := moves_named hname flat_colon rfl
  exact (Schema.level_compose _ hc.tail ht).between hhead (moves_of_moved (by decide)) (by decide)

theorem flat_mediaTypes (hroot : ctx.root = "") {entries : Entries} {text : String}
    (hc : Clean "" (mediaNames entries) (mediaReferences entries))
    (h : (mediaTypes ctx entries).exec l = (.ok text, l')) : Flat text := by
  rw [mediaTypes_eq] at h
  exact flat_inTurn hc h fun _ _ _ _ => flat_mediaType hroot

theorem flat_content (hroot : ctx.root = "") {container : Value} {text : String}
    (hc : Clean "" (contentNames container) (contentReferences container))
    (h : (content ctx container).exec l = (.ok text, l')) : Flat text := by
  unfold contentNames contentReferences Entries.has at hc
  rcases content_ok h with ⟨ref, expression, hv, he, rfl⟩ | ⟨hv, types, ht, rfl⟩
  · rw [hv] at hc
    rw [(refer_ok.mp he).1]
    exact (level_reference (hc.references ref (by simp))).append_moves (moves_of_moved (by decide))
      (by decide)
  · rw [hv] at hc
    have htypes := flat_mediaTypes hroot hc ht
    exact htypes.between (moves_of_moved (b := ['\x7d']) (by decide)) (moves_of_moved (by decide))

theorem level_statusKey {status : Scalar} {name : String} {key : StatusKey}
    (hs : status.plain = .ok name) (hk : StatusKey.ofText name = .ok key)
    (hc : ∀ n ∈ statusNames status, Quotable n) : Level key.text := by
  rw [statusNames, keyName_of_plain hs] at hc
  unfold StatusKey.ofText at hk
  rw [hk] at hc
  cases key with
  | code n =>
    have hdigits : (StatusKey.code n).text.toList = Nat.toDigits 10 n := Nat.toList_repr
    exact level_word (hdigits ▸ wordlike_digits n) (hdigits ▸ Nat.toDigits_ne_nil)
  | default => exact level_word (by decide) (by decide)
  | other s => exact (flat_name (hc s.toList (by simp))).spans

theorem flat_response (hroot : ctx.root = "") {e : Scalar × Value} {text : String}
    (hc : Clean "" (responseNames e) (responseReferences e.2))
    (h : (response ctx (.scalar e.1) e.2).exec l = (.ok text, l')) : Flat text := by
  unfold responseNames responseReferences at hc
  rcases response_ok h with ⟨_, rfl, _⟩ | ⟨hne, name, key, comment, body, hs, hk, hd, hbody, rfl⟩
  · exact flat_empty
  · have hsome : e.2.entriesIn.isEmpty = false := by simpa using hne
    rw [if_neg (by simp [hsome])] at hc
    have hhead : Flat (comment ++ key.text ++ ": ") :=
      ((flat_description hd).append_spans (level_statusKey hs hk
        fun n hn => hc.names n (List.mem_append_left _ hn))).append_moves flat_colon (by decide)
    have hflat : Flat body := by
      unfold BodyOf at hbody
      split at hbody
      · rename_i hhas
        rw [if_pos hhas, if_pos hhas] at hc
        have hcontent : Clean "" (contentNames (.map e.2.entriesIn)) (contentReferences (.map e.2.entriesIn)) :=
          ⟨fun n hn => hc.names n (List.mem_append_right _ hn), hc.references⟩
        exact flat_content hroot hcontent hbody
      · rw [hbody.1, absentBody]
        split <;> exact moves_of_moved (by decide)
    exact hflat.between hhead (moves_of_moved (by decide))

theorem flat_responses (hroot : ctx.root = "") {entries : Entries} {text : String}
    (hc : Clean "" (entries.flatMap responseNames) (entries.flatMap fun e => responseReferences e.2))
    (h : (responses ctx entries).exec l = (.ok text, l')) : Flat text := by
  rw [responses_eq] at h
  exact flat_inTurn hc h fun _ _ _ _ => flat_response hroot

theorem flat_requestBody (hroot : ctx.root = "") {body : Value} {text : String}
    (hc : Clean "" (if body.truthy then contentNames body else [])
      (if body.truthy then contentReferences body else []))
    (h : (requestBody ctx body).exec l = (.ok text, l')) : Flat text := by
  unfold requestBody at h
  split at h
  · rename_i ht
    obtain ⟨type, l₁, hb, hend⟩ := exec_bind_ok.mp h
    cases hend
    rw [if_pos ht, if_pos ht] at hc
    exact (flat_content hroot hc hb).between (moves_of_moved (b := []) (by decide))
      (moves_of_moved (by decide))
  · cases h
    exact flat_empty

theorem flat_compose (hroot : ctx.root = "") {operation : Value} {text : String}
    (hc : Clean "" (names (Parameters.names ctx) operation) (references (Parameters.shown ctx) operation))
    (h : (compose ctx operation).exec l = (.ok text, l')) : Flat text := by
  unfold compose at h
  obtain ⟨entries, l₁, he, hgo⟩ := exec_bind_ok.mp h
  obtain ⟨parameters, l₂, hp, hgo⟩ := exec_bind_ok.mp hgo
  obtain ⟨body, l₃, hb, hgo⟩ := exec_bind_ok.mp hgo
  obtain ⟨all, l₄, ha, hgo⟩ := exec_bind_ok.mp hgo
  obtain ⟨answers, l₅, hr, hend⟩ := exec_bind_ok.mp hgo
  cases hend
  unfold names references at hc
  rw [Value.entriesIn_of_ok (exec_lift_ok.mp he).1, entriesOrNone_ok (exec_lift_ok.mp ha).1] at hc
  have hparameters := Parameters.flat_composeIfAny hroot hc.left hp
  have hbody := flat_requestBody hroot hc.right.left hb
  have hanswers := flat_responses hroot hc.right.right hr
  have hopen : Moves [] ['\x7d'] "\x7b\n" := moves_of_moved (by decide)
  have hresponses : Moves ['\x7d'] ['\x7d', '\x7d'] "responses: \x7b\n" := moves_of_moved (by decide)
  have hclose : ∀ below : List Char, Moves ('\x7d' :: below) below "\x7d\n" :=
    (moves_of_moved (a := ['\x7d']) (b := []) (by decide)).below
  have hrecord := ((hopen.append (hparameters.below _)).append (hbody.below _)).append hresponses
  exact ((hrecord.append (hanswers.below _)).append (hclose _)).append (hclose _)

end Operation

namespace Paths

variable {ctx : Context} {l l' : Ledger}

theorem quotable_method {m : String × Entries} {entries : Entries} (h : m ∈ methodEntries entries) :
    Quotable m.1.toList := by
  have hall : ∀ m ∈ methods, Quotable m.toList := by decide
  obtain ⟨e, _, hmethod⟩ := List.mem_filterMap.mp h
  unfold methodAt? at hmethod
  split at hmethod
  · rename_i method operation hm _
    cases hmethod
    unfold method? at hm
    split at hm
    · split at hm
      · rename_i s hs
        cases hm
        exact hall _ (by simpa using hs)
      · cases hm
    · cases hm
  · cases hmethod

theorem flat_methodHead {method : String} (h : Quotable method.toList) : Flat (methodHead method) :=
  moves_named h flat_colon rfl

theorem flat_operationName {id : String} (h : Quotable id.toList) : Flat (operationName id) := by
  have hopen : Moves [] [']'] "operations[" := moves_of_moved (by decide)
  have hclose : Moves [']'] [] "]" := moves_of_moved (by decide)
  have htext : operationName id = "operations[" ++ ("\"" ++ id ++ "\"") ++ "]" := by
    have hstart : "operations[\"" = "operations[" ++ "\"" := rfl
    have hend : "\"]" = "\"" ++ "]" := rfl
    rw [operationName, hstart, hend]
    simp only [String.append_assoc]
  rw [htext]
  exact (flat_name h).between hopen hclose

theorem flat_operation (hroot : ctx.root = "") {method : String} {operation : Entries} {text : String}
    (hm : Quotable method.toList) (hc : Clean "" (operationNames (Parameters.names ctx) operation)
      (if isNamed operation then [] else Operation.references (Parameters.shown ctx) (.map operation)))
    (h : (Paths.operation ctx method operation).exec l = (.ok text, l')) : Flat text := by
  unfold Paths.operation at h
  unfold operationNames id? isNamed at hc
  dsimp only at h
  split at h
  · rename_i ht
    obtain ⟨_, l₁, hd, hgo⟩ := exec_bind_ok.mp h
    obtain ⟨name, l₂, hn, hend⟩ := exec_bind_ok.mp hgo
    cases hend
    obtain ⟨id, hfield, -⟩ := declareOperation_ok hd
    have hname := (exec_lift_ok.mp hn).1
    rw [hfield] at ht hname hc
    have htruthy : id.truthy = true := ht
    simp only [htruthy, if_true] at hc
    have hid : Quotable name.toList := hc.quotable hname
    exact ((flat_methodHead hm).append (flat_operationName hid)).append (moves_of_moved (by decide))
  · rename_i ht
    obtain ⟨comment, l₁, hd, hgo⟩ := exec_bind_ok.mp h
    obtain ⟨type, l₂, hcompose, hend⟩ := exec_bind_ok.mp hgo
    cases hend
    rw [if_neg ht] at hc
    have hnone : id? operation = none := by
      unfold id?
      split
      · rename_i id hfield
        rw [hfield] at ht
        exact if_neg ht
      · rfl
    unfold id? at hnone
    rw [hnone] at hc
    exact ((flat_description (exec_lift_ok.mp hd).1).append (flat_methodHead hm)).append
      (Operation.flat_compose hroot hc hcompose)

theorem flat_operations (hroot : ctx.root = "") {entries : Entries} {text : String}
    (hc : Clean "" ((methodEntries entries).flatMap fun m => operationNames (Parameters.names ctx) m.2)
      ((methodEntries entries).flatMap fun m => if isNamed m.2 then [] else
        Operation.references (Parameters.shown ctx) (.map m.2)))
    (h : (operations ctx entries).exec l = (.ok text, l')) : Flat text := by
  rw [operations_eq] at h
  obtain ⟨ts, rfl, hruns⟩ := inTurn_ok h
  apply flat_join
  intro t ht
  obtain ⟨m, hm, l₁, l₂, hrun⟩ := hruns.mem ht
  exact flat_operation hroot (quotable_method hm) (hc.of_mem hm) hrun

theorem flat_item (hroot : ctx.root = "") {entries : Entries} {text : String}
    (hc : Clean "" (itemNames (Parameters.names ctx) entries)
      (itemReferences (Parameters.shown ctx) entries))
    (h : (item ctx (.map entries)).exec l = (.ok text, l')) : Flat text := by
  unfold item at h
  obtain ⟨found, l₁, he, hgo⟩ := exec_bind_ok.mp h
  obtain ⟨declared, l₂, hd, hgo⟩ := exec_bind_ok.mp hgo
  obtain ⟨shared, l₃, hs, hend⟩ := exec_bind_ok.mp hgo
  cases (exec_lift_ok.mp he).1
  cases hend
  exact (flat_operations hroot hc.left hd).append (Parameters.flat_composeIfAny hroot hc.right hs)

theorem flat_block {path body : String} (hp : Quotable path.toList) (hb : Flat body) :
    Flat (block path body) := by
  have hopen : Moves [] ['\x7d'] ": \x7b\n" := moves_of_moved (by decide)
  exact hb.between (moves_named hp hopen rfl) (moves_of_moved (by decide))

theorem flat_entry (hroot : ctx.root = "") {p : Scalar × Entries} {text : String}
    (hc : Clean "" (Value.keyName p.1 :: itemNames (Parameters.names ctx) p.2)
      (itemReferences (Parameters.shown ctx) p.2))
    (h : (entry ctx p).exec l = (.ok text, l')) : Flat text := by
  unfold entry at h
  obtain ⟨name, l₁, hn, hgo⟩ := exec_bind_ok.mp h
  obtain ⟨body, l₂, hb, hend⟩ := exec_bind_ok.mp hgo
  cases hend
  have hname : Quotable name.toList := hc.quotable (exec_lift_ok.mp hn).1
  exact flat_block hname (flat_item hroot hc.tail hb)

theorem flat_items (hroot : ctx.root = "") {entries : Entries} {text : String}
    (hc : Clean ""
      ((entries.filterMap Value.mappingAt?).flatMap fun p =>
        Value.keyName p.1 :: itemNames (Parameters.names ctx) p.2)
      ((entries.filterMap Value.mappingAt?).flatMap fun p => itemReferences (Parameters.shown ctx) p.2))
    (h : (items ctx entries).exec l = (.ok text, l')) : Flat text := by
  rw [items_eq] at h
  exact flat_inTurn hc h fun _ _ _ _ => flat_entry hroot

end Paths

namespace Generator

variable {ctx : Context} {l l' : Ledger}

theorem flat_interface {name body : String} (hb : Flat body)
    (hn : moved? [] ("export interface " ++ name ++ " \x7b\n") = some ['\x7d']) :
    Flat (interface name body) :=
  hb.between (moves_of_moved hn) (moves_of_moved (by decide))

theorem flat_record {name body : String} (hb : Flat body)
    (hn : moved? [] (name ++ ": \x7b\n") = some ['\x7d']) : Flat (record name body) :=
  hb.between (moves_of_moved hn) (moves_of_moved (by decide))

theorem flat_pathsBlock (hroot : ctx.root = "") {paths : Value} {text : String}
    (hc : Clean "" (Paths.names (Parameters.names ctx) paths) (Paths.references (Parameters.shown ctx) paths))
    (h : (pathsBlock ctx paths).exec l = (.ok text, l')) : Flat text := by
  unfold pathsBlock at h
  unfold Paths.names Paths.references Paths.pathItems Value.heldEntries at hc
  split at h
  · rename_i ht
    obtain ⟨body, l₁, hb, hend⟩ := exec_bind_ok.mp h
    cases hend
    unfold Paths.compose at hb
    obtain ⟨entries, l₂, he, hitems⟩ := exec_bind_ok.mp hb
    rw [if_pos ht, Value.entriesIn_of_ok (exec_lift_ok.mp he).1] at hc
    have hbody := Paths.flat_items hroot hc hitems
    exact (flat_interface hbody (by decide)).append (moves_of_moved (by decide))
  · cases h
    exact flat_empty

theorem flat_declaredOperation (hroot : ctx.root = "") {o : Scalar × Value} {text : String}
    (hc : Clean "" (Value.keyName o.1 :: Operation.names (Parameters.names ctx) o.2)
      (Operation.references (Parameters.shown ctx) o.2))
    (h : (declaredOperation ctx o.1 o.2).exec l = (.ok text, l')) : Flat text := by
  unfold declaredOperation at h
  obtain ⟨entries, l₁, _, hgo⟩ := exec_bind_ok.mp h
  obtain ⟨comment, l₂, hd, hgo⟩ := exec_bind_ok.mp hgo
  obtain ⟨name, l₃, hn, hgo⟩ := exec_bind_ok.mp hgo
  obtain ⟨type, l₄, ht, hend⟩ := exec_bind_ok.mp hgo
  cases hend
  have hname : Quotable name.toList := hc.quotable (exec_lift_ok.mp hn).1
  exact (flat_declared (flat_description (exec_lift_ok.mp hd).1) hname).append
    (Operation.flat_compose hroot hc.tail ht)

theorem flat_declaredOperations (hroot : ctx.root = "") {os : List (Scalar × Value)} {text : String}
    (hc : Clean "" (os.flatMap fun o => Value.keyName o.1 :: Operation.names (Parameters.names ctx) o.2)
      (os.flatMap fun o => Operation.references (Parameters.shown ctx) o.2))
    (h : (declaredOperations ctx os).exec l = (.ok text, l')) : Flat text := by
  rw [declaredOperations_eq] at h
  exact flat_inTurn hc h fun _ _ _ _ => flat_declaredOperation hroot

theorem namesFields_eq (ps : List (Property × Schema)) : Schema.namesFields ps =
    (ps.map fun p => (p.1.name, p.2)).flatMap fun q => Value.keyName q.1 :: q.2.names := by
  induction ps with
  | nil => rw [Schema.namesFields]; rfl
  | cons p rest ih => rw [Schema.namesFields, ih, List.map_cons, List.flatMap_cons]; rfl

theorem flat_composeDeclarations {root : String} {v : Value} {text : String}
    (hc : Clean root (rawNames v.propertyEntries) (rawReferences v.propertyEntries))
    (h : (composeDeclarations root v).exec l = (.ok text, l')) : Flat text := by
  unfold composeDeclarations at h
  obtain ⟨ps, l₁, hp, hcompose⟩ := exec_bind_ok.mp h
  obtain ⟨hnames, hschemas⟩ := declarations_ok (exec_lift_ok.mp hp).1
  have hpairs : (ps.map fun p => (p.1.name, p.2)) =
      v.propertyEntries.map fun e => (e.1, Schema.ofValue e.2.propertyNode) := by
    rw [← List.zip_map', ← List.zip_map', hnames, hschemas]
  have hfields : Schema.namesFields ps = rawNames v.propertyEntries := by
    rw [namesFields_eq, hpairs, List.flatMap_map]
    rfl
  have hrefs : Schema.referencesFields ps = rawReferences v.propertyEntries := by
    rw [referencesFields_eq, hschemas, List.flatMap_map]
    rfl
  exact Schema.flat_composeFields ps (by rw [hfields, hrefs]; exact hc) hcompose

theorem flat_namedContent (hroot : ctx.root = "") {p : Scalar × Entries} {text : String}
    (hc : Clean "" (Value.keyName p.1 :: Operation.contentNames (.map p.2))
      (Operation.contentReferences (.map p.2)))
    (h : (namedContent ctx p.1 (.map p.2)).exec l = (.ok text, l')) : Flat text := by
  unfold namedContent at h
  obtain ⟨comment, l₁, hd, hgo⟩ := exec_bind_ok.mp h
  obtain ⟨name, l₂, hn, hgo⟩ := exec_bind_ok.mp hgo
  obtain ⟨body, l₃, hb, hend⟩ := exec_bind_ok.mp hgo
  cases hend
  have hname : Quotable name.toList := hc.quotable (exec_lift_ok.mp hn).1
  exact (Operation.flat_content hroot hc.tail hb).between
    (flat_declared (flat_description (exec_lift_ok.mp hd).1) hname) (moves_of_moved (by decide))

theorem flat_namedContents (hroot : ctx.root = "") {entries : Entries} {text : String}
    (hc : Clean ""
      ((entries.filterMap Value.mappingAt?).flatMap fun e =>
        Value.keyName e.1 :: Operation.contentNames (.map e.2))
      ((entries.filterMap Value.mappingAt?).flatMap fun e => Operation.contentReferences (.map e.2)))
    (h : (namedContents ctx entries).exec l = (.ok text, l')) : Flat text := by
  rw [namedContents_eq] at h
  exact flat_inTurn hc h fun _ _ _ _ => flat_namedContent hroot

theorem flat_section (hroot : ctx.root = "") (s : Section) {v : Value} {text : String}
    (hc : Clean "" (s.names v) (s.references v)) (h : (s.compose ctx v).exec l = (.ok text, l')) :
    Flat text := by
  have hschemas : ∀ name : String, moved? [] (name ++ ": \x7b\n") = some ['\x7d'] →
      Clean "" (rawNames (heldProperties v)) (rawReferences (heldProperties v)) →
        (schemaSection ctx name v).exec l = (.ok text, l') → Flat text := by
    intro name hname hc h
    unfold schemaSection at h
    split at h
    · rename_i ht
      obtain ⟨fields, l₁, hf, hend⟩ := exec_bind_ok.mp h
      cases hend
      rw [hroot] at hf
      rw [heldProperties, if_pos ht] at hc
      exact flat_record (flat_composeDeclarations hc hf) hname
    · cases h
      exact flat_empty
  have hcontents : ∀ name : String, moved? [] (name ++ ": \x7b\n") = some ['\x7d'] →
      Clean "" ((bodies v).flatMap fun e => Value.keyName e.1 :: Operation.contentNames (.map e.2))
          ((bodies v).flatMap fun e => Operation.contentReferences (.map e.2)) →
        (contentSection ctx name v).exec l = (.ok text, l') → Flat text := by
    intro name hname hc h
    unfold contentSection at h
    split at h
    · rename_i ht
      obtain ⟨entries, l₁, he, hgo⟩ := exec_bind_ok.mp h
      obtain ⟨contents, l₂, hcompose, hend⟩ := exec_bind_ok.mp hgo
      cases hend
      rw [bodies, Value.heldEntries, if_pos ht, Value.entriesIn_of_ok (exec_lift_ok.mp he).1] at hc
      exact flat_record (flat_namedContents hroot hc hcompose) hname
    · cases h
      exact flat_empty
  cases s with
  | parameters => exact hschemas "parameters" (by decide) hc h
  | schemas => exact hschemas "schemas" (by decide) hc h
  | responses => exact hcontents "responses" (by decide) hc h
  | requestBodies => exact hcontents "requestBodies" (by decide) hc h

end Generator

namespace Imports

theorem level_alias (i : Nat) : Level (aliasOf i) := by
  have hword : Wordlike ("external$".toList ++ Nat.toDigits 10 i) :=
    Wordlike.append (by decide) (wordlike_digits i)
  apply level_word <;> rw [aliasOf_toList]
  · exact hword
  · simp

theorem flat_importLine {key : String} (h : Quotable key.toList) (i : Nat) : Flat (importLine i key) := by
  have hname : Quotable ("./" ++ key).toList := by
    rw [String.toList_append]
    intro c hc
    rcases List.mem_append.mp hc with hc | hc
    · have hdot : Quotable "./".toList := by decide
      exact hdot c hc
    · exact h c hc
  have htext : importLine i key =
      "import \x7b schemas as " ++ aliasOf i ++ " \x7d from " ++ ("\"" ++ ("./" ++ key) ++ "\";") := by
    have hmiddle : " \x7d from \"./" = " \x7d from " ++ ("\"" ++ "./") := by decide
    unfold importLine
    simp only [hmiddle, String.append_assoc]
  have hend : Flat ";" := moves_of_moved (by decide)
  rw [htext]
  exact ((level_alias i).between (moves_of_moved (b := ['\x7d']) (by decide))
    (moves_of_moved (by decide)) (by decide)).append (moves_named hname hend rfl)

theorem flat_mappingLine {key : String} (h : Quotable key.toList) (i : Nat) :
    Flat (mappingLine i key) :=
  (level_alias i).between (moves_named h flat_colon rfl) (moves_of_moved (by decide)) (by decide)

theorem level_importLines {keys : List String} (h : ∀ key ∈ keys, Quotable key.toList) :
    Level (Text.join "\n" (numbered importLine 0 keys)) := by
  refine spans_join (fun t ht => ?_) (moves_of_moved (by decide)) (by decide)
  obtain ⟨i, key, hk, rfl⟩ := mem_numbered ht
  exact (flat_importLine (h key hk) i).spans

theorem spans_mappingLines {keys : List String} (h : ∀ key ∈ keys, Quotable key.toList) :
    Spans ['\x7d'] ['\x7d'] (Text.join "\n" (numbered mappingLine 0 keys)) := by
  refine spans_join (fun t ht => ?_) (moves_of_moved (by decide)) (by decide)
  obtain ⟨i, key, hk, rfl⟩ := mem_numbered ht
  exact (flat_mappingLine (h key hk) i).spans

theorem join_enclosed {lines : List String} (hne : lines ≠ []) (first last : String) :
    Text.join "\n" (first :: (lines ++ [last])) =
      first ++ "\n" ++ Text.join "\n" lines ++ ("\n" ++ last) := by
  have hsplit : first :: (lines ++ [last]) = [first] ++ (lines ++ [last]) := rfl
  rw [hsplit, join_append (by simp) (by simp), join_append hne (by simp), Text.join, Text.join]
  simp only [String.append_assoc]

theorem flat_importBlock {keys : List String} (h : ∀ key ∈ keys, Quotable key.toList) :
    Flat (block keys) := by
  unfold block
  split
  · exact flat_empty
  · have hne : keys ≠ [] := by
      rintro rfl
      contradiction
    have hgap : Flat "\n\n" := moves_of_moved (by decide)
    have hopen : Moves [] ['\x7d'] ("export type external = \x7b" ++ "\n") := moves_of_moved (by decide)
    have hclose : Moves ['\x7d'] [] ("\n" ++ "\x7d") := moves_of_moved (by decide)
    have hexternal := (hopen.append_spans (spans_mappingLines h)).append_moves hclose (by decide)
    rw [join_enclosed (numbered_ne_nil hne 0)]
    exact (((level_importLines h).append_moves hgap (by decide)).append hexternal).append hgap

end Imports

namespace Generator

variable {entries : Entries} {l l' : Ledger}

theorem flat_components {options : Options} {text : String}
    (hc : Clean ""
      (Section.parameters.names (Section.parameters.valueIn options entries) ++
        (Section.schemas.names (Section.schemas.valueIn options entries) ++
          (Section.responses.names (Section.responses.valueIn options entries) ++
            Section.requestBodies.names (Section.requestBodies.valueIn options entries))))
      (Section.parameters.referencesIn options entries ++ (Section.schemas.referencesIn options entries ++
        (Section.responses.referencesIn options entries ++
          Section.requestBodies.referencesIn options entries))))
    (h : (components (contextOf entries) (partsOf entries) (schemasOf options entries)).exec l =
      (.ok text, l')) : Flat text := by
  unfold components at h
  obtain ⟨parameters, l₁, hp, hgo⟩ := exec_bind_ok.mp h
  obtain ⟨schemas, l₂, hs, hgo⟩ := exec_bind_ok.mp hgo
  obtain ⟨responses, l₃, hr, hgo⟩ := exec_bind_ok.mp hgo
  obtain ⟨requestBodies, l₄, hb, hend⟩ := exec_bind_ok.mp hgo
  cases hend
  have hparameters := flat_section rfl .parameters hc.left hp
  have hschemas := flat_section rfl .schemas hc.right.left hs
  have hresponses := flat_section rfl .responses hc.right.right.left hr
  have hbodies := flat_section rfl .requestBodies hc.right.right.right hb
  exact ((hparameters.append hschemas).append hresponses).append hbodies

theorem flat_document {options : Options} {text : String}
    (hc : Clean "" (names options entries) (written options entries))
    (hk : ∀ key ∈ importKeys options entries, Quotable key.toList)
    (h : (document options entries).exec .empty = (.ok text, l')) : Flat text := by
  obtain ⟨paths, declared, comps, l₁, l₂, hruns, rfl⟩ := document_runs h
  have himports : Flat (Imports.block l'.externals) := by
    rw [hruns.externals]
    exact Imports.flat_importBlock hk
  have hpaths := flat_pathsBlock rfl hc.left hruns.paths
  have hdeclared := flat_declaredOperations rfl hc.right.left hruns.operations
  have hcomponents := flat_components hc.right.right hruns.components
  have hend : Flat "\n" := moves_of_moved (by decide)
  have hinterface : Flat (interface "operations" (declared ++ "\n")) :=
    flat_interface (hdeclared.append hend) (by decide)
  have hoperations := hinterface.append hend
  exact ((himports.append hpaths).append hoperations).append (flat_interface hcomponents (by decide))

theorem flat_raw {text : String} (hc : Clean rawRoot (rawNames entries) (rawReferences entries))
    (h : (raw ⟨true, none⟩ entries).exec l = (.ok text, l')) : Flat text := by
  unfold raw at h
  obtain ⟨schemas, l₁, hm, hgo⟩ := exec_bind_ok.mp h
  obtain ⟨fields, l₂, hf, hend⟩ := exec_bind_ok.mp hgo
  cases (exec_lift_ok.mp hm).1
  cases hend
  exact flat_interface (flat_composeDeclarations hc hf) (by decide)

/-- The text generated for a document is read to its end, and its brackets are nested. -/
theorem generate_nested {raw : Bool} {entries : Entries} {out : Output} (hw : Writable raw entries)
    (h : generate ⟨raw, none⟩ (.map entries) = .ok out) :
    ∃ ts, words? out.text.toList = some ts ∧ Nested ts := by
  have hflat : Flat out.text := by
    unfold generate at h
    split at h
    · dsimp only at h
      split at h
      · rename_i text ledger hc
        cases h
        unfold compose at hc
        cases raw with
        | true => exact flat_raw hw hc
        | false => exact flat_document hw.1 hw.2 hc
      · cases h
    · cases h
  obtain ⟨ts, hs, hn⟩ := hflat
  exact ⟨ts, hs.spells.words, hn⟩

def unruly : Entries :=
  [(.text "paths", .map [(.text "/a", .map [(.text "get", .map
      [(.text "description", .text "ends */ here \x7d"),
        (.text "parameters", .list [.map [(.text "in", .text "query"), (.text "name", .text "n"),
          (.text "schema", .map [(.text "enum", .list [.text "\"]", .text "*/", .text "\\"])])]]),
        (.text "responses", .map [(.text "200", .map [(.text "description", .text "a\n*/ ("),
          (.text "content", .map [(.text "text/plain", .map [(.text "schema", .text "\x7b")])])])])])])]),
    (.text "components", .map [(.text "schemas", .map [(.text "A", .map [(.text "properties", .map
      [(.text "p", .map [(.text "$ref", .text "w.json#/B")]),
        (.text "q", .map [(.text "enum", .list [.text "'", .text "\n", .text ">"])])])])])])]

theorem nested_unruly : ∃ out, generate ⟨false, none⟩ (.map unruly) = .ok out ∧ Writable false unruly ∧
    ∃ ts, words? out.text.toList = some ts ∧ Nested ts := by
  have hsome : (generated? ⟨false, none⟩ (.map unruly)).isSome = true := by decide +kernel
  have hnames : ∀ n ∈ names ⟨false, none⟩ unruly, Quotable n := by decide +kernel
  have hrefs : ∀ r ∈ written ⟨false, none⟩ unruly, Reference.Clean "" r := by decide +kernel
  have hkeys : ∀ key ∈ importKeys ⟨false, none⟩ unruly, Quotable key.toList := by decide +kernel
  have hw : Writable false unruly := ⟨⟨hnames, hrefs⟩, hkeys⟩
  obtain ⟨out, h⟩ := generate_of_isSome hsome
  exact ⟨out, h, hw, generate_nested hw h⟩

end Generator

end ApiTypes
