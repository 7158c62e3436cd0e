import ApiTypes.Proofs.Compose.Alone
import ApiTypes.Proofs.Document.Paths

/-!
# What a section declares

A section of schemas or parameters has one declaration for each of its keys, and
one of responses or request bodies for each key of a mapping. No declaration is
optional.
-/

set_option autoImplicit false

namespace ApiTypes

open Compose

namespace Generator

def sectionText (name : String) (v : Value) (declared : List String) : String :=
  if v.truthy then record name (String.join declared) else ""

def heldProperties (v : Value) : Entries := if v.truthy then v.propertyEntries else []

def bodies (v : Value) : List (Scalar × Entries) := v.heldEntries.filterMap Value.mappingAt?

/-- What a schema or a parameter is declared as, composed by itself: a type, with null if the entry
allows it. -/
def typeBody (ctx : Context) (v : Value) : Except Fault String := do
  let type ← (composeType ctx.root v.propertyNode).result
  return (if v.isNullable then Expression.orNull type else type) ++ ";\n"

def contentBody (ctx : Context) (v : Value) : Except Fault String := do
  let content ← (Operation.content ctx (.map v.entriesIn)).result
  return content ++ "\n"

/-- The declaration of an entry: behind its comment the name of its key, without a mark, and what the
entry is declared as. -/
def Declares (body : Value → Except Fault String) (e : Scalar × Value) (text : String) : Prop :=
  ∃ comment name content, Operation.comment e.2.entriesIn = .ok comment ∧ e.1.plain = .ok name ∧
    body e.2 = .ok content ∧ text = comment ++ "\"" ++ name ++ "\": " ++ content

inductive Section where
  | parameters | schemas | responses | requestBodies
  deriving DecidableEq, Repr

namespace Section

def name : Section → String
  | .parameters => "parameters"
  | .schemas => "schemas"
  | .responses => "responses"
  | .requestBodies => "requestBodies"

def choose {α : Type} (parameters schemas responses requestBodies : α) : Section → α
  | .parameters => parameters
  | .schemas => schemas
  | .responses => responses
  | .requestBodies => requestBodies

def held (v : Value) : Section → Entries
  | .parameters | .schemas => heldProperties v
  | .responses | .requestBodies => v.heldEntries.filter fun e => (Value.mappingAt? e).isSome

def references (v : Value) : Section → List String
  | .parameters | .schemas =>
    (heldProperties v).flatMap fun e => (Schema.ofValue e.2.propertyNode).references
  | .responses | .requestBodies => (bodies v).flatMap fun e => Operation.contentReferences (.map e.2)

def compose (ctx : Context) (v : Value) : Section → Compose String
  | .parameters => schemaSection ctx "parameters" v
  | .schemas => schemaSection ctx "schemas" v
  | .responses => contentSection ctx "responses" v
  | .requestBodies => contentSection ctx "requestBodies" v

def body (ctx : Context) : Section → Value → Except Fault String
  | .parameters | .schemas => typeBody ctx
  | .responses | .requestBodies => contentBody ctx

end Section

def declarationAt (e : Scalar × Value) : Property × Schema :=
  ({ (Schema.propertyAt e).1 with required := true }, (Schema.propertyAt e).2)

variable {ctx : Context} {l l' : Ledger}

theorem declare_required {p : Property} (hr : p.required = true) (comment name type : String) :
    p.declare comment name type = comment ++ "\"" ++ name ++ "\": " ++
      ((if p.nullable then Expression.orNull type else type) ++ ";\n") := by
  simp only [Property.declare, Expression.fieldHead, hr, if_true, String.append_assoc,
    String.empty_append]
  rfl

theorem composeFields_cons {root : String} {e : Scalar × Value} {ps : List (Property × Schema)}
    {text : String} (h : (Schema.composeFields root (declarationAt e :: ps)).exec l = (.ok text, l')) :
    ∃ comment name type rest l₁, Operation.comment e.2.entriesIn = .ok comment ∧
      e.1.plain = .ok name ∧ (composeType root e.2.propertyNode).result = .ok type ∧
        (Schema.composeFields root ps).exec l₁ = (.ok rest, l') ∧
          text = (declarationAt e).1.declare comment name type ++ rest := by
  obtain ⟨hkey, -, hschema⟩ := Schema.propertyAt_parts e
  have hdescription : (Schema.propertyAt e).1.description = Value.field "description" e.2.entriesIn := by
    unfold Schema.propertyAt Value.entriesIn
    cases e.2.opened <;> rfl
  unfold declarationAt at h
  rw [Schema.composeFields] at h
  obtain ⟨comment, l₁, hc, hgo⟩ := exec_bind_ok.mp h
  obtain ⟨name, l₂, hn, hgo⟩ := exec_bind_ok.mp hgo
  obtain ⟨type, l₃, ht, hgo⟩ := exec_bind_ok.mp hgo
  obtain ⟨_, l₄, hw, hgo⟩ := exec_bind_ok.mp hgo
  obtain ⟨fields, l₅, hf, hend⟩ := exec_bind_ok.mp hgo
  cases hend
  have hcomment := (exec_lift_ok.mp hc).1
  have hname := (exec_lift_ok.mp hn).1
  rw [hdescription] at hcomment
  rw [hkey] at hname
  rw [hschema] at ht
  exact ⟨comment, name, type, fields, l₄, hcomment, hname,
    (result_of_exec (Schema.additive_compose _) ht).1, hf, rfl⟩

theorem composeFields_declares {es : Entries} {text : String}
    (h : (Schema.composeFields ctx.root (es.map declarationAt)).exec l = (.ok text, l')) :
    ∃ texts, text = String.join texts ∧ List.Forall₂ (Declares (typeBody ctx)) es texts := by
  induction es generalizing l text with
  | nil =>
    rw [List.map_nil, Schema.composeFields] at h
    cases h
    exact ⟨[], rfl, .nil⟩
  | cons e rest ih =>
    rw [List.map_cons] at h
    obtain ⟨comment, name, type, fields, l₁, hcomment, hname, htype, hfields, rfl⟩ :=
      composeFields_cons h
    obtain ⟨texts, rfl, hall⟩ := ih hfields
    have hnull : (declarationAt e).1.nullable = e.2.isNullable := (Schema.propertyAt_parts e).2.1
    have hbody : typeBody ctx e.2 =
        .ok ((if e.2.isNullable then Expression.orNull type else type) ++ ";\n") := by
      rw [typeBody, htype]
      rfl
    refine ⟨_ :: texts, String.join_cons.symm, .cons ⟨comment, name, _, hcomment, hname, hbody, ?_⟩ hall⟩
    rw [declare_required rfl, hnull]

theorem declarations_eq {v : Value} {ps : List (Property × Schema)}
    (h : Schema.declarations v = .ok ps) : ps = v.propertyEntries.map declarationAt := by
  unfold Schema.declarations at h
  obtain ⟨names, _, h⟩ := except_bind_ok.mp h
  obtain ⟨_, _, h⟩ := except_bind_ok.mp h
  obtain ⟨found, hf, h⟩ := except_bind_ok.mp h
  cases h
  rw [Schema.properties_eq v hf, List.map_map]
  rfl

theorem declarations_ok {v : Value} {ps : List (Property × Schema)}
    (h : Schema.declarations v = .ok ps) :
    ps.map (fun p => p.1.name) = v.propertyEntries.map (·.1) ∧
      ps.map Prod.snd = v.propertyEntries.map fun e => Schema.ofValue e.2.propertyNode := by
  rw [declarations_eq h, List.map_map, List.map_map]
  exact ⟨List.map_congr_left fun e _ => (Schema.propertyAt_parts e).1,
    List.map_congr_left fun e _ => (Schema.propertyAt_parts e).2.2⟩

theorem not_list_of_declarations {v : Value} {ps : List (Property × Schema)}
    (h : Schema.declarations v = .ok ps) (items : List Value) : v.opened ≠ .list items := by
  intro hl
  unfold Schema.declarations at h
  obtain ⟨names, _, h⟩ := except_bind_ok.mp h
  obtain ⟨_, _, h⟩ := except_bind_ok.mp h
  obtain ⟨found, hf, _⟩ := except_bind_ok.mp h
  match v, hl with
  | .list _, _ => cases hf
  | .again _ _ (some (.list _)), _ => cases hf

theorem referencesFields_eq (ps : List (Property × Schema)) :
    Schema.referencesFields ps = (ps.map Prod.snd).flatMap Schema.references := by
  induction ps with
  | nil => rw [Schema.referencesFields]; rfl
  | cons p rest ih => rw [Schema.referencesFields, ih, List.map_cons, List.flatMap_cons]

theorem schemaSection_ok (hroot : ctx.root = "") {name : String} {v : Value} {text : String}
    (h : (schemaSection ctx name v).exec l = (.ok text, l')) :
    ∃ texts, text = sectionText name v texts ∧
      List.Forall₂ (Declares (typeBody ctx)) (heldProperties v) texts ∧
      (v.truthy = true → ∀ items, v.opened ≠ .list items) ∧
      Resolves ((heldProperties v).flatMap fun e => (Schema.ofValue e.2.propertyNode).references)
        ((heldProperties v).flatMap fun e => (Schema.ofValue e.2.propertyNode).references)
        l l' [text] := by
  unfold schemaSection at h
  unfold sectionText heldProperties
  split at h
  · rename_i ht
    obtain ⟨fields, l₁, hf, hend⟩ := exec_bind_ok.mp h
    cases hend
    unfold composeDeclarations at hf
    obtain ⟨ps, l₂, hp, hcompose⟩ := exec_bind_ok.mp hf
    obtain ⟨hps, rfl⟩ := exec_lift_ok.mp hp
    obtain ⟨texts, htext, hall⟩ := composeFields_declares (declarations_eq hps ▸ hcompose)
    rw [hroot] at hcompose
    have hres := Schema.resolves_composeFields ps hcompose
    rw [referencesFields_eq, (declarations_ok hps).2, List.flatMap_map] at hres
    rw [if_pos ht]
    have htext : record name fields = if v.truthy then record name (String.join texts) else "" := by
      rw [if_pos ht, htext]
    exact ⟨texts, htext, hall, fun _ => not_list_of_declarations hps,
      hres.inside (within_between _ _ _)⟩
  · rename_i ht
    cases h
    rw [if_neg ht]
    exact ⟨[], (if_neg ht).symm, .nil, fun h => (ht h).elim, resolves_nothing _ _⟩

theorem namedContent_ok (hroot : ctx.root = "") {key : Scalar} {entries : Entries} {text : String}
    (h : (namedContent ctx key (.map entries)).exec l = (.ok text, l')) :
    Declares (contentBody ctx) (key, .map entries) text ∧
      Resolves (Operation.contentReferences (.map entries)) (Operation.contentReferences (.map entries)) l l' [text] := by
  unfold namedContent at h
  obtain ⟨comment, l₁, hc, hgo⟩ := exec_bind_ok.mp h
  obtain ⟨name, l₂, hn, hgo⟩ := exec_bind_ok.mp hgo
  obtain ⟨body, l₃, hb, hend⟩ := exec_bind_ok.mp hgo
  obtain ⟨hcomment, rfl⟩ := exec_lift_ok.mp hc
  obtain ⟨hname, rfl⟩ := exec_lift_ok.mp hn
  cases hend
  have hbody : contentBody ctx (.map entries) = .ok (body ++ "\n") := by
    rw [contentBody, Value.entriesIn_of_map rfl,
      (result_of_exec (Operation.closed_content closed_additive.toClosed ctx _) hb).1]
    rfl
  have htext : comment ++ "\"" ++ name ++ "\": " ++ body ++ "\n" =
      comment ++ "\"" ++ name ++ "\": " ++ (body ++ "\n") := by
    simp only [String.append_assoc]
  exact ⟨⟨comment, name, body ++ "\n", hcomment, hname, hbody, htext⟩,
    (Operation.resolves_content hroot hb).inside (within_between _ _ _)⟩

theorem namedContents_ok (hroot : ctx.root = "") {entries : Entries} {text : String}
    (h : (namedContents ctx entries).exec l = (.ok text, l')) :
    ∃ texts, text = String.join texts ∧
      List.Forall₂ (Declares (contentBody ctx))
        (entries.filter fun e => (Value.mappingAt? e).isSome) texts ∧
      Resolves
        ((entries.filterMap Value.mappingAt?).flatMap fun e => Operation.contentReferences (.map e.2))
        ((entries.filterMap Value.mappingAt?).flatMap fun e => Operation.contentReferences (.map e.2))
        l l' texts := by
  rw [namedContents_eq] at h
  obtain ⟨texts, rfl, hruns⟩ := inTurn_ok h
  have hall : List.Forall₂ (fun (p : Scalar × Entries) => Declares (contentBody ctx) (p.1, .map p.2))
      (entries.filterMap Value.mappingAt?) texts :=
    hruns.forall₂ fun _ _ _ _ hp => (namedContent_ok hroot hp).1
  rw [Value.filterMap_mappingAt, List.forall₂_map_left_iff] at hall
  exact ⟨texts, rfl, hall, hruns.resolves fun _ _ _ _ hp => (namedContent_ok hroot hp).2⟩

theorem contentSection_ok (hroot : ctx.root = "") {name : String} {v : Value} {text : String}
    (h : (contentSection ctx name v).exec l = (.ok text, l')) :
    ∃ texts, text = sectionText name v texts ∧
      List.Forall₂ (Declares (contentBody ctx))
        (v.heldEntries.filter fun e => (Value.mappingAt? e).isSome) texts ∧
      (v.truthy = true → ∀ items, v.opened ≠ .list items) ∧
      Resolves ((bodies v).flatMap fun e => Operation.contentReferences (.map e.2))
        ((bodies v).flatMap fun e => Operation.contentReferences (.map e.2)) l l' [text] := by
  unfold contentSection at h
  unfold sectionText bodies Value.heldEntries
  split at h
  · rename_i ht
    obtain ⟨entries, l₁, he, hgo⟩ := exec_bind_ok.mp h
    obtain ⟨contents, l₂, hc, hend⟩ := exec_bind_ok.mp hgo
    obtain ⟨hentries, rfl⟩ := exec_lift_ok.mp he
    cases hend
    obtain ⟨texts, rfl, hall, hres⟩ := namedContents_ok hroot hc
    rw [if_pos ht, Value.entriesIn_of_ok hentries]
    have hmap := Value.entriesFor_ok hentries
    refine ⟨texts, (if_pos ht).symm, hall, fun _ items hl => ?_, hres.into fun t hm => ?_⟩
    · rw [hmap] at hl
      cases hl
    · exact (within_concat hm).trans (within_between _ _ _)
  · rename_i ht
    cases h
    rw [if_neg ht]
    exact ⟨[], (if_neg ht).symm, .nil, fun h => (ht h).elim, resolves_nothing _ _⟩

theorem section_ok (hroot : ctx.root = "") (s : Section) {v : Value} {text : String}
    (h : (s.compose ctx v).exec l = (.ok text, l')) :
    ∃ texts, text = sectionText s.name v texts ∧ List.Forall₂ (Declares (s.body ctx)) (s.held v) texts ∧
      (v.truthy = true → ∀ items, v.opened ≠ .list items) ∧
      Resolves (s.references v) (s.references v) l l' [text] := by
  cases s with
  | parameters => exact schemaSection_ok hroot h
  | schemas => exact schemaSection_ok hroot h
  | responses => exact contentSection_ok hroot h
  | requestBodies => exact contentSection_ok hroot h

/-- The declaration of one named operation. -/
def DeclaresOperation (ctx : Context) (o : Scalar × Value) (text : String) : Prop :=
  ∃ comment name type, Operation.comment o.2.entriesIn = .ok comment ∧ o.1.plain = .ok name ∧
    Operation.alone ctx o.2 = .ok type ∧ text = comment ++ "\"" ++ name ++ "\": " ++ type

theorem declaredOperation_ok (hroot : ctx.root = "") {o : Scalar × Value} {text : String}
    (h : (declaredOperation ctx o.1 o.2).exec l = (.ok text, l')) :
    DeclaresOperation ctx o text ∧ Resolves (Operation.references (Parameters.references ctx) o.2)
      (Operation.references (Parameters.shown ctx) o.2) l l' [text] := by
  unfold declaredOperation at h
  obtain ⟨entries, l₁, he, hgo⟩ := exec_bind_ok.mp h
  obtain ⟨comment, l₂, hc, hgo⟩ := exec_bind_ok.mp hgo
  obtain ⟨name, l₃, hn, hgo⟩ := exec_bind_ok.mp hgo
  obtain ⟨type, l₄, ht, hend⟩ := exec_bind_ok.mp hgo
  obtain ⟨hentries, rfl⟩ := exec_lift_ok.mp he
  obtain ⟨hcomment, rfl⟩ := exec_lift_ok.mp hc
  obtain ⟨hname, rfl⟩ := exec_lift_ok.mp hn
  cases hend
  refine ⟨⟨comment, name, type, ?_, hname, Operation.alone_of_exec ht, rfl⟩, ?_⟩
  · rw [Value.entriesIn_of_ok hentries]
    exact hcomment
  · exact (Operation.resolves_compose hroot ht).inside (within_right _ _)

theorem declaredOperations_ok (hroot : ctx.root = "") {os : List (Scalar × Value)} {text : String}
    (h : (declaredOperations ctx os).exec l = (.ok text, l')) :
    ∃ texts, text = String.join texts ∧ List.Forall₂ (DeclaresOperation ctx) os texts ∧
      Resolves (os.flatMap fun o => Operation.references (Parameters.references ctx) o.2)
        (os.flatMap fun o => Operation.references (Parameters.shown ctx) o.2) l l' texts := by
  rw [declaredOperations_eq] at h
  obtain ⟨texts, rfl, hruns⟩ := inTurn_ok h
  exact ⟨texts, rfl, hruns.forall₂ fun _ _ _ _ ho => (declaredOperation_ok hroot ho).1,
    hruns.resolves fun _ _ _ _ ho => (declaredOperation_ok hroot ho).2⟩

end Generator

end ApiTypes
