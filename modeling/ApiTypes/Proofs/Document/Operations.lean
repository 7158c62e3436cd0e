import ApiTypes.Proofs.Document.Parameters
import ApiTypes.Proofs.Schema.Node

/-!
# The references of operations and bodies

The references in a body and in an operation, in the order in which they are
resolved, given those of a parameter list.
-/

set_option autoImplicit false

namespace ApiTypes

open Compose

namespace Operation

theorem entriesOrNone_ok {v : Value} {entries : Entries} (h : entriesOrNone v = .ok entries) :
    v.heldEntries = entries := by
  unfold entriesOrNone at h
  unfold Value.heldEntries
  split at h
  · rename_i ht
    rw [if_pos ht, Value.entriesIn_of_ok h]
  · rename_i ht
    cases h
    rw [if_neg ht]

def mediaReferences (entries : Entries) : List String :=
  entries.flatMap fun e => (Schema.ofValue (Value.field "schema" e.2.entriesIn)).references

/-- The references of a body: itself, or those in its content. -/
def contentReferences (container : Value) : List String :=
  match Entries.get? "$ref" container.entriesIn with
  | some (.scalar (.text ref)) => [ref]
  | some _ => []
  | none => mediaReferences (Value.field "content" container.entriesIn).heldEntries

/-- The references of the body of a response; one that is no mapping has none. -/
def responseReferences (r : Value) : List String :=
  if hasBody r.entriesIn then contentReferences r else []

variable (ps : Value → List String)

def references (operation : Value) : List String :=
  ps (Value.field "parameters" operation.entriesIn) ++
    ((if (Value.field "requestBody" operation.entriesIn).truthy
      then contentReferences (Value.field "requestBody" operation.entriesIn) else []) ++
    (Value.field "responses" operation.entriesIn).heldEntries.flatMap fun e => responseReferences e.2)

variable {ps}

theorem references_mono {qs : Value → List String} (h : ∀ v, ps v ⊆ qs v) (operation : Value) :
    references ps operation ⊆ references qs operation := by
  intro r hr
  rw [references, List.mem_append] at hr ⊢
  rcases hr with hr | hr
  · exact .inl (h _ hr)
  · exact .inr hr

variable {ctx : Context} {l l' : Ledger}

theorem resolves_mediaType (hroot : ctx.root = "") {name : Scalar} {media : Value} {text : String}
    (h : (mediaType ctx name media).exec l = (.ok text, l')) :
    Resolves (Schema.ofValue (Value.field "schema" media.entriesIn)).references
      (Schema.ofValue (Value.field "schema" media.entriesIn)).references l l' [text] := by
  rw [mediaType_eq] at h
  obtain ⟨name, l₁, hn, hgo⟩ := exec_bind_ok.mp h
  obtain ⟨type, l₂, ht, hend⟩ := exec_bind_ok.mp hgo
  obtain ⟨_, rfl⟩ := exec_lift_ok.mp hn
  cases hend
  rw [composeType, hroot] at ht
  exact (Schema.resolves_compose _ ht).inside (within_between _ _ _)

theorem resolves_mediaTypes (hroot : ctx.root = "") {entries : Entries} {text : String}
    (h : (mediaTypes ctx entries).exec l = (.ok text, l')) :
    Resolves (mediaReferences entries) (mediaReferences entries) l l' [text] := by
  rw [mediaTypes_eq] at h
  exact resolves_inTurn h fun _ _ _ _ => resolves_mediaType hroot

theorem content_ok {container : Value} {text : String}
    (h : (content ctx container).exec l = (.ok text, l')) :
    (∃ ref expression, Entries.get? "$ref" container.entriesIn = some (.scalar (.text ref)) ∧
      (Compose.refer "" ref).exec l = (.ok expression, l') ∧ text = expression ++ ";") ∨
    (Entries.get? "$ref" container.entriesIn = none ∧ ∃ types,
      (mediaTypes ctx (Value.field "content" container.entriesIn).heldEntries).exec l = (.ok types, l') ∧
        text = "\x7b\n" ++ types ++ "\x7d") := by
  unfold content at h
  obtain ⟨found, l₁, hb, hgo⟩ := exec_bind_ok.mp h
  obtain ⟨hbody, rfl⟩ := exec_lift_ok.mp hb
  cases found with
  | some v =>
    have hv : Entries.get? "$ref" container.entriesIn = some v := by
      unfold bodyReference at hbody
      unfold Value.entriesIn
      split at hbody
      · rename_i entries ho
        rw [ho]
        exact Except.ok.inj hbody
      · split at hbody <;> cases hbody
      · split at hbody <;> cases hbody
      · cases hbody
      · cases hbody
    obtain ⟨ref, l₂, href, hgo⟩ := exec_bind_ok.mp hgo
    obtain ⟨expression, l₃, he, hend⟩ := exec_bind_ok.mp hgo
    obtain ⟨htext, rfl⟩ := exec_lift_ok.mp href
    cases hend
    rw [Reference.ofValue_ok htext] at hv
    exact .inl ⟨ref, expression, hv, he, rfl⟩
  | none =>
    obtain ⟨entries, l₂, hc, hgo⟩ := exec_bind_ok.mp hgo
    obtain ⟨media, l₃, hm, hgo⟩ := exec_bind_ok.mp hgo
    obtain ⟨types, l₄, ht, hend⟩ := exec_bind_ok.mp hgo
    obtain ⟨hentries, rfl⟩ := exec_lift_ok.mp hc
    obtain ⟨hmedia, rfl⟩ := exec_lift_ok.mp hm
    cases hend
    have hv : Entries.get? "$ref" entries = none := by
      unfold bodyReference at hbody
      rw [Value.entriesFor_ok hentries] at hbody
      exact Except.ok.inj hbody
    rw [Value.entriesIn_of_ok hentries, entriesOrNone_ok hmedia]
    exact .inr ⟨hv, types, ht, rfl⟩

theorem resolves_content (hroot : ctx.root = "") {container : Value} {text : String}
    (h : (content ctx container).exec l = (.ok text, l')) :
    Resolves (contentReferences container) (contentReferences container) l l' [text] := by
  unfold contentReferences
  rcases content_ok h with ⟨ref, expression, hv, he, rfl⟩ | ⟨hv, types, ht, rfl⟩
  · rw [hv]
    exact (resolves_refer he).inside (within_left _ _)
  · rw [hv]
    exact (resolves_mediaTypes hroot ht).inside (within_between _ _ _)

/-- The body of a response: what it describes, or what stands for that. -/
def BodyOf (ctx : Context) (entries : Entries) (key : StatusKey) (body : String) (l l' : Ledger) : Prop :=
  if hasBody entries then (content ctx (.map entries)).exec l = (.ok body, l')
  else body = absentBody key ∧ l' = l

/-- A response that is no mapping or empty has no text. Any other is a comment, a key and a body. -/
theorem response_ok {status r : Value} {text : String}
    (h : (response ctx status r).exec l = (.ok text, l')) :
    (r.entriesIn = [] ∧ text = "" ∧ l' = l) ∨
    (r.entriesIn ≠ [] ∧ ∃ name key comment body, status.plain = .ok name ∧
      StatusKey.ofText name = .ok key ∧ Operation.comment r.entriesIn = .ok comment ∧
        BodyOf ctx r.entriesIn key body l l' ∧ text = comment ++ key.text ++ ": " ++ body ++ "\n") := by
  unfold response at h
  split at h
  · rename_i ho
    cases h
    exact .inl ⟨Value.entriesIn_of_map ho, rfl, rfl⟩
  · rename_i entries hne ho
    obtain ⟨name, l₁, hs, hbehindName⟩ := exec_bind_ok.mp h
    obtain ⟨key, l₂, hk, hbehindKey⟩ := exec_bind_ok.mp hbehindName
    obtain ⟨comment, l₃, hc, hgo⟩ := exec_bind_ok.mp hbehindKey
    obtain ⟨hname, rfl⟩ := exec_lift_ok.mp hs
    obtain ⟨hkey, rfl⟩ := exec_lift_ok.mp hk
    obtain ⟨hcomment, rfl⟩ := exec_lift_ok.mp hc
    rw [Value.entriesIn_of_map ho]
    unfold BodyOf
    split at hgo
    · rename_i hbody
      obtain ⟨body, l₄, hb, hend⟩ := exec_bind_ok.mp hgo
      cases hend
      refine .inr ⟨hne, name, key, comment, body, hname, hkey, hcomment, ?_, rfl⟩
      rw [if_pos hbody]
      exact hb
    · rename_i hbody
      cases hgo
      refine .inr ⟨hne, name, key, comment, absentBody key, hname, hkey, hcomment, ?_, rfl⟩
      rw [if_neg hbody]
      exact ⟨rfl, rfl⟩
  · rename_i hmap
    cases h
    refine .inl ⟨?_, rfl, rfl⟩
    unfold Value.entriesIn
    split
    · rename_i entries ho
      exact (hmap entries ho).elim
    · rfl

theorem resolves_response (hroot : ctx.root = "") {status r : Value} {text : String}
    (h : (response ctx status r).exec l = (.ok text, l')) :
    Resolves (responseReferences r) (responseReferences r) l l' [text] := by
  unfold responseReferences
  rcases response_ok h with ⟨hnone, rfl, rfl⟩ | ⟨_, name, key, comment, body, _, _, _, hbody, rfl⟩
  · rw [hnone]
    exact resolves_nothing _ _
  · unfold BodyOf at hbody
    split at hbody
    · rename_i hhas
      rw [if_pos hhas]
      exact (resolves_content hroot hbody).inside (within_between _ _ _)
    · rename_i hhas
      rw [if_neg hhas, hbody.2]
      exact resolves_nothing _ _

theorem resolves_responses (hroot : ctx.root = "") {entries : Entries} {text : String}
    (h : (responses ctx entries).exec l = (.ok text, l')) :
    Resolves (entries.flatMap fun e => responseReferences e.2)
      (entries.flatMap fun e => responseReferences e.2) l l' [text] := by
  rw [responses_eq] at h
  exact resolves_inTurn h fun _ _ _ _ => resolves_response hroot

theorem resolves_requestBody (hroot : ctx.root = "") {body : Value} {text : String}
    (h : (requestBody ctx body).exec l = (.ok text, l')) :
    Resolves (if body.truthy then contentReferences body else [])
      (if body.truthy then contentReferences body else []) l l' [text] := by
  unfold requestBody at h
  split at h
  · rename_i ht
    obtain ⟨type, l₁, hc, hend⟩ := exec_bind_ok.mp h
    cases hend
    rw [if_pos ht]
    apply Resolves.inside (resolves_content hroot hc)
    exact within_between _ _ _
  · rename_i ht
    cases h
    rw [if_neg ht]
    exact resolves_nothing _ _

theorem resolves_compose (hroot : ctx.root = "") {operation : Value} {text : String}
    (h : (compose ctx operation).exec l = (.ok text, l')) :
    Resolves (references (Parameters.references ctx) operation)
      (references (Parameters.shown ctx) operation) l l' [text] := by
  unfold compose at h
  obtain ⟨entries, l₁, he, hgo⟩ := exec_bind_ok.mp h
  obtain ⟨parameters, l₂, hp, hgo⟩ := exec_bind_ok.mp hgo
  obtain ⟨body, l₃, hb, hgo⟩ := exec_bind_ok.mp hgo
  obtain ⟨all, l₄, ha, hgo⟩ := exec_bind_ok.mp hgo
  obtain ⟨answers, l₅, hr, hend⟩ := exec_bind_ok.mp hgo
  obtain ⟨hentries, rfl⟩ := exec_lift_ok.mp he
  obtain ⟨hall, rfl⟩ := exec_lift_ok.mp ha
  cases hend
  unfold references
  rw [Value.entriesIn_of_ok hentries, entriesOrNone_ok hall]
  have htext : "\x7b\n" ++ parameters ++ body ++ "responses: \x7b\n" ++ answers ++ "\x7d\n" ++ "\x7d\n" =
      String.join ["\x7b\n", parameters, body, "responses: \x7b\n", answers, "\x7d\n", "\x7d\n"] := by
    simp only [String.join_cons, String.join_nil, String.append_assoc, String.append_empty]
  refine ((Parameters.resolves_composeIfAny hroot hp).append
    ((resolves_requestBody hroot hb).append (resolves_responses hroot hr))).into fun t hm => ?_
  rw [htext]
  simp only [List.mem_append, List.mem_singleton] at hm
  exact within_concat (by rcases hm with rfl | rfl | rfl <;> simp)

end Operation

end ApiTypes
