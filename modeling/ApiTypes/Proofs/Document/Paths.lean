import ApiTypes.Proofs.Document.Operations

/-!
# What a path declares

The operations of a path item are those under its methods. The named ones are
declared in the ledger, the first under each id, and stand in the path as names;
the others stand in the path themselves.
-/

set_option autoImplicit false

namespace ApiTypes

open Compose

namespace Operation

def alone (ctx : Context) (operation : Value) : Except Fault String :=
  ((compose ctx operation).exec .empty).1

theorem alone_of_exec {ctx : Context} {operation : Value} {l l' : Ledger} {text : String}
    (h : (compose ctx operation).exec l = (.ok text, l')) : alone ctx operation = .ok text := by
  obtain ⟨l₁, h₁⟩ := (plain_compose ctx operation).exec_ok h .empty
  rw [alone, h₁]

end Operation

namespace Parameters

def alone (ctx : Context) (parameters : Value) : Except Fault String :=
  ((composeIfAny ctx parameters).exec .empty).1

theorem alone_of_exec {ctx : Context} {parameters : Value} {l l' : Ledger} {text : String}
    (h : (composeIfAny ctx parameters).exec l = (.ok text, l')) : alone ctx parameters = .ok text := by
  obtain ⟨l₁, h₁⟩ := (plain_composeIfAny ctx parameters).exec_ok h .empty
  rw [alone, h₁]

end Parameters

namespace Compose

/-- The operations declared are the first under each id, in the order in which the ids occur. -/
def Registers (os : List (Scalar × Value)) (l l' : Ledger) : Prop :=
  ∀ before, l.operations = Entries.firsts before → l'.operations = Entries.firsts (before ++ os)

variable {os more : List (Scalar × Value)} {l l₁ l' : Ledger}

theorem registers_same (h : l'.operations = l.operations) : Registers [] l l' := by
  intro before hb
  rw [h, hb, List.append_nil]

theorem Registers.append (h : Registers os l l₁) (h' : Registers more l₁ l') :
    Registers (os ++ more) l l' := by
  intro before hb
  rw [h' _ (h before hb), List.append_assoc]

theorem registers_addOperation (l : Ledger) (id : Scalar) (operation : Value) :
    Registers [(id, operation)] l (l.addOperation id operation) := by
  intro before hb
  have hany := Entries.find?_isSome id l.operations
  rw [hb, Entries.any_firsts] at hany
  rw [Entries.firsts_append_one, ← hany, ← hb]
  unfold Ledger.addOperation
  cases Entries.find? id l.operations <;> rfl

theorem RunInTurn.registers {α : Type} {f : α → Compose String} {as : List α} {ts : List String}
    {n : α → List (Scalar × Value)} (h : RunInTurn f as ts l l')
    (hn : ∀ a t l l', (f a).exec l = (.ok t, l') → Registers (n a) l l') :
    Registers (as.flatMap n) l l' := by
  induction h with
  | nil l => exact registers_same rfl
  | cons first _ ih => exact (hn _ _ _ _ first).append ih

theorem addOperation_externals (l : Ledger) (id : Scalar) (operation : Value) :
    (l.addOperation id operation).externals = l.externals := by
  unfold Ledger.addOperation
  split <;> rfl

theorem registers_plain {α : Type} {m : Compose α} (hm : Plain m) {r : Except Fault α}
    (h : m.exec l = (r, l')) : Registers [] l l' := by
  have ho := hm.operations l
  rw [h] at ho
  exact registers_same ho

end Compose

namespace Paths

def isNamed (operation : Entries) : Bool := (Value.field "operationId" operation).truthy

def id? (operation : Entries) : Option Scalar :=
  match Value.field "operationId" operation with
  | .scalar id => if id.truthy then some id else none
  | _ => none

def namedIn (entries : Entries) : List (Scalar × Value) :=
  (methodEntries entries).filterMap fun m => (id? m.2).map fun id => (id, .map m.2)

def pathItems (paths : Value) : List (Scalar × Entries) :=
  paths.heldEntries.filterMap Value.mappingAt?

def named (paths : Value) : List (Scalar × Value) := (pathItems paths).flatMap fun p => namedIn p.2

variable (ps : Value → List String)

/-- The references of the operations that stand in a path item, and of its parameters. -/
def itemReferences (entries : Entries) : List String :=
  ((methodEntries entries).flatMap fun m =>
    if isNamed m.2 then [] else Operation.references ps (.map m.2)) ++
      ps (Value.field "parameters" entries)

def references (paths : Value) : List String := (pathItems paths).flatMap fun p => itemReferences ps p.2

variable {ps}

theorem references_mono {qs : Value → List String} (h : ∀ v, ps v ⊆ qs v) (paths : Value) :
    references ps paths ⊆ references qs paths := by
  intro r hr
  obtain ⟨p, hp, hr⟩ := List.mem_flatMap.mp hr
  apply List.mem_flatMap.mpr
  rw [itemReferences, List.mem_append] at hr
  rcases hr with hr | hr
  · obtain ⟨m, hm, hr⟩ := List.mem_flatMap.mp hr
    split at hr
    · cases hr
    · rename_i hnamed
      have hitem : r ∈ (if isNamed m.2 then [] else Operation.references qs (.map m.2)) := by
        rw [if_neg hnamed]
        exact Operation.references_mono h _ hr
      exact ⟨p, hp, List.mem_append_left _ (List.mem_flatMap.mpr ⟨m, hm, hitem⟩)⟩
  · exact ⟨p, hp, List.mem_append_right _ (h _ hr)⟩

variable {ctx : Context} {l l' : Ledger}

/-- The text of an operation in its path: its name, or the operation itself. -/
inductive Entry (ctx : Context) : String × Entries → String → Prop
  | named {method : String} {operation : Entries} {id : Scalar} {name : String}
      (hid : id? operation = some id) (hname : id.plain = .ok name) :
      Entry ctx (method, operation) (methodHead method ++ operationName name ++ ";\n")
  | inlined {method : String} {operation : Entries} {comment type : String}
      (hid : isNamed operation = false) (hc : Operation.comment operation = .ok comment)
      (ht : Operation.alone ctx (.map operation) = .ok type) :
      Entry ctx (method, operation) (comment ++ methodHead method ++ type)

theorem operation_ok (hroot : ctx.root = "") {method : String} {operation : Entries} {text : String}
    (h : (Paths.operation ctx method operation).exec l = (.ok text, l')) :
    Entry ctx (method, operation) text ∧
      Registers ((id? operation).map fun id => (id, Value.map operation)).toList l l' ∧
      Resolves (if isNamed operation then [] else
          Operation.references (Parameters.references ctx) (.map operation))
        (if isNamed operation then [] else
          Operation.references (Parameters.shown ctx) (.map operation)) l l' [text] := by
  unfold Paths.operation at h
  unfold isNamed
  dsimp only at h
  split at h
  · rename_i ht
    obtain ⟨_, l₁, hd, hgo⟩ := exec_bind_ok.mp h
    obtain ⟨name, l₂, hn, hend⟩ := exec_bind_ok.mp hgo
    obtain ⟨id, hfield, rfl⟩ := declareOperation_ok hd
    obtain ⟨hname, rfl⟩ := exec_lift_ok.mp hn
    cases hend
    rw [hfield] at ht hname
    have hid : id? operation = some id := by
      unfold id?
      rw [hfield]
      exact if_pos ht
    rw [hfield, if_pos ht, if_pos ht, hid]
    refine ⟨.named hid hname, registers_addOperation _ _ _, ?_⟩
    exact resolves_same (addOperation_externals _ _ _) _
  · rename_i ht
    obtain ⟨comment, l₁, hc, hgo⟩ := exec_bind_ok.mp h
    obtain ⟨type, l₂, hcompose, hend⟩ := exec_bind_ok.mp hgo
    obtain ⟨hcomment, rfl⟩ := exec_lift_ok.mp hc
    cases hend
    have hid : id? operation = none := by
      unfold id?
      split
      · rename_i id hfield
        rw [hfield] at ht
        exact if_neg ht
      · rfl
    rw [if_neg ht, if_neg ht, hid]
    refine ⟨.inlined (by simpa [isNamed] using ht) hcomment (Operation.alone_of_exec hcompose),
      registers_plain (Operation.plain_compose ctx _) hcompose, ?_⟩
    apply Resolves.inside (Operation.resolves_compose hroot hcompose)
    exact within_right _ _

theorem operations_ok (hroot : ctx.root = "") {entries : Entries} {text : String}
    (h : (operations ctx entries).exec l = (.ok text, l')) :
    ∃ texts, text = String.join texts ∧ List.Forall₂ (Entry ctx) (methodEntries entries) texts ∧
      Registers (namedIn entries) l l' ∧
      Resolves ((methodEntries entries).flatMap fun m => if isNamed m.2 then [] else
          Operation.references (Parameters.references ctx) (.map m.2))
        ((methodEntries entries).flatMap fun m => if isNamed m.2 then [] else
          Operation.references (Parameters.shown ctx) (.map m.2)) l l' texts := by
  rw [operations_eq] at h
  obtain ⟨texts, rfl, hruns⟩ := inTurn_ok h
  have hregisters := hruns.registers fun _ _ _ _ hm => (operation_ok hroot hm).2.1
  rw [← List.filterMap_eq_flatMap_toList] at hregisters
  exact ⟨texts, rfl, hruns.forall₂ fun _ _ _ _ hm => (operation_ok hroot hm).1, hregisters,
    hruns.resolves fun _ _ _ _ hm => (operation_ok hroot hm).2.2⟩

/-- The text of a path item: its operations, and the parameters that they share. -/
structure Item (ctx : Context) (p : Scalar × Entries) (text : String) : Prop where
  parts : ∃ path texts shared, p.1.plain = .ok path ∧
    List.Forall₂ (Entry ctx) (methodEntries p.2) texts ∧
      Parameters.alone ctx (Value.field "parameters" p.2) = .ok shared ∧
        text = block path (String.join texts ++ shared)

theorem item_ok (hroot : ctx.root = "") {path : Scalar} {entries : Entries} {name body : String}
    (hn : path.plain = .ok name) (h : (item ctx (.map entries)).exec l = (.ok body, l')) :
    Item ctx (path, entries) (block name body) ∧ Registers (namedIn entries) l l' ∧
      Resolves (itemReferences (Parameters.references ctx) entries)
        (itemReferences (Parameters.shown ctx) entries) l l' [block name body] := by
  unfold item at h
  obtain ⟨found, l₁, he, hgo⟩ := exec_bind_ok.mp h
  obtain ⟨declared, l₂, hd, hgo⟩ := exec_bind_ok.mp hgo
  obtain ⟨shared, l₃, hs, hend⟩ := exec_bind_ok.mp hgo
  obtain ⟨hfound, rfl⟩ := exec_lift_ok.mp he
  cases hfound
  cases hend
  obtain ⟨texts, rfl, hall, hreg, hres⟩ := operations_ok hroot hd
  have hparameters := Parameters.resolves_composeIfAny hroot hs
  have hshared := registers_plain (Parameters.plain_composeIfAny ctx _) hs
  refine ⟨⟨name, texts, shared, hn, hall, Parameters.alone_of_exec hs, rfl⟩, ?_, ?_⟩
  · have hboth := hreg.append hshared
    rwa [List.append_nil] at hboth
  · have hoperations := hres.into fun t hm => within_concat hm
    exact (hoperations.joined hparameters).inside (within_between _ _ _)

theorem entry_ok (hroot : ctx.root = "") {p : Scalar × Entries} {text : String}
    (h : (entry ctx p).exec l = (.ok text, l')) :
    Item ctx p text ∧ Registers (namedIn p.2) l l' ∧
      Resolves (itemReferences (Parameters.references ctx) p.2)
        (itemReferences (Parameters.shown ctx) p.2) l l' [text] := by
  unfold entry at h
  obtain ⟨name, l₁, hn, hgo⟩ := exec_bind_ok.mp h
  obtain ⟨body, l₂, hb, hend⟩ := exec_bind_ok.mp hgo
  obtain ⟨hname, rfl⟩ := exec_lift_ok.mp hn
  cases hend
  exact item_ok hroot hname hb

theorem items_ok (hroot : ctx.root = "") {entries : Entries} {text : String}
    (h : (items ctx entries).exec l = (.ok text, l')) :
    ∃ texts, text = String.join texts ∧
      List.Forall₂ (Item ctx) (entries.filterMap Value.mappingAt?) texts ∧
      Registers ((entries.filterMap Value.mappingAt?).flatMap fun p => namedIn p.2) l l' ∧
      Resolves ((entries.filterMap Value.mappingAt?).flatMap fun p =>
          itemReferences (Parameters.references ctx) p.2)
        ((entries.filterMap Value.mappingAt?).flatMap fun p =>
          itemReferences (Parameters.shown ctx) p.2) l l' texts := by
  rw [items_eq] at h
  obtain ⟨texts, rfl, hruns⟩ := inTurn_ok h
  exact ⟨texts, rfl, hruns.forall₂ fun _ _ _ _ hp => (entry_ok hroot hp).1,
    hruns.registers fun _ _ _ _ hp => (entry_ok hroot hp).2.1,
    hruns.resolves fun _ _ _ _ hp => (entry_ok hroot hp).2.2⟩

theorem block_ok (hroot : ctx.root = "") {paths : Value} {text : String}
    (h : (Generator.pathsBlock ctx paths).exec l = (.ok text, l')) :
    ∃ texts, text = (if paths.truthy
        then Generator.interface "paths" (String.join texts) ++ "\n" else "") ∧
      List.Forall₂ (Item ctx) (pathItems paths) texts ∧ Registers (named paths) l l' ∧
        Resolves (references (Parameters.references ctx) paths)
          (references (Parameters.shown ctx) paths) l l' [text] := by
  unfold Generator.pathsBlock at h
  unfold named references pathItems Value.heldEntries
  split at h
  · rename_i ht
    obtain ⟨body, l₁, hb, hend⟩ := exec_bind_ok.mp h
    cases hend
    unfold compose at hb
    obtain ⟨entries, l₂, he, hitems⟩ := exec_bind_ok.mp hb
    obtain ⟨hentries, rfl⟩ := exec_lift_ok.mp he
    obtain ⟨texts, rfl, hall, hreg, hres⟩ := items_ok hroot hitems
    rw [if_pos ht, Value.entriesIn_of_ok hentries]
    refine ⟨texts, (if_pos ht).symm, hall, hreg, hres.into fun t hm => ?_⟩
    unfold Generator.interface
    exact (within_concat hm).trans ((within_between _ _ _).trans (within_left _ _))
  · rename_i ht
    cases h
    rw [if_neg ht]
    exact ⟨[], (if_neg ht).symm, .nil, registers_same rfl, resolves_nothing _ _⟩

end Paths

end ApiTypes
