import ApiTypes.Proofs.Compose.Alone
import ApiTypes.Proofs.Compose.InTurn

/-!
# The warnings of a schema

A composition adds its warnings behind those that are there, and those of two
compositions in turn stand one after another. A schema is warned of once for each
field without a type, behind the fields inside that one.
-/

set_option autoImplicit false

namespace ApiTypes

namespace Compose

variable {α β : Type}

/-- A computation that adds exactly the given warnings whenever it comes to a result. -/
def Warns (m : Compose α) (ws : List String) : Prop :=
  ∀ l a l', m.exec l = (.ok a, l') → l'.warnings = l.warnings ++ ws

theorem warns_lift (e : Except Fault α) : Warns (liftM e : Compose α) [] := by
  intro l a l' h
  rw [(exec_lift_ok.mp h).2, List.append_nil]

theorem warns_pure (a : α) : Warns (pure a : Compose α) [] := warns_lift (.ok a)

theorem warns_warn (message : String) : Warns (warn message) [message] := by
  intro l a l' h
  cases h
  rfl

theorem warns_warnIf (condition : Bool) (message : String) :
    Warns (warnIf condition message) (if condition then [message] else []) := by
  cases condition with
  | true => exact warns_warn message
  | false => exact warns_pure ()

theorem foldl_addExternal_warnings (keys : List String) (l : Ledger) :
    (keys.foldl Ledger.addExternal l).warnings = l.warnings := by
  induction keys generalizing l with
  | nil => rfl
  | cons key keys ih =>
    rw [List.foldl_cons, ih]
    unfold Ledger.addExternal
    split <;> rfl

theorem warns_refer (root ref : String) : Warns (refer root ref) [] := by
  intro l a l' h
  rw [(refer_ok.mp h).2, foldl_addExternal_warnings, List.append_nil]

/-- The warnings of two computations in turn. The second may depend on what the first came to. -/
theorem Warns.bind {m : Compose α} {f : α → Compose β} {ws vs : List String} (hm : Warns m ws)
    (hf : ∀ a l l', m.exec l = (.ok a, l') → Warns (f a) vs) : Warns (m >>= f) (ws ++ vs) := by
  intro l b l' h
  obtain ⟨a, l₁, hrun, hrest⟩ := exec_bind_ok.mp h
  rw [hf a l l₁ hrun l₁ b l' hrest, hm l a l₁ hrun, List.append_assoc]

theorem warns_lift_bind {e : Except Fault α} {f : α → Compose β} {ws : List String}
    (hf : ∀ a, e = .ok a → Warns (f a) ws) : Warns (liftM e >>= f) ws :=
  (warns_lift e).bind fun a _ _ h => hf a (exec_lift_ok.mp h).1

theorem Warns.before {m : Compose α} {f : α → Compose β} {ws : List String} (hm : Warns m ws)
    (hf : ∀ a, Warns (f a) []) : Warns (m >>= f) ws := by
  have hboth := hm.bind fun a _ _ _ => hf a
  rwa [List.append_nil] at hboth

theorem Warns.map {m : Compose α} {ws : List String} (hm : Warns m ws) (f : α → β) :
    Warns (m >>= fun a => pure (f a)) ws :=
  hm.before fun a => warns_pure (f a)

theorem warns_inTurn {f : α → Compose String} {w : α → List String} (hf : ∀ a, Warns (f a) (w a))
    (as : List α) : Warns (inTurn f as) (as.flatMap w) := by
  induction as with
  | nil => exact warns_pure ""
  | cons a as ih =>
    rw [inTurn, List.flatMap_cons]
    exact (hf a).bind fun _ _ _ _ => ih.map _

end Compose

open Compose

namespace Schema

variable (root : String)

def untyped (name : Scalar) (s : Schema) : List String :=
  if (s.compose root).text = "" then (name.plain.toOption.map Property.warning).toList else []

mutual

/-- The warnings about a schema: one for each field without a type, behind those about the fields
inside it. -/
def warnings : Schema → List String
  | .oneOf members => warningsAll members
  | .anyOf members => warningsAll members
  | .object bases properties additional =>
    warningsAll bases ++ (warningsFields properties ++ warningsAdditional additional)
  | .tuple items => warningsAll items
  | .array item => item.warnings
  | _ => []

def warningsAll : List Schema → List String
  | [] => []
  | s :: rest => s.warnings ++ warningsAll rest

def warningsFields : List (Property × Schema) → List String
  | [] => []
  | (p, s) :: rest => s.warnings ++ (untyped root p.name s ++ warningsFields rest)

def warningsAdditional : Option Schema → List String
  | none => []
  | some s => s.warnings

end

variable {root}

theorem warns_field {p : Property} {s : Schema} {name type : String} {l l' : Ledger}
    (hname : p.name.plain = .ok name) (htype : (s.compose root).exec l = (.ok type, l')) :
    Warns (warnIf (type = Expression.unconstrained) (Property.warning name))
      (untyped root p.name s) := by
  have htext : (s.compose root).text = type :=
    text_of_result (result_of_exec (additive_compose s) htype).1
  have hwarn := warns_warnIf (type = Expression.unconstrained) (Property.warning name)
  simp only [decide_eq_true_eq] at hwarn
  rw [untyped, htext, hname]
  exact hwarn

mutual

theorem warns_compose : ∀ s : Schema, Warns (s.compose root) (s.warnings root)
  | .unrecognised => by
    rw [compose]
    exact warns_pure _
  | .reference ref => by
    rw [compose]
    exact warns_refer root ref
  | .primitive kind => by
    rw [compose]
    exact warns_pure _
  | .enumeration values => by
    rw [compose]
    exact (warns_lift _).map _
  | .oneOf members => by
    rw [compose, warnings]
    exact (warns_composeAll members).map _
  | .anyOf members => by
    rw [compose, warnings]
    exact (warns_composeAll members).map _
  | .object bases properties additional => by
    rw [compose, warnings]
    split
    · rename_i hempty
      simp only [Bool.and_eq_true, List.isEmpty_iff, Option.isNone_iff_eq_none] at hempty
      obtain ⟨⟨rfl, rfl⟩, rfl⟩ := hempty
      rw [warningsAll, warningsFields, warningsAdditional]
      exact warns_pure _
    · exact (warns_composeAll bases).bind fun _ _ _ _ =>
        (warns_composeFields properties).bind fun _ _ _ _ => (warns_composeAdditional additional).map _
  | .tuple items => by
    rw [compose, warnings]
    exact (warns_composeAll items).map _
  | .array item => by
    rw [compose, warnings]
    exact (warns_compose item).map _
  | .malformed bases fault => by
    intro l a l' h
    rw [compose] at h
    obtain ⟨_, _, _, h⟩ := exec_bind_ok.mp h
    cases h

theorem warns_composeAll : ∀ ss : List Schema, Warns (composeAll root ss) (warningsAll root ss)
  | [] => by
    rw [composeAll]
    exact warns_pure _
  | s :: rest => by
    rw [composeAll, warningsAll]
    exact (warns_compose s).bind fun _ _ _ _ => (warns_composeAll rest).map _

theorem warns_composeFields : ∀ ps : List (Property × Schema),
    Warns (composeFields root ps) (warningsFields root ps)
  | [] => by
    rw [composeFields]
    exact warns_pure _
  | (p, s) :: rest => by
    rw [composeFields, warningsFields]
    refine warns_lift_bind fun comment _ => warns_lift_bind fun name hname => ?_
    refine (warns_compose s).bind fun type l l' htype => ?_
    exact (warns_field hname htype).bind fun _ _ _ _ => (warns_composeFields rest).map _

theorem warns_composeAdditional : ∀ s : Option Schema,
    Warns (composeAdditional root s) (warningsAdditional root s)
  | none => by
    rw [composeAdditional]
    exact warns_pure _
  | some s => by
    rw [composeAdditional, warningsAdditional]
    exact (warns_compose s).map _

end

theorem warningsFields_eq (ps : List (Property × Schema)) : warningsFields root ps =
    ps.flatMap fun p => p.2.warnings root ++ untyped root p.1.name p.2 := by
  induction ps with
  | nil => rw [warningsFields]; rfl
  | cons p rest ih => rw [warningsFields, ih, List.flatMap_cons, List.append_assoc]

end Schema

theorem warns_composeType (root : String) (v : Value) :
    Warns (composeType root v) ((Schema.ofValue v).warnings root) :=
  Schema.warns_compose _

end ApiTypes
