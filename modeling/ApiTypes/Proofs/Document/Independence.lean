import ApiTypes.Proofs.Compose.Additive
import Mathlib.Data.List.Induction

/-!
# Calls of a session do not influence each other

A call is answered as it is in a session of its own, whatever calls came before it and
however they ended. What a session records is what its calls record by themselves, each
key and each name once, in the order in which they are first met.
-/

set_option autoImplicit false

namespace ApiTypes

namespace Entries

variable {α : Type}

/-- The first entries under the keys of two lists of which the second has no key twice. -/
theorem firsts_append {more : List (Scalar × α)} (h : Distinct more) (entries : List (Scalar × α)) :
    firsts (entries ++ more) =
      firsts entries ++ more.filter fun e => !entries.any fun f => f.1.same e.1 := by
  induction more using List.reverseRecOn with
  | nil => simp
  | append_singleton more e ih =>
    obtain ⟨hmore, -, hlast⟩ := List.pairwise_append.mp h
    have hnew : (more.any fun f => f.1.same e.1) = false := by
      apply Bool.eq_false_iff.mpr
      intro hany
      obtain ⟨f, hf, hsame⟩ := List.any_eq_true.mp hany
      rw [hlast f hf e (by simp)] at hsame
      cases hsame
    rw [← List.append_assoc, firsts_append_one, ih hmore, List.any_append, hnew, Bool.or_false,
      List.filter_append]
    cases hold : entries.any fun f => f.1.same e.1 with
    | true => simp [hold]
    | false => simp [hold]

theorem find?_append {key : Scalar} {entries : List (Scalar × α)} {v : α}
    (h : find? key entries = some v) (more : List (Scalar × α)) :
    find? key (entries ++ more) = some v := by
  induction entries with
  | nil => cases h
  | cons e rest ih =>
    obtain ⟨k, w⟩ := e
    rw [find?_cons] at h
    rw [List.cons_append, find?_cons]
    by_cases hk : k.same key = true
    · rw [if_pos hk] at h ⊢
      exact h
    · rw [if_neg hk] at h ⊢
      exact ih h

end Entries

theorem eraseDups_append_nodup {more : List String} (h : more.Nodup) (keys : List String) :
    (keys ++ more).eraseDups = keys.eraseDups ++ more.filter (· ∉ keys) := by
  have hkeep : ∀ ks : List String, ks.Nodup → ks.eraseDups = ks := by
    intro ks hks
    induction ks with
    | nil => rfl
    | cons k rest ih =>
      obtain ⟨hk, hrest⟩ := List.nodup_cons.mp hks
      have hfilter : (rest.filter fun m => !m == k) = rest := by
        rw [List.filter_eq_self]
        intro m hm
        have hne : m ≠ k := fun he => hk (he ▸ hm)
        simp [hne]
      rw [List.eraseDups_cons, hfilter, ih hrest]
  rw [List.eraseDups_append, List.removeAll, hkeep _ (h.filter _)]
  congr 2
  funext k
  simp

namespace Session

open Compose

/-- A call in a session of its own: its answer, and what it records. -/
def Call.alone (ctx : Context) (call : Call) : Except Fault Answer × Ledger :=
  (call.compose ctx).exec .empty

def recorded (ctx : Context) (calls : List Call) : Ledger := (run ctx calls .empty).2

/-- A call behind earlier ones, which may have ended in faults, compared with the call in a session of
its own. -/
structure Independent (ctx : Context) (earlier : List Call) (call : Call) : Prop where
  answer : ((call.compose ctx).exec (recorded ctx earlier)).1 = (call.alone ctx).1
  warnings : (recorded ctx (earlier ++ [call])).warnings =
    (recorded ctx earlier).warnings ++ (call.alone ctx).2.warnings
  externals : (recorded ctx (earlier ++ [call])).externals = (recorded ctx earlier).externals ++
    (call.alone ctx).2.externals.filter (· ∉ (recorded ctx earlier).externals)
  operations : (recorded ctx (earlier ++ [call])).operations = (recorded ctx earlier).operations ++
    (call.alone ctx).2.operations.filter fun o =>
      !(recorded ctx earlier).operations.any fun p => p.1.same o.1
  kept : ∀ id operation, Entries.find? id (recorded ctx earlier).operations = some operation →
    Entries.find? id (recorded ctx (earlier ++ [call])).operations = some operation

/-- A whole session, compared with its calls in sessions of their own. -/
structure Apart (ctx : Context) (calls : List Call) : Prop where
  answers : (run ctx calls .empty).1 = calls.map fun call => (call.alone ctx).1
  warnings : (recorded ctx calls).warnings = calls.flatMap fun call => (call.alone ctx).2.warnings
  externals : (recorded ctx calls).externals =
    (calls.flatMap fun call => (call.alone ctx).2.externals).eraseDups
  operations : (recorded ctx calls).operations =
    Entries.firsts (calls.flatMap fun call => (call.alone ctx).2.operations)

variable (ctx : Context)

theorem exec_call (call : Call) (l : Ledger) : (call.compose ctx).exec l =
    ((call.alone ctx).1, l.extended (call.alone ctx).2) :=
  call.closed_compose closed_additive ctx l

theorem orderly_alone (call : Call) : (call.alone ctx).2.Orderly :=
  call.closed_compose closed_keepsOrder ctx .empty Ledger.orderly_empty

/-- Calls on any ledger: their answers do not depend on it, and each adds what it records. -/
theorem run_eq (calls : List Call) (l : Ledger) : run ctx calls l =
    (calls.map fun call => (call.alone ctx).1,
      calls.foldl (fun l call => l.extended (call.alone ctx).2) l) := by
  induction calls generalizing l with
  | nil => rfl
  | cons call rest ih =>
    rw [run, exec_call]
    dsimp only
    rw [ih, List.map_cons, List.foldl_cons]

theorem recorded_append (earlier : List Call) (call : Call) :
    recorded ctx (earlier ++ [call]) = (recorded ctx earlier).extended (call.alone ctx).2 := by
  rw [recorded, recorded, run_eq, run_eq, List.foldl_append, List.foldl_cons, List.foldl_nil]

theorem independent_call (earlier : List Call) (call : Call) : Independent ctx earlier call where
  answer := by rw [exec_call]
  warnings := by
    rw [recorded_append]
    rfl
  externals := by
    rw [recorded_append, Ledger.extended, Ledger.appended_keys]
  operations := by
    rw [recorded_append]
    rfl
  kept id operation h := by
    rw [recorded_append]
    exact Entries.find?_append h _

theorem apart_calls (calls : List Call) : Apart ctx calls := by
  induction calls using List.reverseRecOn with
  | nil => exact ⟨rfl, rfl, rfl, rfl⟩
  | append_singleton earlier call ih =>
    have hcall := independent_call ctx earlier call
    have horder := orderly_alone ctx call
    constructor
    case answers => rw [run_eq]
    case warnings => rw [hcall.warnings, ih.warnings, List.flatMap_append, List.flatMap_singleton]
    case externals =>
      rw [hcall.externals, ih.externals, List.flatMap_append, List.flatMap_singleton,
        eraseDups_append_nodup horder.externals]
      simp only [List.mem_eraseDups]
    case operations =>
      rw [hcall.operations, ih.operations, List.flatMap_append, List.flatMap_singleton,
        Entries.firsts_append horder.operations]
      simp only [Entries.any_firsts]

/-- What a session has recorded influences no answer, and it only grows. -/
theorem session_independent (calls : List Call) :
    Apart ctx calls ∧ ∀ earlier call later, calls = earlier ++ call :: later →
      Independent ctx earlier call :=
  ⟨apart_calls ctx calls, fun earlier call _ _ => independent_call ctx earlier call⟩

end Session

end ApiTypes
