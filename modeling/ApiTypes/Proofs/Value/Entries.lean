import ApiTypes.Value.Basic
import Mathlib.Data.List.Forall2
import Mathlib.Data.List.Nodup

/-!
# Entries under keys

What is found under a key, what setting a value changes, and which entries are
the first under their keys.
-/

set_option autoImplicit false

namespace ApiTypes

namespace Scalar

theorem same_iff {a b : Scalar} : a.same b = true ↔ a.keyForm = b.keyForm := decide_eq_true_iff

theorem same_refl (a : Scalar) : a.same a = true := same_iff.mpr rfl

theorem same_comm (a b : Scalar) : a.same b = b.same a := by
  rw [Bool.eq_iff_iff, same_iff, same_iff]
  exact eq_comm

theorem same_congr {a b : Scalar} (h : a.same b = true) (c : Scalar) : a.same c = b.same c := by
  rw [Bool.eq_iff_iff, same_iff, same_iff, same_iff.mp h]

theorem same_text {a : Scalar} {s : String} : a.same (.text s) = true ↔ a = .text s := by
  rw [same_iff]
  constructor
  · intro h
    cases a with
    | null => cases h
    | bool b => cases h
    | int n => cases h
    | float x =>
      simp only [keyForm] at h
      split at h <;> cases h
    | text t =>
      cases h
      rfl
    | date d => cases h
    | moment m =>
      simp only [keyForm] at h
      split at h <;> cases h
  · rintro rfl
    rfl

end Scalar

namespace Entries

variable {α β : Type}

theorem find?_cons (key k : Scalar) (v : α) (rest : List (Scalar × α)) :
    find? key ((k, v) :: rest) = if k.same key then some v else find? key rest := rfl

theorem find?_map (f : α → β) (key : Scalar) (entries : List (Scalar × α)) :
    find? key (entries.map fun e => (e.1, f e.2)) = (find? key entries).map f := by
  induction entries with
  | nil => rfl
  | cons e rest ih =>
    obtain ⟨k, v⟩ := e
    rw [List.map_cons, find?_cons, find?_cons, ih]
    split <;> rfl

theorem find?_congr {key name : Scalar} (h : key.same name = true) (entries : List (Scalar × α)) :
    find? key entries = find? name entries := by
  induction entries with
  | nil => rfl
  | cons e rest ih =>
    obtain ⟨k, v⟩ := e
    rw [find?_cons, find?_cons, ih, Scalar.same_comm k, Scalar.same_congr h, Scalar.same_comm name]

theorem find?_some {key : Scalar} {entries : List (Scalar × α)} {v : α}
    (h : find? key entries = some v) : ∃ k, k.same key = true ∧ (k, v) ∈ entries := by
  induction entries with
  | nil => cases h
  | cons e rest ih =>
    obtain ⟨k, w⟩ := e
    rw [find?_cons] at h
    split at h
    · rename_i hk
      cases h
      exact ⟨k, hk, by simp⟩
    · obtain ⟨k', hk, hm⟩ := ih h
      exact ⟨k', hk, by simp [hm]⟩

theorem find?_isSome (key : Scalar) (entries : List (Scalar × α)) :
    (find? key entries).isSome = entries.any fun e => e.1.same key := by
  induction entries with
  | nil => rfl
  | cons e rest ih =>
    obtain ⟨k, w⟩ := e
    rw [find?_cons, List.any_cons, ← ih]
    cases k.same key <;> rfl

theorem find?_put (key name : Scalar) (v : α) (entries : List (Scalar × α)) :
    find? name (put key v entries) = if key.same name then some v else find? name entries := by
  induction entries with
  | nil => rfl
  | cons e rest ih =>
    obtain ⟨k, w⟩ := e
    rw [put]
    by_cases hk : k.same key = true
    · rw [if_pos hk, find?_cons, find?_cons, Scalar.same_congr hk]
      split <;> rfl
    · rw [if_neg hk, find?_cons, find?_cons, ih]
      by_cases hn : k.same name = true
      · have hne : key.same name ≠ true := by
          intro h
          rw [Scalar.same_comm] at h
          have hname : name.same key = true := by
            rw [Scalar.same_congr h]
            exact Scalar.same_refl key
          exact hk ((Scalar.same_congr hn key).trans hname)
        rw [if_pos hn, if_neg hne, if_pos hn]
      · rw [if_neg hn, if_neg hn]

/-- No two entries are under one key. -/
def Distinct (entries : List (Scalar × α)) : Prop :=
  entries.Pairwise fun e f => e.1.same f.1 = false

theorem any_put (key name : Scalar) (v : α) (entries : List (Scalar × α)) :
    ((put key v entries).any fun e => e.1.same name) =
      (key.same name || entries.any fun e => e.1.same name) := by
  rw [← find?_isSome, ← find?_isSome, find?_put]
  cases key.same name <;> rfl

theorem keys_put (key : Scalar) (v : α) (entries : List (Scalar × α)) :
    (put key v entries).map (·.1) = if entries.any fun e => e.1.same key
      then entries.map (·.1) else entries.map (·.1) ++ [key] := by
  induction entries with
  | nil => rfl
  | cons e rest ih =>
    obtain ⟨k, w⟩ := e
    rw [put, List.any_cons]
    by_cases hk : k.same key = true
    · rw [if_pos hk, if_pos (by simp [hk])]
      rfl
    · rw [if_neg hk, List.map_cons, ih, Bool.eq_false_iff.mpr hk, Bool.false_or]
      split <;> rfl

theorem distinct_put {entries : List (Scalar × α)} (h : Distinct entries) (key : Scalar) (v : α) :
    Distinct (put key v entries) := by
  induction entries with
  | nil => exact List.pairwise_singleton _ _
  | cons e rest ih =>
    obtain ⟨k, w⟩ := e
    obtain ⟨hfirst, hrest⟩ := List.pairwise_cons.mp h
    rw [put]
    split
    · exact List.pairwise_cons.mpr ⟨hfirst, hrest⟩
    · rename_i hk
      refine List.pairwise_cons.mpr ⟨fun f hf => Bool.eq_false_iff.mpr fun hsame => ?_, ih hrest⟩
      have hany : ((put key v rest).any fun e => e.1.same k) = true :=
        List.any_eq_true.mpr ⟨f, hf, by rw [Scalar.same_comm]; exact hsame⟩
      rw [any_put, Bool.or_eq_true, List.any_eq_true] at hany
      rcases hany with hkey | ⟨g, hg, hsame⟩
      · rw [Scalar.same_comm] at hkey
        exact hk hkey
      · rw [Scalar.same_comm] at hsame
        exact Bool.false_ne_true ((hfirst g hg).symm.trans hsame)

theorem distinct_ofPairs (pairs : List (Scalar × α)) : Distinct (ofPairs pairs) := by
  unfold ofPairs
  have hfold : ∀ entries : List (Scalar × α), Distinct entries →
      Distinct (pairs.foldl (fun entries p => put p.1 p.2 entries) entries) := by
    induction pairs with
    | nil => exact fun _ h => h
    | cons p rest ih => exact fun entries h => ih _ (distinct_put h p.1 p.2)
  exact hfold [] .nil

theorem find?_of_mem {entries : List (Scalar × α)} (h : Distinct entries) {e : Scalar × α}
    (he : e ∈ entries) : find? e.1 entries = some e.2 := by
  induction entries with
  | nil => cases he
  | cons f rest ih =>
    obtain ⟨hfirst, hrest⟩ := List.pairwise_cons.mp h
    obtain ⟨k, v⟩ := f
    rw [find?_cons]
    rcases List.mem_cons.mp he with rfl | he
    · rw [if_pos (Scalar.same_refl _)]
    · rw [if_neg (by simp [hfirst e he])]
      exact ih hrest he

theorem Distinct.perm {entries entries' : List (Scalar × α)} (h : Distinct entries)
    (hp : entries.Perm entries') : Distinct entries' := by
  refine (hp.pairwise_iff fun {e f} hne => ?_).mp h
  rw [Scalar.same_comm]
  exact hne

/-- Where no key is there twice, what is found under one does not depend on the order. -/
theorem find?_perm {entries entries' : List (Scalar × α)} (h : Distinct entries)
    (hp : entries.Perm entries') (key : Scalar) : find? key entries' = find? key entries := by
  cases hfind : find? key entries with
  | some v =>
    obtain ⟨k, hk, hm⟩ := find?_some hfind
    rw [← find?_congr hk]
    exact find?_of_mem (h.perm hp) (hp.mem_iff.mp hm)
  | none =>
    have hany := find?_isSome key entries
    rw [hfind, hp.any_eq, ← find?_isSome] at hany
    exact Option.not_isSome_iff_eq_none.mp (by simp [← hany])

theorem forall_put {P : Scalar → Prop} {Q : α → Prop} {key : Scalar} {v : α}
    {entries : List (Scalar × α)} (h : ∀ e ∈ entries, P e.1 ∧ Q e.2) (hk : P key) (hv : Q v) :
    ∀ e ∈ put key v entries, P e.1 ∧ Q e.2 := by
  induction entries with
  | nil =>
    intro e he
    rw [List.mem_singleton.mp he]
    exact ⟨hk, hv⟩
  | cons f rest ih =>
    obtain ⟨⟨hfk, hfv⟩, hrest⟩ := List.forall_mem_cons.mp h
    obtain ⟨k, w⟩ := f
    rw [put]
    split
    · exact List.forall_mem_cons.mpr ⟨⟨hfk, hv⟩, hrest⟩
    · exact List.forall_mem_cons.mpr ⟨⟨hfk, hfv⟩, ih hrest⟩

theorem Distinct.nodup_keys {entries : List (Scalar × α)} (h : Distinct entries) :
    (entries.map (·.1)).Nodup := by
  refine List.pairwise_map.mpr (h.imp fun {e f} hne heq => ?_)
  rw [heq, Scalar.same_refl] at hne
  cases hne

theorem Distinct.of_keys {entries : List (Scalar × α)} {others : List (Scalar × β)} (h : Distinct others)
    (hkeys : entries.map (·.1) = others.map (·.1)) : Distinct entries := by
  have hpairs : (others.map (·.1)).Pairwise fun k m => k.same m = false := List.pairwise_map.mpr h
  rw [← hkeys] at hpairs
  exact List.pairwise_map.mp hpairs

theorem mem_of_get? {name : String} {entries : List (Scalar × α)} {v : α}
    (h : get? name entries = some v) : (.text name, v) ∈ entries := by
  obtain ⟨k, hk, hm⟩ := find?_some h
  rw [Scalar.same_text.mp hk] at hm
  exact hm

def firsts : List (Scalar × α) → List (Scalar × α)
  | [] => []
  | e :: rest => e :: (firsts rest).filter fun f => !e.1.same f.1

theorem mem_of_firsts {entries : List (Scalar × α)} {e : Scalar × α} (h : e ∈ firsts entries) :
    e ∈ entries := by
  induction entries with
  | nil => cases h
  | cons f rest ih =>
    rw [firsts] at h
    rcases List.mem_cons.mp h with rfl | h
    · simp
    · simp [ih (List.mem_filter.mp h).1]

theorem any_firsts (key : Scalar) (entries : List (Scalar × α)) :
    ((firsts entries).any fun e => e.1.same key) = entries.any fun e => e.1.same key := by
  induction entries with
  | nil => rfl
  | cons e rest ih =>
    rw [firsts, List.any_cons, List.any_cons, ← ih]
    cases he : e.1.same key with
    | true => rfl
    | false =>
      rw [Bool.false_or, Bool.false_or, List.any_filter]
      congr 1
      funext f
      cases hf : f.1.same key with
      | false => rw [Bool.and_false]
      | true =>
        have hne : e.1.same f.1 = false := by
          rw [Scalar.same_comm, Scalar.same_congr hf, Scalar.same_comm]
          exact he
        rw [hne]
        rfl

theorem distinct_firsts (entries : List (Scalar × α)) : Distinct (firsts entries) := by
  induction entries with
  | nil => exact .nil
  | cons e rest ih =>
    refine List.pairwise_cons.mpr ⟨fun f hf => ?_, ih.filter _⟩
    simpa using (List.mem_filter.mp hf).2

theorem mem_firsts {entries : List (Scalar × α)}
    (h : ∀ e ∈ entries, ∀ f ∈ entries, e.1.same f.1 = true → e = f) {e : Scalar × α} :
    e ∈ firsts entries ↔ e ∈ entries := by
  constructor
  · exact mem_of_firsts
  · intro he
    have hany : (entries.any fun f => f.1.same e.1) = true :=
      List.any_eq_true.mpr ⟨e, he, Scalar.same_refl _⟩
    rw [← any_firsts] at hany
    obtain ⟨f, hf, hsame⟩ := List.any_eq_true.mp hany
    rwa [h f (mem_of_firsts hf) e he hsame] at hf

/-- The first entries of a list and of the list in another order, if entries under one key are the
same. -/
theorem firsts_perm {entries entries' : List (Scalar × α)}
    (h : ∀ e ∈ entries, ∀ f ∈ entries, e.1.same f.1 = true → e = f) (hp : entries.Perm entries') :
    (firsts entries).Perm (firsts entries') := by
  have h' : ∀ e ∈ entries', ∀ f ∈ entries', e.1.same f.1 = true → e = f :=
    fun e he f hf => h e (hp.mem_iff.mpr he) f (hp.mem_iff.mpr hf)
  have hnodup : ∀ es : List (Scalar × α), (firsts es).Nodup :=
    fun es => List.Nodup.of_map _ (distinct_firsts es).nodup_keys
  refine (List.perm_ext_iff_of_nodup (hnodup _) (hnodup _)).mpr fun e => ?_
  rw [mem_firsts h, mem_firsts h', hp.mem_iff]

/-- An entry behind others is the first under its key if none of them is under it. -/
theorem firsts_append_one (entries : List (Scalar × α)) (e : Scalar × α) :
    firsts (entries ++ [e]) =
      if entries.any fun f => f.1.same e.1 then firsts entries else firsts entries ++ [e] := by
  induction entries with
  | nil => rfl
  | cons f rest ih =>
    rw [List.cons_append, firsts, ih, List.any_cons, firsts]
    cases hf : f.1.same e.1 with
    | true =>
      rw [Bool.true_or, if_pos rfl]
      split
      · rfl
      · rw [List.filter_append, List.filter_cons_of_neg (by simp [hf]), List.filter_nil, List.append_nil]
    | false =>
      rw [Bool.false_or]
      split
      · rfl
      · rw [List.filter_append, List.filter_cons_of_pos (by simp [hf]), List.filter_nil]
        rfl

/-- The keys that stand in the order of first occurrence stay so when one more is set. -/
theorem keys_put_firsts {entries : List (Scalar × α)} {occurring : List (Scalar × β)}
    (h : entries.map (·.1) = (firsts occurring).map (·.1)) (key : Scalar) (v : α) (w : β) :
    (put key v entries).map (·.1) = (firsts (occurring ++ [(key, w)])).map (·.1) := by
  have hany : (entries.any fun e => e.1.same key) = occurring.any fun e => e.1.same key := by
    have hkeys := congrArg (fun keys => keys.any fun k => k.same key) h
    rw [List.any_map, List.any_map] at hkeys
    exact hkeys.trans (any_firsts key occurring)
  rw [keys_put, firsts_append_one, hany, h]
  split
  · rfl
  · rw [List.map_append]
    rfl

theorem firsts_filter (key : Scalar) (entries : List (Scalar × α)) :
    ((firsts entries).filter fun f => !key.same f.1) =
      firsts (entries.filter fun f => !key.same f.1) := by
  induction entries with
  | nil => rfl
  | cons e rest ih =>
    rw [firsts]
    cases hk : key.same e.1 with
    | true =>
      have hsame : (fun f : Scalar × α => !e.1.same f.1) = fun f => !key.same f.1 := by
        funext f
        rw [Scalar.same_congr hk]
      rw [List.filter_cons_of_neg (by simp [hk]), List.filter_cons_of_neg (by simp [hk]), hsame,
        List.filter_filter]
      simp only [Bool.and_self, ih]
    | false =>
      rw [List.filter_cons_of_pos (by simp [hk]), List.filter_cons_of_pos (by simp [hk]), firsts, ← ih,
        List.filter_filter, List.filter_filter]
      simp only [Bool.and_comm]

theorem firsts_texts (f : α → β) (es : List (String × α)) :
    List.Forall₂ (fun name e => ∃ a, es.find? (fun e => e.1 == name) = some (name, a) ∧
      e = (Scalar.text name, f a)) (es.map Prod.fst).eraseDups
        (firsts (es.map fun e => (Scalar.text e.1, f e.2))) := by
  -- Both sides drop a key from the rest before they go on, so the length carries the induction.
  induction hn : es.length using Nat.strongRecOn generalizing es with
  | ind n ih =>
    cases es with
    | nil => exact .nil
    | cons e rest =>
      have hsame : ∀ name : String, (Scalar.text e.1).same (.text name) = (name == e.1) := by
        intro name
        rw [Bool.eq_iff_iff, Scalar.same_text, beq_iff_eq]
        exact ⟨fun h => (Scalar.text.inj h).symm, fun h => congrArg _ h.symm⟩
      have hlt : (rest.filter fun g => !g.1 == e.1).length < n := by
        have hle := List.length_filter_le (fun g : String × α => !g.1 == e.1) rest
        rw [List.length_cons] at hn
        omega
      have hfilter : ((rest.map fun g => (Scalar.text g.1, f g.2)).filter
          fun g => !(Scalar.text e.1).same g.1) =
          (rest.filter fun g => !g.1 == e.1).map fun g => (Scalar.text g.1, f g.2) := by
        rw [List.filter_map]
        congr 2
        funext g
        exact congrArg _ (hsame g.1)
      have hnames : ((rest.map Prod.fst).filter fun name => !name == e.1) =
          (rest.filter fun g => !g.1 == e.1).map Prod.fst := by
        rw [List.filter_map]
        rfl
      rw [List.map_cons, List.map_cons, List.eraseDups_cons, firsts, firsts_filter, hfilter, hnames]
      refine .cons ⟨e.2, by simp, rfl⟩ ?_
      have hrest := ih _ hlt (rest.filter fun g => !g.1 == e.1) rfl
      refine List.Forall₂.imp ?_ hrest
      rintro name g ⟨a, hfind, rfl⟩
      refine ⟨a, ?_, rfl⟩
      have hne : (e.1 == name) = false := by
        have hmem := List.mem_of_find?_eq_some hfind
        have hother : ¬name = e.1 := by simpa using (List.mem_filter.mp hmem).2
        exact beq_eq_false_iff_ne.mpr fun he => hother he.symm
      rw [List.find?_cons, hne]
      dsimp only
      rw [← hfind, List.find?_filter]
      congr 1
      funext g
      cases hg : g.1 == name with
      | false => simp
      | true =>
        rw [beq_iff_eq] at hg
        rw [beq_eq_false_iff_ne] at hne
        simp [hg, Ne.symm hne]

end Entries

end ApiTypes
