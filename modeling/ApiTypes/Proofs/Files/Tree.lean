import ApiTypes.Files.Tree
import ApiTypes.Proofs.Outcome
import Mathlib.Logic.Function.Basic

/-!
# The files of a tree

Directories are made at vacant places only, so that making them leaves every file as it
is. Writing a file changes what is at one place, to which its path leads afterwards, and a
file that cannot be written is left alone.
-/

set_option autoImplicit false

namespace ApiTypes.FileTree

open FileFault (Cause)

variable {t t' : FileTree} {here p : Path} {place : Place} {content : ByteArray}

theorem lookup_set (place q : Place) (node : FileNode) (nodes : List (Place × FileNode)) :
    lookup q (set place node nodes) = if place = q then some node else lookup q nodes := by
  induction nodes with
  | nil => rfl
  | cons n rest ih =>
    obtain ⟨p, old⟩ := n
    rw [set]
    by_cases hp : p = place
    · rw [if_pos hp, lookup, lookup, hp]
      split <;> rfl
    · rw [if_neg hp, lookup, lookup, ih]
      by_cases hq : p = q
      · rw [if_pos hq, if_pos hq, if_neg fun h => hp (hq.trans h.symm)]
      · rw [if_neg hq, if_neg hq]

theorem node?_put (hplace : place ≠ []) (node : FileNode) (q : Place) :
    (t.put place node).node? q = if place = q then some node else t.node? q := by
  unfold node? put
  by_cases hq : q.isEmpty
  · rw [if_pos hq, if_pos hq, if_neg]
    rintro rfl
    exact hplace (List.isEmpty_iff.mp hq)
  · rw [if_neg hq, if_neg hq]
    exact lookup_set place q node t.nodes

/-- The root is a directory, so that whatever else is somewhere is below it. -/
theorem ne_root (h : t.node? place ≠ some .directory) : place ≠ [] := by
  rintro rfl
  exact h rfl

theorem file?_put_file (hplace : place ≠ []) :
    (t.put place (.file content)).file? = Function.update t.file? place (some content) := by
  funext q
  unfold file?
  rw [node?_put hplace]
  by_cases hq : place = q
  · subst hq
    rw [if_pos rfl, Function.update_self]
  · rw [if_neg hq, Function.update_of_ne (Ne.symm hq)]

theorem file?_put_directory (h : t.node? place = none) : (t.put place .directory).file? = t.file? := by
  have hplace : place ≠ [] := ne_root (by rw [h]; nofun)
  funext q
  unfold file?
  rw [node?_put hplace]
  by_cases hq : place = q
  · subst hq
    rw [if_pos rfl, h]
  · rw [if_neg hq]

theorem makeDirectory_files (h : makeDirectory t here p = .ok t') : t'.file? = t.file? := by
  unfold makeDirectory at h
  obtain ⟨place, -, hgo⟩ := except_bind_ok.mp h
  split at hgo
  · cases hgo
  · rename_i hvacant
    cases hgo
    exact file?_put_directory hvacant

theorem ensureDirectory_files (t : FileTree) (here p : Path) :
    (ensureDirectory t here p).1.file? = t.file? := by
  unfold ensureDirectory
  split
  · rename_i hmade
    exact makeDirectory_files hmade
  · rfl

theorem ensureDirectories_files (n : Nat) (t : FileTree) (here p : Path) :
    (ensureDirectories n t here p).1.file? = t.file? := by
  induction n generalizing t p with
  | zero => rfl
  | succ n ih =>
    unfold ensureDirectories
    dsimp only
    split
    · have habove := ih t p.parent
      split
      · rename_i between hbetween
        rw [hbetween] at habove
        exact (ensureDirectory_files between here p).trans habove
      · rename_i between fault hbetween
        rw [hbetween] at habove
        exact habove
    · exact ensureDirectory_files t here p

theorem ensureAbove_files (t : FileTree) (here p : Path) : (ensureAbove t here p).1.file? = t.file? :=
  ensureDirectories_files _ t here p.parent

/-- Where one tree has a directory the other has one too. -/
def KeepsDirectories (t t' : FileTree) : Prop :=
  ∀ q, t.node? q = some .directory → t'.node? q = some .directory

theorem step_mono (hkept : KeepsDirectories t t') {name : String} {next : Place}
    (h : t.step place name = .ok next) :
    t'.step place name = .ok next := by
  unfold step at h ⊢
  split at h
  · cases h
  · cases h
  · rename_i hplace
    rw [hkept place hplace]
    exact h

theorem walk_mono (hkept : KeepsDirectories t t') {names : List String} {goal : Place}
    (h : t.walk place names = .ok goal) :
    t'.walk place names = .ok goal := by
  induction names generalizing place with
  | nil => exact h
  | cons name rest ih =>
    rw [walk] at h ⊢
    obtain ⟨next, hstep, hrest⟩ := except_bind_ok.mp h
    exact except_bind_ok.mpr ⟨next, step_mono hkept hstep, ih hrest⟩

theorem reach_mono (hkept : KeepsDirectories t t') (h : t.reach here p = .ok place) :
    t'.reach here p = .ok place := by
  unfold reach at h ⊢
  split at h
  · cases h
  · rename_i hshort
    rw [if_neg hshort]
    exact walk_mono hkept h

theorem writeFile_ok (h : t.writeFile here p content = (t', none)) :
    ∃ place, t'.reach here p = .ok place ∧
      t'.file? = Function.update t.file? place (some content) := by
  unfold writeFile at h
  split at h
  · cases h
  · rename_i place hreach
    split at h
    · cases h
    · rename_i hnode
      have hplace : place ≠ [] := ne_root hnode
      cases h
      refine ⟨place, reach_mono (fun q hq => ?_) hreach, file?_put_file hplace⟩
      rw [node?_put hplace, if_neg]
      · exact hq
      · rintro rfl
        exact hnode hq

theorem writeFile_error {fault : FileFault} (h : t.writeFile here p content = (t', some fault)) :
    t' = t := by
  unfold writeFile at h
  split at h
  · cases h
    rfl
  · split at h
    · cases h
      rfl
    · cases h

end ApiTypes.FileTree
