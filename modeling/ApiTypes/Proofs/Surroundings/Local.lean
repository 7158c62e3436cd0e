import ApiTypes.Proofs.Conversion.Turns
import ApiTypes.Proofs.Files.Tree
import ApiTypes.Surroundings.Local

/-!
# A workspace writes one file at a time

In a workspace directories are made without touching a file, and a text is written to the
place that its path leads to. A write that fails leaves the files alone, unless it is the text
that has no encoded form: its file is left empty.
-/

set_option autoImplicit false

namespace ApiTypes.Workspace

variable {w : Workspace} {p : Path} {text : String} {tree after : FileTree}

theorem makeAbove_files {answer : Except WriteFault Unit} (h : w.makeAbove p tree = (answer, after)) :
    after.file? = tree.file? := by
  unfold makeAbove at h
  split at h
  · cases h
    rfl
  · have hfiles := FileTree.ensureAbove_files tree w.here p
    split at h
    · rename_i made hmade
      cases h
      rw [hmade] at hfiles
      exact hfiles
    · rename_i made fault hmade
      cases h
      rw [hmade] at hfiles
      exact hfiles

theorem writeText_ok (h : w.writeText p text tree = (.ok (), after)) :
    ∃ place, after.reach w.here p = .ok place ∧
      after.file? = Function.update tree.file? place (some text.toUTF8) := by
  unfold writeText at h
  split at h
  · cases h
  · dsimp only at h
    split at h
    · cases h
    · cases h
    · rename_i made hwritten hencoded
      cases h
      rw [hencoded] at hwritten
      exact FileTree.writeFile_ok hwritten

/-- Where a text is not written, no file changes, or the text has no encoded form and its file is
left empty. -/
theorem writeText_error {fault : WriteFault} (h : w.writeText p text tree = (.error fault, after)) :
    after.file? = tree.file? ∨ Fault.ofText? text ≠ none ∧ ∃ place,
      after.reach w.here p = .ok place ∧
        after.file? = Function.update tree.file? place (some .empty) := by
  unfold writeText at h
  split at h
  · cases h
    exact .inl rfl
  · dsimp only at h
    split at h
    · rename_i hwritten
      cases h
      exact .inl (by rw [FileTree.writeFile_error hwritten])
    · rename_i unwritable hwritten hunwritable
      cases h
      rw [hunwritable] at hwritten
      exact .inr ⟨by rw [hunwritable]; nofun, FileTree.writeFile_ok hwritten⟩
    · cases h

def leads (w : Workspace) (tree : FileTree) (p : Path) : Option Place :=
  (tree.reach w.here p).toOption

theorem writesFiles (w : Workspace) : w.surroundings.WritesFiles FileTree.file? w.leads where
  makeAbove h := makeAbove_files h
  write h := by
    obtain ⟨place, hreach, hfiles⟩ := writeText_ok h
    exact ⟨place, by rw [leads, hreach]; rfl, hfiles⟩

theorem sparesFiles_of_encoded {c : Conversion}
    (h : ∀ text, c.Generates w.surroundings tree text → Fault.ofText? (banner ++ text) = none) :
    c.SparesFiles w.surroundings FileTree.file? tree := by
  intro text fault made after hgenerates _ hwritten
  have hwriting : w.surroundings.write = w.writeText := rfl
  rw [hwriting] at hwritten
  rcases writeText_error hwritten with hsame | ⟨hunwritable, -⟩
  · exact hsame
  · exact (hunwritable (h text hgenerates)).elim

end ApiTypes.Workspace
