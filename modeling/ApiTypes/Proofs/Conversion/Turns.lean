import ApiTypes.Conversion.Run
import ApiTypes.Proofs.Text.Pieces
import Mathlib.Logic.Function.Basic

/-!
# Conversions in turn

A conversion that is made changes one file: the one that its output leads to holds the
banner and the declarations of its source. One that fails before it writes changes none.
Conversions in turn are made up to the first that fails, and leave the files they found with
those of the ones before it. All this is so in any surroundings that write one file at a time.

The mapper that a conversion names may be in any module that can be imported, however many
dots there are in its name.
-/

set_option autoImplicit false

namespace ApiTypes

variable {Tree Target Location : Type} [DecidableEq Location] {s : Surroundings Tree Target}
  {contents : Tree → Location → Option ByteArray} {leads : Tree → Target → Option Location}

/-- What is relied on about the files of a tree, of which `contents` says what they hold and `leads`
where they are. -/
structure Surroundings.WritesFiles (s : Surroundings Tree Target)
    (contents : Tree → Location → Option ByteArray) (leads : Tree → Target → Option Location) : Prop where
  /-- Directories are made, or not made, without touching a file. -/
  makeAbove : ∀ {p tree answer after}, s.makeAbove p tree = (answer, after) →
    contents after = contents tree
  /-- A text that is written is in the file that its target leads to, and no other file changes. -/
  write : ∀ {p text tree after}, s.write p text tree = (.ok (), after) →
    ∃ place, leads after p = some place ∧
      contents after = Function.update (contents tree) place (some text.toUTF8)

namespace Mapper

variable {home name : String}

theorem halves_path (hcolon : ':' ∉ home.toList) (hhome : home ≠ "") (hname : name ≠ "") :
    halves (home ++ ":" ++ name) = some (home, name) := by
  have hpath : (home ++ ":" ++ name).toList = home.toList ++ ':' :: name.toList := by simp
  unfold halves
  rw [hpath, Text.cut_at hcolon]
  simp [hhome, hname]

/-- A path of the name of a module, with whatever dots in it, and of one of its functions leads to
the function. -/
theorem find_path {modules : String → Except ImportFault Module} {functions : Module} {mapper : Named}
    (hcolon : ':' ∉ home.toList) (hhome : home ≠ "") (hname : name ≠ "")
    (himport : modules home = .ok functions) (hfunction : functions name = some mapper) :
    find modules (home ++ ":" ++ name) = .ok mapper := by
  rw [find, halves_path hcolon hhome hname]
  dsimp only
  rw [himport]
  dsimp only
  rw [hfunction]

end Mapper

namespace OutputFolder

variable {folder folder' : OutputFolder Target} {declarations name path : String} {tree after : Tree}

theorem emit_ok (hs : s.WritesFiles contents leads)
    (h : folder.emit s declarations name tree = (.ok path, folder', after)) :
    path = s.nameOf (s.join folder.directory name) ∧
      ∃ place, leads after (s.join folder.directory name) = some place ∧ contents after =
        Function.update (contents tree) place (some (folder.content declarations).toUTF8) := by
  unfold emit at h
  dsimp only at h
  split at h
  · cases h
  · rename_i made hmade
    split at h
    · cases h
    · rename_i hwritten
      obtain ⟨hpath, hrest⟩ := Prod.mk.inj h
      obtain ⟨-, rfl⟩ := Prod.mk.inj hrest
      rw [← hs.makeAbove hmade]
      exact ⟨(Except.ok.inj hpath).symm, hs.write hwritten⟩

/-- Where nothing is written, either no directory was made for it or the write itself has failed. -/
theorem emit_error {problem : Problem}
    (h : folder.emit s declarations name tree = (.error problem, folder', after)) :
    (∃ fault, s.makeAbove (s.join folder.directory name) tree = (.error fault, after)) ∨
      ∃ made fault, s.makeAbove (s.join folder.directory name) tree = (.ok (), made) ∧
        s.write (s.join folder.directory name) (folder.content declarations) made =
          (.error fault, after) := by
  unfold emit at h
  dsimp only at h
  split at h
  · rename_i fault made hmade
    cases h
    exact .inl ⟨fault, hmade⟩
  · rename_i made hmade
    split at h
    · rename_i fault left hwritten
      cases h
      exact .inr ⟨made, fault, hmade, hwritten⟩
    · cases h

end OutputFolder

namespace Conversion

variable {c : Conversion} {cs : List Conversion} {tree after : Tree} {text : String}

def options (c : Conversion) (mapper : Option Mapper.Named) (document : Document) : Options :=
  ⟨c.raw, mapper.map fun m => m.run (schemaLabels c.raw document)⟩

def outputTarget (s : Surroundings Tree Target) (c : Conversion) : Target :=
  s.join (c.folder s).directory c.outputName

def written (s : Surroundings Tree Target) (c : Conversion) : String := s.nameOf (c.outputTarget s)

/-- The declarations made of the source as it stands in a tree. -/
inductive Generates (s : Surroundings Tree Target) (c : Conversion) (tree : Tree) : String → Prop
  | intro {mapper : Option Mapper.Named} {document : Document} {output : Output}
      (found : c.findMapper s tree = .ok mapper) (loaded : s.load c.source tree = .ok document)
      (generated : generate (c.options mapper document) document.value = .ok output) :
      Generates s c tree output.text

/-- Where a conversion fails: its mapper, its source, the shape of the document, something in the
document, or its output. -/
inductive Fails (s : Surroundings Tree Target) (c : Conversion) (tree : Tree) : Prop
  | mapper {problem : Problem} (unknown : c.findMapper s tree = .error problem)
  | source {mapper : Option Mapper.Named} {fault : SourceFault}
      (found : c.findMapper s tree = .ok mapper) (unread : s.load c.source tree = .error fault)
  | shape {mapper : Option Mapper.Named} {document : Document}
      (found : c.findMapper s tree = .ok mapper) (loaded : s.load c.source tree = .ok document)
      (shapeless : generate (c.options mapper document) document.value = .error .shapeless)
  | document {mapper : Option Mapper.Named} {document : Document} {fault : Fault}
      (found : c.findMapper s tree = .ok mapper) (loaded : s.load c.source tree = .ok document)
      (faulty : generate (c.options mapper document) document.value = .error (.fault fault))
  | output {text : String} {problem : Problem} {folder : OutputFolder Target} {after : Tree}
      (generates : Generates s c tree text)
      (unwritten : (c.folder s).emit s text c.outputName tree = (.error problem, folder, after))

/-- A file that was written: where it is, and the declarations in it. -/
structure Delivery (Location : Type) where
  place : Location
  text : String

def Delivery.content (d : Delivery Location) : ByteArray := (banner ++ d.text).toUTF8

def Delivery.update (files : Location → Option ByteArray) (d : Delivery Location) :
    Location → Option ByteArray :=
  Function.update files d.place (some d.content)

/-- A conversion is made: the declarations of its source are written to where its output leads. -/
structure Makes (s : Surroundings Tree Target) (leads : Tree → Target → Option Location) (c : Conversion)
    (tree : Tree) (d : Delivery Location) (after : Tree) : Prop where
  generates : Generates s c tree d.text
  emits : ∃ path folder, (c.folder s).emit s d.text c.outputName tree = (.ok path, folder, after)
  place : leads after (c.outputTarget s) = some d.place

/-- Conversions are made in turn, each on the tree that those before it left. -/
inductive MadeInTurn (s : Surroundings Tree Target) (leads : Tree → Target → Option Location) :
    List Conversion → Tree → List (Delivery Location) → Tree → Prop
  | nil (tree : Tree) : MadeInTurn s leads [] tree [] tree
  | cons {c : Conversion} {cs : List Conversion} {tree between after : Tree} {d : Delivery Location}
      {ds : List (Delivery Location)} (first : Makes s leads c tree d between)
      (others : MadeInTurn s leads cs between ds after) :
      MadeInTurn s leads (c :: cs) tree (d :: ds) after

/-- The files of a tree are those of an earlier one, updated in order by what was written since. -/
structure Updated (contents : Tree → Location → Option ByteArray) (tree : Tree)
    (ds : List (Delivery Location)) (after : Tree) : Prop where
  files : contents after = ds.foldl Delivery.update (contents tree)
  /-- What was written last to a place is there. -/
  last : ∀ ds₁ d ds₂, ds = ds₁ ++ d :: ds₂ → (∀ e ∈ ds₂, e.place ≠ d.place) →
    contents after d.place = some d.content
  /-- A place that nothing was written to is as it was. -/
  others : ∀ q, (∀ d ∈ ds, d.place ≠ q) → contents after q = contents tree q

/-- A write of the declarations that fails leaves the content of every file alone. -/
def SparesFiles (s : Surroundings Tree Target) (contents : Tree → Location → Option ByteArray)
    (c : Conversion) (tree : Tree) : Prop :=
  ∀ text fault made after, Generates s c tree text →
    s.makeAbove (c.outputTarget s) tree = (.ok (), made) →
    s.write (c.outputTarget s) (banner ++ text) made = (.error fault, after) →
    contents after = contents made

theorem foldl_update_other {ds : List (Delivery Location)} {q : Location} (h : ∀ d ∈ ds, d.place ≠ q)
    (files : Location → Option ByteArray) :
    ds.foldl Delivery.update files q = files q := by
  induction ds generalizing files with
  | nil => rfl
  | cons d ds ih =>
    obtain ⟨hd, hds⟩ := List.forall_mem_cons.mp h
    rw [List.foldl_cons, ih hds, Delivery.update, Function.update_of_ne (Ne.symm hd)]

theorem updated_of_files {ds : List (Delivery Location)}
    (h : contents after = ds.foldl Delivery.update (contents tree)) :
    Updated contents tree ds after where
  files := h
  last := by
    rintro ds₁ d ds₂ rfl hd
    rw [h, List.foldl_append, List.foldl_cons, foldl_update_other hd, Delivery.update,
      Function.update_self]
  others := fun q hq => by rw [h, foldl_update_other hq]

theorem Makes.files {d : Delivery Location} (hs : s.WritesFiles contents leads)
    (h : Makes s leads c tree d after) : contents after = Delivery.update (contents tree) d := by
  obtain ⟨path, folder, hwritten⟩ := h.emits
  obtain ⟨-, place, hleads, hfiles⟩ := OutputFolder.emit_ok hs hwritten
  have hplace : place = d.place := Option.some.inj (hleads.symm.trans h.place)
  rw [hfiles, hplace]
  rfl

theorem MadeInTurn.updated {ds : List (Delivery Location)} (hs : s.WritesFiles contents leads)
    (h : MadeInTurn s leads cs tree ds after) : Updated contents tree ds after := by
  apply updated_of_files
  induction h with
  | nil tree => rfl
  | cons first _ ih => rw [ih, first.files hs, List.foldl_cons]

omit [DecidableEq Location] in
theorem MadeInTurn.take {ds : List (Delivery Location)} (h : MadeInTurn s leads cs tree ds after)
    (n : Nat) : ∃ between, MadeInTurn s leads (cs.take n) tree (ds.take n) between := by
  induction h generalizing n with
  | nil tree => exact ⟨tree, by rw [List.take_nil, List.take_nil]; exact .nil tree⟩
  | @cons c cs tree _ _ d ds first _ ih =>
    cases n with
    | zero => exact ⟨tree, .nil tree⟩
    | succ n =>
      obtain ⟨between, hbetween⟩ := ih n
      exact ⟨between, .cons first hbetween⟩

theorem render_eq (s : Surroundings Tree Target) (c : Conversion) (tree : Tree) :
    c.render s tree = (do
      let mapper ← c.findMapper s tree
      let document ← (s.load c.source tree).mapError (Problem.source c.source)
      (generate (c.options mapper document) document.value).mapError (problemOf c.source)) := rfl

theorem render_loaded {mapper : Option Mapper.Named} {document : Document}
    (found : c.findMapper s tree = .ok mapper) (loaded : s.load c.source tree = .ok document) :
    c.render s tree =
      (generate (c.options mapper document) document.value).mapError (problemOf c.source) := by
  rw [render_eq, found, loaded]
  rfl

theorem render_of_generates (h : Generates s c tree text) :
    ∃ output, c.render s tree = .ok output ∧ output.text = text := by
  obtain @⟨mapper, document, output, hfound, hloaded, hgenerated⟩ := h
  refine ⟨output, ?_, rfl⟩
  rw [render_loaded hfound hloaded, hgenerated]
  rfl

theorem generates_of_render {output : Output} (h : c.render s tree = .ok output) :
    Generates s c tree output.text := by
  cases hfound : c.findMapper s tree with
  | error problem =>
    rw [render_eq, hfound] at h
    cases h
  | ok mapper =>
    cases hloaded : s.load c.source tree with
    | error fault =>
      rw [render_eq, hfound, hloaded] at h
      cases h
    | ok document =>
      rw [render_loaded hfound hloaded] at h
      cases hgenerated : generate (c.options mapper document) document.value with
      | error refusal =>
        rw [hgenerated] at h
        cases h
      | ok made =>
        rw [hgenerated] at h
        cases h
        exact .intro hfound hloaded hgenerated

theorem run_of_unrendered {problem : Problem} (h : c.render s tree = .error problem) :
    c.run s tree = (.error problem, tree) := by
  rw [run, h]

theorem run_of_generates {answer : Except Problem String} {folder : OutputFolder Target}
    (h : Generates s c tree text)
    (hemit : (c.folder s).emit s text c.outputName tree = (answer, folder, after)) :
    c.run s tree = (answer, after) := by
  obtain ⟨output, hrender, rfl⟩ := render_of_generates h
  rw [run, hrender]
  dsimp only
  rw [hemit]

theorem run_of_makes {d : Delivery Location} (hs : s.WritesFiles contents leads)
    (h : Makes s leads c tree d after) : c.run s tree = (.ok (c.written s), after) := by
  obtain ⟨path, folder, hwritten⟩ := h.emits
  rw [run_of_generates h.generates hwritten, (OutputFolder.emit_ok hs hwritten).1]
  rfl

/-- A conversion that fails ends with a problem. Unless a write has failed no file has changed. -/
theorem run_of_fails (hs : s.WritesFiles contents leads) (h : Fails s c tree) :
    ∃ problem after, c.run s tree = (.error problem, after) ∧
      (SparesFiles s contents c tree → contents after = contents tree) := by
  have hunrendered : ∀ problem, c.render s tree = .error problem → ∃ problem after,
      c.run s tree = (.error problem, after) ∧
        (SparesFiles s contents c tree → contents after = contents tree) :=
    fun problem hrender => ⟨problem, tree, run_of_unrendered hrender, fun _ => rfl⟩
  cases h with
  | mapper unknown => exact hunrendered _ (by rw [render_eq, unknown]; rfl)
  | source found unread => exact hunrendered _ (by rw [render_eq, found, unread]; rfl)
  | shape found loaded shapeless =>
    exact hunrendered (.shapeless c.source) (by rw [render_loaded found loaded, shapeless]; rfl)
  | @document _ _ fault found loaded faulty =>
    exact hunrendered (.document fault) (by rw [render_loaded found loaded, faulty]; rfl)
  | @output text problem folder after generates unwritten =>
    refine ⟨problem, after, run_of_generates generates unwritten, fun hspares => ?_⟩
    rcases OutputFolder.emit_error unwritten with ⟨fault, hmade⟩ | ⟨made, fault, hmade, hwritten⟩
    · exact hs.makeAbove hmade
    · exact (hspares text fault made after generates hmade hwritten).trans (hs.makeAbove hmade)

theorem makes_or_fails (hs : s.WritesFiles contents leads) (c : Conversion) (tree : Tree) :
    (∃ d after, Makes s leads c tree d after) ∨ Fails s c tree := by
  cases hfound : c.findMapper s tree with
  | error problem => exact .inr (.mapper hfound)
  | ok mapper =>
    cases hloaded : s.load c.source tree with
    | error fault => exact .inr (.source hfound hloaded)
    | ok document =>
      cases hgenerated : generate (c.options mapper document) document.value with
      | error refusal =>
        cases refusal with
        | shapeless => exact .inr (.shape hfound hloaded hgenerated)
        | fault f => exact .inr (.document hfound hloaded hgenerated)
      | ok output =>
        have hgenerates : Generates s c tree output.text := .intro hfound hloaded hgenerated
        rcases hemit : (c.folder s).emit s output.text c.outputName tree with ⟨answer, folder, after⟩
        cases answer with
        | error problem => exact .inr (.output hgenerates hemit)
        | ok path =>
          obtain ⟨-, place, hleads, -⟩ := OutputFolder.emit_ok hs hemit
          exact .inl ⟨⟨place, output.text⟩, after, hgenerates, ⟨path, folder, hemit⟩, hleads⟩

theorem fails_of_unrendered {problem : Problem} (hs : s.WritesFiles contents leads)
    (h : c.render s tree = .error problem) : Fails s c tree ∧ SparesFiles s contents c tree := by
  have hnone : ∀ text, ¬Generates s c tree text := by
    intro text hgenerates
    obtain ⟨output, hrender, -⟩ := render_of_generates hgenerates
    rw [h] at hrender
    cases hrender
  refine ⟨(makes_or_fails hs c tree).resolve_left ?_, ?_⟩
  · rintro ⟨d, after, hmakes⟩
    exact hnone d.text hmakes.generates
  · intro text _ _ _ hgenerates
    exact (hnone text hgenerates).elim

theorem made_or_fails (hs : s.WritesFiles contents leads) (cs : List Conversion) (tree : Tree) :
    (∃ ds after, MadeInTurn s leads cs tree ds after) ∨
      ∃ before c rest ds between, cs = before ++ c :: rest ∧
        MadeInTurn s leads before tree ds between ∧ Fails s c between := by
  induction cs generalizing tree with
  | nil => exact .inl ⟨[], tree, .nil tree⟩
  | cons c cs ih =>
    rcases makes_or_fails hs c tree with ⟨d, next, hmakes⟩ | hfails
    · rcases ih next with ⟨ds, after, hmade⟩ | ⟨before, c', rest, ds, between, rfl, hmade, hfails⟩
      · exact .inl ⟨d :: ds, after, .cons hmakes hmade⟩
      · exact .inr ⟨c :: before, c', rest, d :: ds, between, rfl, .cons hmakes hmade, hfails⟩
    · exact .inr ⟨[], c, cs, [], tree, rfl, .nil tree, hfails⟩

theorem runAll_append {ds : List (Delivery Location)} (hs : s.WritesFiles contents leads)
    (h : MadeInTurn s leads cs tree ds after) (rest : List Conversion) :
    runAll s (cs ++ rest) tree = match runAll s rest after with
      | (.ok paths, left) => (.ok (cs.map (fun c => c.written s) ++ paths), left)
      | (.error problem, left) => (.error problem, left) := by
  induction h with
  | nil tree =>
    rw [List.nil_append]
    rcases runAll s rest tree with ⟨answer, left⟩
    cases answer <;> rfl
  | @cons c cs tree between after _ _ first _ ih =>
    rw [List.cons_append, runAll, run_of_makes hs first]
    dsimp only
    rw [ih]
    rcases runAll s rest after with ⟨answer, left⟩
    cases answer <;> rfl

theorem runAll_of_made {ds : List (Delivery Location)} (hs : s.WritesFiles contents leads)
    (h : MadeInTurn s leads cs tree ds after) :
    runAll s cs tree = (.ok (cs.map fun c => c.written s), after) := by
  have hrun := runAll_append hs h []
  rw [List.append_nil] at hrun
  rw [hrun, runAll]
  dsimp only
  rw [List.append_nil]

theorem runAll_of_fails {before : List Conversion} {ds : List (Delivery Location)} {between : Tree}
    (hs : s.WritesFiles contents leads) (hmade : MadeInTurn s leads before tree ds between)
    (hfails : Fails s c between) (rest : List Conversion) :
    ∃ problem after, runAll s (before ++ c :: rest) tree = (.error problem, after) ∧
      (SparesFiles s contents c between → contents after = contents between) := by
  obtain ⟨problem, after, hrun, hspared⟩ := run_of_fails hs hfails
  refine ⟨problem, after, ?_, hspared⟩
  rw [runAll_append hs hmade, runAll, hrun]

end Conversion

end ApiTypes
