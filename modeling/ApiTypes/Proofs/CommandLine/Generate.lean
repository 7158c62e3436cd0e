import ApiTypes.Proofs.CommandLine.Printing
import ApiTypes.Proofs.Surroundings.Local

/-!
# The conversions of a configuration

The command that makes the conversions of a configuration ends well where all of them are
made and all that it has to say can be printed. Otherwise it ends with the first conversion
that fails, and what was written until then is all that it leaves behind.
-/

set_option autoImplicit false

namespace ApiTypes.Command

open Conversion

section

variable {Tree Target Location : Type} [DecidableEq Location] {s : Surroundings Tree Target}
  {contents : Tree → Location → Option ByteArray} {leads : Tree → Target → Option Location}
  {config : Option String} {tree after : Tree} {c : Conversion} {cs before rest : List Conversion}

theorem shown_cons (s : Surroundings Tree Target) (c : Conversion) (rest : List Conversion) :
    shown s (c :: rest) = match fault? s (startingLine c), fault? s (doneLine c) with
      | some fault, _ => ([], some fault)
      | none, some fault => ([c], some fault)
      | none, none => (c :: (shown s rest).1, (shown s rest).2) := (rfl)

theorem shown_append (h : ∀ c ∈ before, Announced s c) (rest : List Conversion) :
    shown s (before ++ rest) = (before ++ (shown s rest).1, (shown s rest).2) := by
  induction before with
  | nil => rfl
  | cons c before ih =>
    obtain ⟨⟨hstarting, hdone⟩, hbefore⟩ := List.forall_mem_cons.mp h
    rw [List.cons_append, shown_cons, hstarting, hdone, ih hbefore]
    rfl

theorem shown_all (h : ∀ c ∈ cs, Announced s c) : shown s cs = (cs, none) := by
  have hall : shown s (cs ++ []) = (cs ++ [], none) := shown_append h []
  rwa [List.append_nil] at hall

theorem shown_starting (h : fault? s (startingLine c) = none) (rest : List Conversion) :
    ∃ more, (shown s (c :: rest)).1 = c :: more := by
  rw [shown_cons, h]
  cases fault? s (doneLine c) with
  | none => exact ⟨_, rfl⟩
  | some fault => exact ⟨[], rfl⟩

theorem run_of_made {ds : List (Delivery Location)} (hs : s.WritesFiles contents leads)
    (hfind : s.configure config tree = .ok cs) (hmade : MadeInTurn s leads cs tree ds after)
    (hshown : ∀ c ∈ cs, Announced s c) :
    (generate config).run s tree =
      (succeed s (generatedLines (cs.map fun c => c.written s)), after) := by
  change runGenerate s config tree = _
  rw [runGenerate, hfind]
  dsimp only
  rw [shown_all hshown]
  dsimp only
  rw [runAll_of_made hs hmade]

theorem run_of_fails {ds : List (Delivery Location)} {between : Tree}
    (hs : s.WritesFiles contents leads) (hfind : s.configure config tree = .ok (before ++ c :: rest))
    (hmade : MadeInTurn s leads before tree ds between) (hfails : c.Fails s between)
    (hshown : ∀ d ∈ before, Announced s d) (hstarting : fault? s (startingLine c) = none) :
    ∃ ending left, (generate config).run s tree = (ending, left) ∧ ending.status = 1 ∧
      (SparesFiles s contents c between → contents left = contents between) := by
  obtain ⟨more, hmore⟩ := shown_starting hstarting rest
  obtain ⟨problem, left, hrun, hspared⟩ := runAll_of_fails hs hmade hfails more
  refine ⟨fail s "" problem.message, left, ?_, rfl, hspared⟩
  change runGenerate s config tree = _
  rw [runGenerate, hfind]
  dsimp only
  rw [shown_append hshown, hmore]
  dsimp only
  rw [hrun]

end

/-- A word in front of the name of every schema. -/
def branded : Mapper := fun schemas =>
  .ok (.map (schemas.map fun e => (.text ("Shop" ++ (e.1.text?).getD ""), e.2)))

/-- The functions of the module `shop.mappers`, which is inside of another. -/
def shopMappers : Mapper.Module := fun name =>
  if name = "branded" then some ⟨"branded", fun _ => branded⟩ else none

def shop : Workspace where
  here := ⟨"/", ["w"]⟩
  network := .none
  modules home :=
    if home = "shop.mappers" then .ok shopMappers
    else .error (.absent ("No module named " ++ Text.quoted home))
  environment := []

def configText (entries : String) : String := "\x7b\"documents\":[" ++ entries ++ "]\x7d"

def brandedText : String :=
  "\x7b\"source\":\"a.json\",\"output\":\"a.ts\",\"property_mapper\":\"shop.mappers:branded\"\x7d"

def sourcelessText : String := "\x7b\"source\":\"b.json\",\"output\":\"b.ts\"\x7d"

def misplacedText : String := "\x7b\"source\":\"a.json\",\"output\":\"d.ts\"\x7d"

/-- A source, a directory and three configurations. Of the usual one the second source is not there,
and of the last one the output is the directory. -/
def shopFiles : FileTree :=
  ⟨[(["w"], .directory),
    (["w", "otterts.json"], .file (configText (brandedText ++ "," ++ sourcelessText)).toUTF8),
    (["w", "one.json"], .file (configText brandedText).toUTF8),
    (["w", "last.json"], .file (configText misplacedText).toUTF8),
    (["w", "d.ts"], .directory),
    (["w", "a.json"], .file "\x7b\"components\":\x7b\"schemas\":\x7b\"Pet\":\x7b\x7d\x7d\x7d\x7d".toUTF8)]⟩

def brandedConversion : Conversion := ⟨"a.json", "a.ts", false, some "shop.mappers:branded"⟩

def sourceless : Conversion := ⟨"b.json", "b.ts", false, none⟩

def misplaced : Conversion := ⟨"a.json", "d.ts", false, none⟩

def brandedDelivery : Delivery Place :=
  ⟨["w", "a.ts"], "export interface operations \x7b\n\n\x7d\n\nexport interface components \x7b\n" ++
    "schemas: \x7b\n\"ShopPet\": ;\n\x7d\n\x7d\n"⟩

def brandedEmission : Except Problem String × OutputFolder Path × FileTree :=
  (brandedConversion.folder shop.surroundings).emit shop.surroundings brandedDelivery.text "a.ts" shopFiles

theorem branded_made : MadeInTurn shop.surroundings shop.leads [brandedConversion] shopFiles
    [brandedDelivery] brandedEmission.2.2 := by
  have hrender : brandedConversion.render shop.surroundings shopFiles =
      .ok ⟨brandedDelivery.text, ["Field 'ShopPet' has no recognised type"]⟩ := by
    decide +kernel
  obtain ⟨hpath, hplace⟩ : brandedEmission.1 = .ok "a.ts" ∧ shop.leads brandedEmission.2.2
      (brandedConversion.outputTarget shop.surroundings) = some brandedDelivery.place := by
    decide +kernel
  have hsplit : brandedEmission = (.ok "a.ts", brandedEmission.2.1, brandedEmission.2.2) := by
    rw [← hpath]
  exact .cons ⟨generates_of_render hrender, ⟨"a.ts", brandedEmission.2.1, hsplit⟩, hplace⟩ (.nil _)

def misplacedDeclarations : String :=
  "export interface operations \x7b\n\n\x7d\n\nexport interface components \x7b\n" ++
    "schemas: \x7b\n\"Pet\": ;\n\x7d\n\x7d\n"

theorem misplaced_fails : Fails shop.surroundings misplaced shopFiles ∧
    SparesFiles shop.surroundings FileTree.file? misplaced shopFiles := by
  have hrender : misplaced.render shop.surroundings shopFiles =
      .ok ⟨misplacedDeclarations, ["Field 'Pet' has no recognised type"]⟩ := by
    decide +kernel
  have hunwritten : (misplaced.folder shop.surroundings).emit shop.surroundings misplacedDeclarations
      misplaced.outputName shopFiles = (.error (.output "d.ts" (.file ⟨.isDirectory, "d.ts"⟩)),
        misplaced.folder shop.surroundings, shopFiles) := by
    decide +kernel
  refine ⟨.output (generates_of_render hrender) hunwritten, shop.sparesFiles_of_encoded ?_⟩
  intro text hgenerates
  obtain ⟨output, hrendered, rfl⟩ := render_of_generates hgenerates
  cases hrender.symm.trans hrendered
  decide +kernel

end ApiTypes.Command
