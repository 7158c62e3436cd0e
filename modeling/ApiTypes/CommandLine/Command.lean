import ApiTypes.CommandLine.Arguments
import ApiTypes.Conversion.Run
import ApiTypes.Text.Terminal

/-!
# Commands

The program has three commands: one makes the conversions of a configuration,
one converts a single source, one names the version. A command prints, leaves
files behind, and ends with a status: zero for success, one for a problem, two
for arguments that are not understood.
-/

set_option autoImplicit false

namespace ApiTypes

/-- How a run ended. Help and complaints about arguments are printed by the outer layer. -/
inductive Ending where
  | misused
  | help
  | finished (status : Nat) (printed : String)
  deriving DecidableEq, Repr

namespace Ending

def status : Ending → Nat
  | .misused => 2
  | .help => 0
  | .finished status _ => status

end Ending

inductive Command where
  | generate (config : Option String)
  | convert (conversion : Conversion) (toFile : Bool)
  | version
  deriving DecidableEq, Repr

inductive Request where
  | misused
  | help
  | command (command : Command)
  deriving DecidableEq, Repr

namespace Command

def helpOption : CommandOption := ⟨"help", none, false⟩

def verboseOption : CommandOption := ⟨"verbose", some 'v', false⟩

def generateOptions : List CommandOption :=
  [⟨"config", some 'c', true⟩, verboseOption, helpOption]

def convertOptions : List CommandOption :=
  [⟨"output", some 'o', true⟩, ⟨"raw-schema", none, false⟩, ⟨"property-mapper", none, true⟩,
    verboseOption, helpOption]

/-- Reads the arguments of a command. Help is given before the positions are looked at. -/
def request (known : List CommandOption) (build : Arguments → Option Command)
    (arguments : List String) : Request :=
  match Arguments.read known arguments .empty with
  | none => .misused
  | some a =>
    if a.has "help" then .help
    else match build a with
      | some command => .command command
      | none => .misused

def buildGenerate (a : Arguments) : Option Command :=
  if a.positions.isEmpty then some (.generate (a.value? "config")) else none

def defaultOutput : String := "schema.ts"

def buildConvert (a : Arguments) : Option Command :=
  match a.positions with
  | [source] =>
    let output := (a.value? "output").getD ""
    let conversion : Conversion :=
      ⟨source, if output = "" then defaultOutput else output, a.has "raw-schema",
        a.value? "property-mapper"⟩
    some (.convert conversion (output ≠ ""))
  | _ => none

def buildVersion (a : Arguments) : Option Command :=
  if a.positions.isEmpty then some .version else none

def ofArguments (arguments : List String) : Request :=
  if arguments.isEmpty then .misused
  else match Arguments.readLeading [helpOption] arguments .empty with
    | none => .misused
    | some a =>
      if a.has "help" then .help
      else match a.positions with
        | "generate" :: rest => request generateOptions buildGenerate rest
        | "convert" :: rest => request convertOptions buildConvert rest
        | "version" :: rest => request [helpOption] buildVersion rest
        | _ => .misused

variable {Tree Target : Type}

/-- Prints marked-up lines behind a text; stops at the first that cannot be printed. -/
def print (s : Surroundings Tree Target) (printed : String) :
    List String → String × Option MarkupFault
  | [] => (printed, none)
  | line :: rest =>
    match s.print line with
    | .ok text => print s (printed ++ text ++ "\n") rest
    | .error fault => (printed, some fault)

def fail (s : Surroundings Tree Target) (printed message : String) : Ending :=
  .finished 1 (print s printed ["[red]Error:[/red] " ++ message]).1

/-- Ends with a line on why another could not be printed. A line without a form in bytes stays in
front of all that is printed next. -/
def failPrinting (s : Surroundings Tree Target) (printed : String) : MarkupFault → Ending
  | .halved => .finished 1 printed
  | fault => fail s printed fault.message

def succeed (s : Surroundings Tree Target) (lines : List String) : Ending :=
  match print s "" lines with
  | (printed, none) => .finished 0 printed
  | (printed, some fault) => failPrinting s printed fault

def echo (s : Surroundings Tree Target) (text : String) : Ending :=
  let line := Text.withoutCommands text ++ "\n"
  match Fault.ofText? line with
  | some fault => fail s "" fault.message
  | none => .finished 0 (Text.unifyPairs line)

def generatedLines (paths : List String) : List String :=
  "[green]Successfully generated declarations[/green]" :: "[dim]Generated files:[/dim]" ::
    paths.map fun path => "  - " ++ path

def wroteLine (path : String) : String := "[green]Wrote[/green] " ++ path

def versionLine : String := "otterts version: 0.1.0"

def progressStyle : String := "[progress.description]"

def startingLine (c : Conversion) : String :=
  progressStyle ++ "Generating " ++ c.output ++ " from " ++ c.source ++ "..."

def doneLine (c : Conversion) : String := progressStyle ++ "Done with " ++ c.source ++ "!"

def fault? (s : Surroundings Tree Target) (line : String) : Option MarkupFault :=
  match s.print line with
  | .ok _ => none
  | .error fault => some fault

/-- The conversions up to the first whose progress cannot be shown, and why it cannot. A conversion
is made if its start can be shown. -/
def shown (s : Surroundings Tree Target) : List Conversion → List Conversion × Option MarkupFault
  | [] => ([], none)
  | c :: rest =>
    match fault? s (startingLine c), fault? s (doneLine c) with
    | some fault, _ => ([], some fault)
    | none, some fault => ([c], some fault)
    | none, none =>
      let (conversions, fault) := shown s rest
      (c :: conversions, fault)

def runGenerate (s : Surroundings Tree Target) (config : Option String) (tree : Tree) :
    Ending × Tree :=
  match s.configure config tree with
  | .error problem => (fail s "" problem.message, tree)
  | .ok conversions =>
    let (conversions, fault) := shown s conversions
    match Conversion.runAll s conversions tree with
    | (.ok paths, tree) =>
      (match fault with
        | none => succeed s (generatedLines paths)
        | some fault => failPrinting s "" fault, tree)
    | (.error problem, tree) => (fail s "" problem.message, tree)

def runConvert (s : Surroundings Tree Target) (c : Conversion) (toFile : Bool) (tree : Tree) :
    Ending × Tree :=
  if toFile then
    match c.run s tree with
    | (.ok path, tree) => (succeed s [wroteLine path], tree)
    | (.error problem, tree) => (fail s "" problem.message, tree)
  else
    match c.render s tree with
    | .ok output => (echo s output.text, tree)
    | .error problem => (fail s "" problem.message, tree)

def run (s : Surroundings Tree Target) (tree : Tree) : Command → Ending × Tree
  | .generate config => runGenerate s config tree
  | .convert c toFile => runConvert s c toFile tree
  | .version => (succeed s [versionLine], tree)

end Command

namespace Request

variable {Tree Target : Type}

def run (s : Surroundings Tree Target) (tree : Tree) : Request → Ending × Tree
  | .misused => (.misused, tree)
  | .help => (.help, tree)
  | .command c => c.run s tree

end Request

end ApiTypes
