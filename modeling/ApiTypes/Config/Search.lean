import ApiTypes.Config.Conversion
import ApiTypes.Config.Setup
import ApiTypes.Problem.Basic
import ApiTypes.Source.Read
import ApiTypes.Toml.Reader

/-!
# Finding the configuration

The configuration lists the conversions to make. It is read from a given file,
from the first of the usual files that is there, or from the project file.
Variables and secrets stand in for a list that the file does not give.
-/

set_option autoImplicit false

namespace ApiTypes.Config

def listIn (setup : Setup) (entries : Entries) : Option Value :=
  (List.find? (fun e => e.1.text?.any fun name => setup.folded name = listName) entries).map (·.2)

def unknownNames (setup : Setup) (entries : Entries) : List String :=
  entries.filterMap fun e => e.1.text?.filter fun name =>
    setup.folded name ≠ listName && !Setup.names.contains name

def conversionsOf : Option Value → Except (List Rejection) (List Conversion)
  | none => .error [⟨[.name listName], .missing⟩]
  | some (.list items) => Conversion.ofValues [.name listName] 0 items
  | some _ => .error [⟨[.name listName], .notList⟩]

def check (list : Option Value) (unknown : List String) : Except (List Rejection) (List Conversion) :=
  let rejected : List Rejection := unknown.eraseDups.map fun name => ⟨[.name name], .unknown⟩
  match conversionsOf list, rejected with
  | .ok conversions, [] => .ok conversions
  | .ok _, rejected => .error rejected
  | .error rejections, rejected => .error (rejections ++ rejected)

def ownName : String := "__pydantic_self__"

def lookProblem (path : String) : LookFault → Problem
  | .rejected r => .config (.rejected path [r])
  | .fault f => .document f

def ofEntries (w : Workspace) (tree : FileTree) (path : String) (entries : Entries) :
    Except Problem (List Conversion) := do
  if !(entries.all fun e => e.1.text?.isSome) then throw (.document .settingName)
  if Entries.has ownName entries then throw (.document (.settingTaken ownName))
  let setup := Setup.ofEntries entries
  let findings ← (setup.findings w tree).mapError (lookProblem path)
  let list := (listIn setup entries).orElse fun _ => findings.list
  (check list (findings.unknown ++ unknownNames setup entries)).mapError fun rejections =>
    .config (.rejected path rejections)

def ofValue (w : Workspace) (tree : FileTree) (path : String) :
    Value → Except Problem (List Conversion)
  | .map entries => ofEntries w tree path entries
  | _ => .error (.config (.rejected path [⟨[], .notMapping⟩]))

def textOf (bytes : ByteArray) : Except TextFault String :=
  match Text.decode? bytes with
  | some text => .ok text
  | none => .error .undecodable

def formatOf (p : Path) : Format := if Text.lower p.suffix = ".json" then .json else .yaml

/-- A text that cannot be read is a problem of the configuration, but for faults that are not
those of a value. -/
def unreadable (path : String) : TextFault → Problem
  | .content fault =>
    if fault.family = .value then .config (.unreadable path (.content fault)) else .document fault
  | fault => .config (.unreadable path fault)

/-- Reads the configuration in a file. An empty one has no settings. -/
def readFile (w : Workspace) (tree : FileTree) (p : Path) : Except Problem (List Conversion) := do
  if ← (tree.pathExists w.here p).mapError .file then
    let bytes ← (tree.read w.here p).mapError .file
    let text ← (textOf bytes).mapError (unreadable p.text)
    let document ← ((formatOf p).read text).mapError (unreadable p.text)
    ofValue w tree p.text (if document.value.truthy then document.value else .map [])
  else throw (.config (.noFile p.text))

def usualNames : List String := ["otterts.yaml", "otterts.yml", "otterts.json"]

def projectName : String := "pyproject.toml"

def toolTable (name : String) : Value → Except Fault (Option Value)
  | .map entries => .ok (Entries.get? name entries)
  | .list items =>
    if items.any fun v => (match v with | .scalar s => s = .text name | _ => false) then
      .error .listIndex
    else .ok none
  | .scalar (.text s) =>
    if Text.occursIn name.toList s.toList then .error .textIndex else .ok none
  | v => .error (.notContainer v.kind)

def readProject (w : Workspace) (tree : FileTree) (p : Path) :
    Except Problem (Option (List Conversion)) := do
  let bytes ← (tree.read w.here p).mapError .file
  let text ← (textOf bytes).mapError .text
  match Toml.read text with
  | .error .malformed => throw .table
  | .error (.numeralTooLong digits) => throw (.document (.numeralTooLong digits))
  | .ok entries =>
    let tool := (Entries.get? "tool" entries).getD (.map [])
    match ← (toolTable "otterts" tool).mapError .document with
    | some v => return some (← ofValue w tree p.text v)
    | none => return none

def firstThere (w : Workspace) (tree : FileTree) : List Path → Except Problem (Option Path)
  | [] => .ok none
  | p :: rest => do
    if ← (tree.pathExists w.here p).mapError .file then return some p
    else firstThere w tree rest

def search (w : Workspace) (tree : FileTree) : Except Problem (List Conversion) := do
  let usual := usualNames.map fun name => w.here.join (Path.ofText name)
  let project := w.here.join (Path.ofText projectName)
  match ← firstThere w tree usual with
  | some p => readFile w tree p
  | none =>
    match ← firstThere w tree [project] with
    | none => throw (.config .nowhere)
    | some p =>
      match ← readProject w tree p with
      | some conversions => return conversions
      | none => throw (.config .nowhere)

def find (w : Workspace) (tree : FileTree) (path : Option String) :
    Except Problem (List Conversion) :=
  match path with
  | none => search w tree
  | some path => if path = "" then search w tree else readFile w tree (Path.ofText path)

end ApiTypes.Config
