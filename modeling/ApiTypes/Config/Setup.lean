import ApiTypes.Config.Rejection
import ApiTypes.Config.VariableFile
import ApiTypes.Encoding.Basic
import ApiTypes.Fault
import ApiTypes.Files.Tree
import ApiTypes.Json.Reader
import ApiTypes.Text.Decode
import ApiTypes.Workspace

/-!
# Where settings come from

Besides the file itself, the environment, files of variables and directories of
secrets give settings, in this order of precedence. Entries of the file whose
names start with an underscore say which names count and where to look.
-/

set_option autoImplicit false

namespace ApiTypes.Config

def listName : String := "documents"

structure Setup where
  /-- what is in front of the name of a setting, in the name of its variable; not usable if it is
  no text -/
  mark : Option String
  isMarked : Bool
  matchesCase : Bool
  ignoresEmpty : Bool
  /-- the text of a variable that counts as null -/
  nullText : Option String
  variableFiles : Value
  /-- the name of the encoding of these files -/
  fileEncoding : Value
  /-- what stands in the name of a variable between a setting and a part of it -/
  separator : Option String
  /-- the arguments of a command line that settings are taken from -/
  arguments : Value
  secretDirectories : Value

namespace Setup

def standardMark : String := "OTTERTS_"

/-- The names of entries that are about the looking, and are no settings. Not all of them matter. -/
def names : List String :=
  ["_env_prefix", "_case_sensitive", "_env_ignore_empty", "_env_parse_none_str", "_env_file",
    "_secrets_dir", "_nested_model_default_partial_update", "_env_prefix_target",
    "_env_file_encoding", "_env_nested_delimiter", "_env_nested_max_split", "_env_parse_enums",
    "_cli_prog_name", "_cli_parse_args", "_cli_settings_source", "_cli_parse_none_str",
    "_cli_hide_none_type", "_cli_avoid_json", "_cli_enforce_required",
    "_cli_use_class_docs_for_groups", "_cli_exit_on_error", "_cli_prefix", "_cli_flag_prefix_char",
    "_cli_implicit_flags", "_cli_ignore_unknown_args", "_cli_kebab_case", "_cli_shortcuts",
    "_build_sources"]

def markOf : Value → Option String
  | .scalar .null => some standardMark
  | .scalar (.text s) => some s
  | _ => none

def marksSettings : Value → Bool
  | .scalar .null => true
  | .scalar (.text s) => s = "variable" || s = "all"
  | _ => false

def textOf : Value → Option String
  | .scalar (.text s) => some s
  | _ => none

def ofEntries (entries : Entries) : Setup where
  mark := markOf (Value.field "_env_prefix" entries)
  isMarked := marksSettings (Value.field "_env_prefix_target" entries)
  matchesCase := (Value.field "_case_sensitive" entries).truthy
  ignoresEmpty := (Value.field "_env_ignore_empty" entries).truthy
  nullText := textOf (Value.field "_env_parse_none_str" entries)
  variableFiles := Value.field "_env_file" entries
  fileEncoding := Value.field "_env_file_encoding" entries
  separator := (textOf (Value.field "_env_nested_delimiter" entries)).filter (· ≠ "")
  arguments := Value.field "_cli_parse_args" entries
  secretDirectories := Value.field "_secrets_dir" entries

def folded (s : Setup) (name : String) : String := if s.matchesCase then name else Text.lower name

end Setup

inductive LookFault where
  | rejected (r : Rejection)
  | fault (f : Fault)
  deriving DecidableEq, Repr

def badVariable : LookFault := .rejected ⟨[], .badVariable⟩

/-- Settings from one place: the list, if it is given, and the names of what is not known. -/
structure Findings where
  list : Option Value
  unknown : List String

namespace Setup

def variableName (s : Setup) : Except LookFault String :=
  if !s.isMarked then .ok (s.folded listName)
  else match s.mark with
  | some mark => .ok (s.folded (mark ++ listName))
  | none => .error badVariable

def counted (s : Setup) (bindings : List (String × Option String)) : List (String × Option String) :=
  (bindings.filter fun v => !(s.ignoresEmpty && v.2 = some "")).foldl
    (fun known v => VariableFile.put (s.folded v.1) v.2 known) []

/-- The list that a variable's text gives; null gives none. -/
def listOf (s : Setup) (text : String) : Except LookFault (Option Value) :=
  if s.nullText = some text then .ok (some .null)
  else match Json.read text with
    | .ok v => .ok (if v.isNull then none else some v)
    | .error _ => .error badVariable

def fromParts (s : Setup) (name : String) (bindings : List (String × Option String)) : Option Value :=
  match s.separator with
  | some separator =>
    let start := (name ++ separator).toList
    if bindings.any fun v => start.isPrefixOf v.1.toList then some (.map []) else none
  | none => none

def fromVariables (s : Setup) (bindings : List (String × Option String)) :
    Except LookFault (Option Value) := do
  let name ← s.variableName
  match bindings.lookup name with
  | some (some text) => s.listOf text
  | _ => return s.fromParts name bindings

def fromEnvironment (s : Setup) (w : Workspace) : Except LookFault (Option Value) :=
  s.fromVariables (s.counted (w.environment.map fun v => (v.1, some v.2)))

def paths : Value → Except LookFault (List Path)
  | .scalar .null => .ok []
  | .scalar (.text s) => .ok [Path.ofText s]
  | v => do
    let items ← v.elements.mapError .fault
    items.mapM fun item =>
      match item with
      | .scalar (.text s) => .ok (Path.ofText s)
      | item => .error (.fault (.notPath item.kind))

def readText (decode? : ByteArray → Option String) (w : Workspace) (tree : FileTree) (p : Path) :
    Except LookFault String :=
  match tree.read w.here p with
  | .ok bytes =>
    match decode? bytes with
    | some text => .ok text
    | none => .error badVariable
  | .error _ => .error badVariable

def reading (s : Setup) : Except LookFault (ByteArray → Option String) :=
  match s.fileEncoding with
  | .scalar (.text name) =>
    if name = "" then .ok Text.decode?
    else match Encoding.ofName? name with
      | some .ofBytes | some .ofTexts => .error (.fault (.notTextEncoding name))
      | some .utf8 => .ok Text.decode?
      | some e => .ok fun bytes => (e.decodeFile? bytes.toList).map fun text =>
          String.ofList (Text.unifyBreaks text)
      | none => .error (.fault (.unknownEncoding name))
  | v => if v.truthy then .error (.fault (.encodingKind v.kind)) else .ok Text.decode?

/-- The variables of one file; there are none where there is no file. -/
def variablesIn (s : Setup) (w : Workspace) (tree : FileTree) (p : Path) :
    Except LookFault (List (String × Option String)) :=
  if tree.isFile w.here p then do
    return VariableFile.read w.environment (← readText (← s.reading) w tree p)
  else .ok []

/-- Is a variable of a file one that could be part of the list, or the name of a setting? -/
def isKnown (s : Setup) (name listed : String) : Bool :=
  listed.toList.isPrefixOf name.toList || (s.mark ≠ some "" && name = listName)

def fileBindings (s : Setup) (w : Workspace) (tree : FileTree) :
    Except LookFault (List (String × Option String)) := do
  let files ← (← paths s.variableFiles).mapM (s.variablesIn w tree)
  return (files.map s.counted).flatten.foldl (fun known v => VariableFile.put v.1 v.2 known) []

def fromFiles (s : Setup) (bindings : List (String × Option String)) : Except LookFault Findings := do
  let list ← s.fromVariables bindings
  let listed ← s.variableName
  let unknown := (bindings.filter fun v => v.2.any (· ≠ "") && !s.isKnown v.1 listed).map (·.1)
  return ⟨list, unknown⟩

def secretIn (s : Setup) (w : Workspace) (tree : FileTree) (listed : String) (p : Path) :
    Except LookFault (Option String) :=
  match (tree.namesIn w.here p).find? fun name => s.folded name = listed with
  | some name =>
    let file := p.join ⟨"", [name]⟩
    if tree.isFile w.here file then (readText Text.decode? w tree file).map fun text =>
      some (String.ofList (Text.strip text.toList))
    else .ok none
  | none => .ok none

/-- The last secret that directories hold; a path to a file is no directory. -/
def fromSecrets (s : Setup) (w : Workspace) (tree : FileTree) :
    Except LookFault (Option Value) := do
  let directories ← paths s.secretDirectories
  let there := directories.filter fun p => tree.isFile w.here p || tree.isDirectory w.here p
  if there.any (tree.isFile w.here) then throw badVariable
  if there.isEmpty then return none
  let secrets ← there.reverse.mapM (secretIn s w tree (← s.variableName))
  match secrets.findSome? id with
  | some text => s.listOf text
  | none => return none

/-- Arguments are a list, unless none are asked for or those of the program are. -/
def checkArguments (s : Setup) : Except LookFault Unit :=
  match s.arguments with
  | .list _ | .scalar (.bool _) => .ok ()
  | v => if v.truthy then .error badVariable else .ok ()

def findings (s : Setup) (w : Workspace) (tree : FileTree) : Except LookFault Findings := do
  let bindings ← s.fileBindings w tree
  s.checkArguments
  let environment ← s.fromEnvironment w
  let files ← s.fromFiles bindings
  let secrets ← s.fromSecrets w tree
  return ⟨(environment.orElse fun _ => files.list).orElse fun _ => secrets, files.unknown⟩

end Setup

end ApiTypes.Config
