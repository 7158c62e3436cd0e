import ApiTypes.Json.Reader
import ApiTypes.Source.Fault
import ApiTypes.Text.Decode
import ApiTypes.Workspace
import ApiTypes.Yaml.Reader

/-!
# Reading sources

A source is the address of a page or the path of a file. A page is read as YAML
if its kind or its address says so, a file if its suffix does, and both as JSON
otherwise.
-/

set_option autoImplicit false

namespace ApiTypes

def Format.read (format : Format) (text : String) : Except TextFault Document :=
  match format with
  | .json =>
    match Json.read text with
    | .ok v => .ok (.ofValue v)
    | .error .malformed => .error (.malformed .json)
    | .error (.numeralTooLong digits) => .error (.content (.numeralTooLong digits))
  | .yaml =>
    match Yaml.read text with
    | .ok document => .ok document
    | .error .malformed => .error (.malformed .yaml)
    | .error (.fault f) => .error (.content f)

namespace Source

/-- Where the paths of sources start from, and whether redirections are followed. -/
structure Reader where
  base : Path
  follows : Bool

def Reader.startingAt (w : Workspace) (base : String) (follows : Bool) : Reader :=
  ⟨if base = "" then w.here else Path.ofText base, follows⟩

def isYamlSuffix (suffix : String) : Bool := suffix = ".yaml" || suffix = ".yml"

def endsIn (ending text : String) : Bool := ending.toList.isSuffixOf text.toList

def formatOfPage (url : String) (page : Reply) : Format :=
  if Text.occursIn "yaml".toList ((page.header "content-type").getD "").toList ||
    endsIn ".yaml" url || endsIn ".yml" url then .yaml else .json

def formatOfFile (p : Path) : Format :=
  if isYamlSuffix (Text.lower p.suffix) then .yaml else .json

def readPage (w : Workspace) (r : Reader) (url : String) : Except SourceFault Document :=
  match w.network.page r.follows url with
  | .error fault => .error (.network fault)
  | .ok page =>
    match page.text with
    | .error fault => .error (.network fault)
    | .ok text => ((formatOfPage url page).read text).mapError .text

def textOfFile (w : Workspace) (tree : FileTree) (p : Path) : Except SourceFault String :=
  match tree.read w.here p with
  | .error fault => .error (.file fault)
  | .ok bytes =>
    match Text.decode? bytes with
    | some text => .ok text
    | none => .error (.text .undecodable)

def readFile (w : Workspace) (tree : FileTree) (p : Path) : Except SourceFault Document :=
  match tree.pathExists w.here p with
  | .error fault => .error (.file fault)
  | .ok false => .error (.absent p.text)
  | .ok true => do
    let text ← textOfFile w tree p
    ((formatOfFile p).read text).mapError .text

def read (w : Workspace) (r : Reader) (tree : FileTree) (source : String) :
    Except SourceFault Document :=
  if Address.isMeant source then readPage w r source
  else readFile w tree (r.base.join (Path.ofText source))

end Source

end ApiTypes
