import ApiTypes.Fault
import ApiTypes.Files.Fault
import ApiTypes.Files.Path

/-!
# File trees

A tree holds directories and files, each under the list of names that leads to
it from the root. A path is walked name by name: every name but the last has to
lead to a directory, and a step up goes to the directory above.
-/

set_option autoImplicit false

namespace ApiTypes

abbrev Place := List String

inductive FileNode where
  | directory
  | file (content : ByteArray)

instance : DecidableEq FileNode
  | .directory, .directory => isTrue rfl
  | .directory, .file _ => isFalse nofun
  | .file _, .directory => isFalse nofun
  | .file a, .file b =>
    @decidable_of_iff _ (a = b) ⟨congrArg FileNode.file, FileNode.file.inj⟩ (ByteArray.instDecidableEq a b)

structure FileTree where
  nodes : List (Place × FileNode)
  deriving DecidableEq

namespace FileTree

open FileFault (Cause)

def empty : FileTree := ⟨[]⟩

def lookup (place : Place) : List (Place × FileNode) → Option FileNode
  | [] => none
  | (p, node) :: rest => if p = place then some node else lookup place rest

/-- What stands at a place; the root is a directory in every tree. -/
def node? (t : FileTree) (place : Place) : Option FileNode :=
  if place.isEmpty then some .directory else lookup place t.nodes

def file? (t : FileTree) (place : Place) : Option ByteArray :=
  match t.node? place with
  | some (.file content) => some content
  | _ => none

def set (place : Place) (node : FileNode) : List (Place × FileNode) → List (Place × FileNode)
  | [] => [(place, node)]
  | (p, old) :: rest => if p = place then (p, node) :: rest else (p, old) :: set place node rest

def put (t : FileTree) (place : Place) (node : FileNode) : FileTree := ⟨set place node t.nodes⟩

def longestName : Nat := 255

/-- One step of a walk. The place it leads to may be vacant. -/
def step (t : FileTree) (place : Place) (name : String) : Except Cause Place :=
  match t.node? place with
  | none => .error .missing
  | some (.file _) => .error .notDirectory
  | some .directory =>
    if name = ".." then .ok place.dropLast
    else if name.utf8ByteSize ≤ longestName then .ok (place ++ [name])
    else .error .nameTooLong

def walk (t : FileTree) : Place → List String → Except Cause Place
  | place, [] => .ok place
  | place, name :: rest => do walk t (← step t place name) rest

def longestPath : Nat := 4095

def reach (t : FileTree) (here : Path) (p : Path) : Except Cause Place :=
  if longestPath < p.text.utf8ByteSize then .error .nameTooLong
  else walk t [] (here.join p).names

def visit (t : FileTree) (here p : Path) : Except Cause FileNode := do
  match t.node? (← reach t here p) with
  | some node => return node
  | none => throw .missing

/-- Does the path lead to a file or a directory? A text that can be no path leads nowhere; a name
that is too long is a fault of its own. -/
def pathExists (t : FileTree) (here p : Path) : Except FileFault Bool :=
  if (Fault.ofPath? p.text).isSome then .ok false
  else match visit t here p with
    | .ok _ => .ok true
    | .error .nameTooLong => .error ⟨.nameTooLong, p.text⟩
    | .error _ => .ok false

def isDirectory (t : FileTree) (here p : Path) : Bool :=
  match visit t here p with
  | .ok .directory => true
  | _ => false

def isFile (t : FileTree) (here p : Path) : Bool :=
  match visit t here p with
  | .ok (.file _) => true
  | _ => false

/-- The names in a directory; there are none where there is no directory. -/
def namesIn (t : FileTree) (here p : Path) : List String :=
  match reach t here p with
  | .ok place => t.nodes.filterMap fun n =>
    if n.1.length = place.length + 1 && place.isPrefixOf n.1 then n.1.getLast? else none
  | .error _ => []

def read (t : FileTree) (here p : Path) : Except FileFault ByteArray :=
  match visit t here p with
  | .ok (.file content) => .ok content
  | .ok .directory => .error ⟨.isDirectory, p.text⟩
  | .error cause => .error ⟨cause, p.text⟩

def makeDirectory (t : FileTree) (here p : Path) : Except Cause FileTree := do
  let place ← reach t here p
  match t.node? place with
  | some _ => throw .alreadyThere
  | none => return t.put place .directory

def ensureDirectory (t : FileTree) (here p : Path) : FileTree × Option Cause :=
  match makeDirectory t here p with
  | .ok t => (t, none)
  | .error cause => (t, if cause ≠ .missing && isDirectory t here p then none else some cause)

/-- Makes a directory and those above it that are missing. The first argument bounds their number.
Directories made before a fault stay. -/
def ensureDirectories : Nat → FileTree → Path → Path → FileTree × Option FileFault
  | 0, t, _, p => (t, some ⟨.missing, p.text⟩)
  | n + 1, t, here, p =>
    let report (r : FileTree × Option Cause) : FileTree × Option FileFault :=
      (r.1, r.2.map fun cause => ⟨cause, p.text⟩)
    match makeDirectory t here p with
    | .error .missing =>
      match ensureDirectories n t here p.parent with
      | (t, none) => report (ensureDirectory t here p)
      | (t, some fault) => (t, some fault)
    | _ => report (ensureDirectory t here p)

def writeFile (t : FileTree) (here p : Path) (content : ByteArray) : FileTree × Option FileFault :=
  match reach t here p with
  | .error cause => (t, some ⟨cause, p.text⟩)
  | .ok place =>
    match t.node? place with
    | some .directory => (t, some ⟨.isDirectory, p.text⟩)
    | _ => (t.put place (.file content), none)

def ensureAbove (t : FileTree) (here p : Path) : FileTree × Option FileFault :=
  ensureDirectories (p.names.length + 1) t here p.parent

end FileTree

end ApiTypes
