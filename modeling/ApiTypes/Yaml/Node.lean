import ApiTypes.Yaml.Lexer
import ApiTypes.Yaml.Scalars

/-!
# Nodes of a document

Tokens form a graph of scalars, sequences and mappings, whose nodes are known by
their numbers. An anchor names a node from its start on, and a reference stands
for that very node, also inside of it. A text holds at most one document.
-/

set_option autoImplicit false

namespace ApiTypes.Yaml

/-- What a node is made of; other nodes are given by their numbers. -/
inductive Content where
  | scalar (text : String)
  | sequence (items : List Nat)
  | mapping (entries : List (Nat × Nat))
  deriving DecidableEq, Repr

structure Node where
  tag : Tag
  content : Content
  deriving DecidableEq, Repr

abbrev Graph := Array Node

namespace Graph

def absentNode : Node := ⟨.null, .scalar ""⟩

def node (g : Graph) (id : Nat) : Node := g.getD id absentNode

def tag (g : Graph) (id : Nat) : Tag := (g.node id).tag

def content (g : Graph) (id : Nat) : Content := (g.node id).content

def setTag (g : Graph) (id : Nat) (tag : Tag) : Graph := g.modify id fun n => { n with tag := tag }

def setContent (g : Graph) (id : Nat) (content : Content) : Graph :=
  g.modify id fun n => { n with content := content }

def entries (g : Graph) (id : Nat) : List (Nat × Nat) :=
  match g.content id with
  | .mapping entries => entries
  | _ => []

end Graph

namespace Graph

abbrev Handles := List (String × String)

def standardHandles : Handles := [("!", "!"), ("!!", Tag.common)]

structure Parser where
  tokens : List Token
  anchors : List (String × Nat)
  graph : Graph

abbrev Parse := StateT Parser (Except Error)

def peek : Parse (Option Token) := do
  match (← get).tokens.head? with
  | some (.unreadable f) => throw (.fault f)
  | next => return next

def advance : Parse Unit := modify fun p => { p with tokens := p.tokens.drop 1 }

def fail {α : Type} : Parse α := throw .malformed

def accept (t : Token) : Parse Bool := do
  if (← peek) = some t then
    advance
    return true
  else return false

def isNext (ts : List Token) : Parse Bool := do
  match ← peek with
  | some t => return ts.contains t
  | none => return false

def add (n : Node) : Parse Nat := do
  let id := (← get).graph.size
  modify fun p => { p with graph := p.graph.push n }
  return id

def fill (id : Nat) (content : Content) : Parse Unit :=
  modify fun p => { p with graph := p.graph.setContent id content }

def absent : Parse Nat := add absentNode

/-- What is written in front of the content of a node. The tag is absent or fully spelt. -/
structure Heading where
  anchor : Option String
  tag : Option String

def anchor? : Parse (Option String) := do
  match ← peek with
  | some (.anchor name) =>
    advance
    return some name
  | _ => return none

def tagName? : Parse (Option TagName) := do
  match ← peek with
  | some (.tag t) =>
    advance
    return some t
  | _ => return none

def spell (handles : Handles) (t : TagName) : Parse String :=
  match t.handle with
  | none => return t.suffix
  | some h =>
    match handles.lookup h with
    | some meaning => return meaning ++ t.suffix
    | none => fail

def heading (handles : Handles) : Parse Heading := do
  let first ← anchor?
  let name ← tagName?
  let anchor ← if first.isNone && name.isSome then anchor? else pure first
  match name with
  | some t => return ⟨anchor, some (← spell handles t)⟩
  | none => return ⟨anchor, none⟩

/-- The tag of a scalar. A lone mark asks for the type of the plain form. -/
def scalarTag (tag : Option String) (text : String) (plain : Bool) : Tag :=
  match tag with
  | some "!" => Tag.ofPlain text
  | some name => Tag.ofName name
  | none => if plain then Tag.ofPlain text else .str

def collectionTag (tag : Option String) (default : Tag) : Tag :=
  match tag with
  | some "!" => default
  | some name => Tag.ofName name
  | none => default

/-- Adds a node under its anchor. No name is given twice. -/
def start (h : Heading) (n : Node) : Parse Nat := do
  match h.anchor with
  | none => add n
  | some name =>
    if ((← get).anchors.lookup name).isSome then fail
    let id ← add n
    modify fun p => { p with anchors := (name, id) :: p.anchors }
    return id

def headed (h : Heading) : Parse Nat :=
  if h.anchor.isNone && h.tag.isNone then fail
  else start h ⟨scalarTag h.tag "" true, .scalar ""⟩

def referenced (name : String) : Parse Nat := do
  match (← get).anchors.lookup name with
  | some id => return id
  | none => fail

def unlessNext (ts : List Token) (node : Parse Nat) : Parse Nat := do
  if ← isNext ts then absent else node

def startSequence (h : Heading) : Parse Nat := start h ⟨collectionTag h.tag .seq, .sequence []⟩

def startMapping (h : Heading) : Parse Nat := start h ⟨collectionTag h.tag .map, .mapping []⟩

mutual

/-- Reads a node and answers with its number. The first argument bounds the number of steps. -/
def read : Nat → Handles → Bool → Bool → Parse Nat
  | 0, _, _, _ => fail
  | n + 1, handles, block, indentless => do
    match ← peek with
    | some (.reference name) =>
      advance
      referenced name
    | _ => content? n handles block indentless (← heading handles)

def content? : Nat → Handles → Bool → Bool → Heading → Parse Nat
  | 0, _, _, _, _ => fail
  | n + 1, handles, block, indentless, h => do
    match ← peek with
    | some (.scalar text plain) =>
      advance
      start h ⟨scalarTag h.tag text plain, .scalar text⟩
    | some .flowSequenceStart =>
      let id ← startSequence h
      advance
      fill id (.sequence (← flowItems n handles true))
      return id
    | some .flowMappingStart =>
      let id ← startMapping h
      advance
      fill id (.mapping (← flowEntries n handles true))
      return id
    | some .blockEntry =>
      if indentless then
        let id ← startSequence h
        fill id (.sequence (← indentlessItems n handles))
        return id
      else headed h
    | some .blockSequenceStart =>
      if block then
        let id ← startSequence h
        advance
        fill id (.sequence (← blockItems n handles))
        return id
      else headed h
    | some .blockMappingStart =>
      if block then
        let id ← startMapping h
        advance
        fill id (.mapping (← blockEntries n handles))
        return id
      else headed h
    | _ => headed h

def blockItems : Nat → Handles → Parse (List Nat)
  | 0, _ => fail
  | n + 1, handles => do
    if ← accept .blockEntry then
      let item ← unlessNext [.blockEntry, .blockEnd] (read n handles true false)
      return item :: (← blockItems n handles)
    else if ← accept .blockEnd then return []
    else fail

def indentlessItems : Nat → Handles → Parse (List Nat)
  | 0, _ => fail
  | n + 1, handles => do
    if ← accept .blockEntry then
      let item ← unlessNext [.blockEntry, .key, .value, .blockEnd] (read n handles true false)
      return item :: (← indentlessItems n handles)
    else return []

def blockEntries : Nat → Handles → Parse (List (Nat × Nat))
  | 0, _ => fail
  | n + 1, handles => do
    if ← accept .blockEnd then return []
    else if ← accept .key then
      let key ← unlessNext [.key, .value, .blockEnd] (read n handles true true)
      let value ← if ← accept .value then
          unlessNext [.key, .value, .blockEnd] (read n handles true true)
        else absent
      return (key, value) :: (← blockEntries n handles)
    else fail

/-- The items of a flow sequence; one that is a key makes a mapping of one entry. -/
def flowItems : Nat → Handles → Bool → Parse (List Nat)
  | 0, _, _ => fail
  | n + 1, handles, first => do
    if ← accept .flowSequenceEnd then return []
    else do
      if !first then
        if !(← accept .flowEntry) then fail
      if ← accept .key then
        let id ← add ⟨.map, .mapping []⟩
        let key ← unlessNext [.value, .flowEntry, .flowSequenceEnd] (read n handles false false)
        let value ← if ← accept .value then
            unlessNext [.flowEntry, .flowSequenceEnd] (read n handles false false)
          else absent
        fill id (.mapping [(key, value)])
        return id :: (← flowItems n handles false)
      else if ← accept .flowSequenceEnd then return []
      else
        let item ← read n handles false false
        return item :: (← flowItems n handles false)

def flowEntries : Nat → Handles → Bool → Parse (List (Nat × Nat))
  | 0, _, _ => fail
  | n + 1, handles, first => do
    if ← accept .flowMappingEnd then return []
    else do
      if !first then
        if !(← accept .flowEntry) then fail
      if ← accept .key then
        let key ← unlessNext [.value, .flowEntry, .flowMappingEnd] (read n handles false false)
        let value ← if ← accept .value then
            unlessNext [.flowEntry, .flowMappingEnd] (read n handles false false)
          else absent
        return (key, value) :: (← flowEntries n handles false)
      else if ← accept .flowMappingEnd then return []
      else
        let key ← read n handles false false
        let value ← absent
        return (key, value) :: (← flowEntries n handles false)

end

def declared : Nat → Option Nat → Handles → Parse Handles
  | 0, _, _ => fail
  | n + 1, version, handles => do
    match ← peek with
    | some (.directive (.version major)) =>
      advance
      if version.isSome || major ≠ 1 then fail
      declared n (some major) handles
    | some (.directive (.tag h meaning)) =>
      advance
      if (handles.lookup h).isSome then fail
      declared n version ((h, meaning) :: handles)
    | some (.directive .other) =>
      advance
      declared n version handles
    | _ => return handles

def document (limit : Nat) : Parse Nat := do
  if ← startsPlainly then read limit standardHandles true false
  else do
    let handles ← declared limit none []
    if !(← accept .documentStart) then fail
    match ← peek with
    | none => absent
    | some (.directive _) => absent
    | _ =>
      unlessNext [.documentStart, .documentEnd]
        (read limit (handles ++ standardHandles.filter fun p => (handles.lookup p.1).isNone) true false)
where
  startsPlainly : Parse Bool := do
    match ← peek with
    | some (.directive _) => return false
    | some .documentStart => return false
    | _ => return true

def skipEnds : Nat → Parse Unit
  | 0 => return
  | n + 1 => do
    if ← accept .documentEnd then skipEnds n

/-- The only document of a text: its root, and its nodes. There is none without tokens. -/
def only (limit : Nat) : Parse (Option Nat) := do
  match ← peek with
  | none => return none
  | _ =>
    let root ← document limit
    skipEnds limit
    match ← peek with
    | none => return some root
    | _ =>
      let _ ← declared limit none []
      let _ ← peek
      fail

def ofTokens (tokens : List Token) : Except Error (Option (Nat × Graph)) := do
  let (root, p) ← (only (4 * tokens.length + 8)).run ⟨tokens, [], #[]⟩
  return root.map fun id => (id, p.graph)

end Graph

end ApiTypes.Yaml
