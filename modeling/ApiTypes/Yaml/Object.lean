import ApiTypes.Yaml.Merge

/-!
# Objects of a document

Every node that is used becomes one object: a scalar, a list or a mapping whose
parts are given by the numbers of their nodes. A collection is there from the
moment that it is met and is filled later: all that were met while one round was
filled are filled in the next. The first thing that is wrong in this order is
what is reported.
-/

set_option autoImplicit false

namespace ApiTypes.Yaml

inductive Object where
  | scalar (s : Scalar)
  | list (items : List Nat)
  | map (entries : List (Scalar × Nat))

/-- The state of the work: the nodes, the objects that there are by number, and the collections that
are to be filled in the next round, the last one first. -/
structure Works where
  graph : Graph
  objects : Array (Option Object)
  waiting : List Nat

namespace Works

def start (g : Graph) : Works := ⟨g, Array.replicate g.size none, []⟩

def object? (w : Works) (id : Nat) : Option Object := (w.objects.getD id none)

def put (id : Nat) (o : Object) (w : Works) : Works :=
  { w with objects := w.objects.setIfInBounds id (some o) }

/-- The text of a node that stands for a scalar. A mapping stands for its default value. -/
def scalarText (g : Graph) : Nat → Nat → Except Error String
  | 0, _ => .error (.fault .endless)
  | n + 1, id =>
    match g.content id with
    | .scalar text => .ok text
    | .sequence _ => .error .malformed
    | .mapping entries =>
      match entries.find? fun e => g.tag e.1 = .value with
      | some (_, default) => scalarText g n default
      | none => .error .malformed

def isScalar (g : Graph) (id : Nat) : Bool :=
  match g.content id with
  | .scalar _ => true
  | _ => false

/-- The scalar that a node stands for. A date is written as a text. -/
def scalarOf (g : Graph) (id : Nat) : Except Error Scalar := do
  let tag := g.tag id
  if [Tag.null, .bool, .int, .float, .timestamp, .str].contains tag then
    let text ← scalarText g (g.size + 1) id
    if tag = .timestamp && !isScalar g id then throw (.fault .stampOfMap)
    Meaning.scalar tag text
  else throw .malformed

def make (id : Nat) (w : Works) : Except Error Works :=
  if (w.object? id).isSome then .ok w
  else match w.graph.tag id with
    | .seq => .ok { w.put id (.list []) with waiting := id :: w.waiting }
    | .map => .ok { w.put id (.map []) with waiting := id :: w.waiting }
    | _ => do return w.put id (.scalar (← scalarOf w.graph id))

def keyOf (id : Nat) (w : Works) : Except Error Scalar :=
  match w.object? id with
  | some (.scalar s) => .ok s
  | _ => .error .malformed

def makeEntries : List (Nat × Nat) → Works → Except Error (List (Scalar × Nat) × Works)
  | [], w => .ok ([], w)
  | (key, value) :: rest, w => do
    let w ← w.make key
    let k ← w.keyOf key
    let w ← w.make value
    let (others, w) ← makeEntries rest w
    return ((k, value) :: others, w)

def fill (w : Works) (id : Nat) : Except Error Works :=
  match w.object? id, w.graph.content id with
  | some (.list _), .sequence items => do
    let w ← items.foldlM (fun w item => w.make item) w
    return w.put id (.list items)
  | some (.map _), .mapping _ => do
    let g ← w.graph.merge id
    let (entries, w) ← makeEntries (g.entries id) { w with graph := g }
    return w.put id (.map (Entries.ofPairs entries))
  | _, _ => .error .malformed

/-- Fills collections in rounds. Every round but the first has collections that were not there
before, so that the number of nodes bounds the number of rounds. -/
def rounds : Nat → Works → Except Error Works
  | 0, w => .ok w
  | n + 1, w =>
    if w.waiting.isEmpty then .ok w
    else do
      let w ← w.waiting.reverse.foldlM fill { w with waiting := [] }
      rounds n w

def ofGraph (root : Nat) (g : Graph) : Except Error Works := do
  let w ← (start g).make root
  rounds (g.size + 1) w

end Works

end ApiTypes.Yaml
