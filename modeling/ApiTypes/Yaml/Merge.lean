import ApiTypes.Yaml.Node

/-!
# Merging mappings

A mapping may merge others: their entries go in front of its own, those of an
earlier one taking precedence, and its own entries win over all of them. What is
merged has its own merges made first, and a mapping that merges itself brings
the entries that it has left at that moment.
-/

set_option autoImplicit false

namespace ApiTypes.Yaml.Graph

def isMergeKey (g : Graph) (id : Nat) : Bool := g.tag id = .merge

def asTextKey (g : Graph) (entry : Nat × Nat) : Graph :=
  if g.tag entry.1 = .value then g.setTag entry.1 .str else g

def entryCount (g : Graph) : Nat :=
  g.foldl (fun n node => match node.content with
    | .mapping entries => n + entries.length
    | _ => n) 1

mutual

/-- Makes the merges of a mapping from a place on, given the entries merged so far. A merge that is
made is taken out first, so that the first argument bounds their number. -/
def mergeFrom : Nat → Nat → Nat → List (Nat × Nat) → Graph → Except Error Graph
  | 0, _, _, _, _ => .error (.fault .endless)
  | n + 1, id, place, merged, g =>
    let entries := g.entries id
    let plain := (entries.drop place).takeWhile fun e => !g.isMergeKey e.1
    let next := place + plain.length
    let g := plain.foldl asTextKey g
    match entries[next]? with
    | none => .ok (if merged.isEmpty then g else g.setContent id (.mapping (merged ++ entries)))
    | some (_, source) => do
      let g := g.setContent id (.mapping (entries.eraseIdx next))
      let (brought, g) ← sourceEntries n source g
      mergeFrom n id next (merged ++ brought) g

/-- The entries that a node brings where it is merged: those of a mapping, or of the mappings in a
sequence, the last one first. -/
def sourceEntries : Nat → Nat → Graph → Except Error (List (Nat × Nat) × Graph)
  | 0, _, _ => .error (.fault .endless)
  | n + 1, source, g =>
    match g.content source with
    | .scalar _ => .error .malformed
    | .mapping _ => do
      let g ← mergeFrom n source 0 [] g
      return (g.entries source, g)
    | .sequence items =>
      items.foldlM (fun (brought, g) item =>
        match g.content item with
        | .mapping _ => do
          let g ← mergeFrom n item 0 [] g
          return (g.entries item ++ brought, g)
        | _ => throw .malformed) ([], g)

end

def merge (g : Graph) (id : Nat) : Except Error Graph := mergeFrom (2 * g.entryCount) id 0 [] g

end ApiTypes.Yaml.Graph
