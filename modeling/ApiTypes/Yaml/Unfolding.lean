import ApiTypes.Value.Identity
import ApiTypes.Value.Text
import ApiTypes.Yaml.Object

/-!
# Values of objects

The value of an object is the tree that its parts unfold to. A collection
inside itself is unfolded a few times and then cut off. Where it is met again it
has its texts: as long as it is not yet among the collections being written it
is written in full, and an ellipsis stands for it when it is.
-/

set_option autoImplicit false

namespace ApiTypes.Yaml.Works

def isMap : Object → Bool
  | .map _ => true
  | _ => false

/-- An integer too long to be written has no text of its own inside a collection that holds itself. -/
def scalarForm (s : Scalar) : String :=
  match s.inner with
  | .ok text => text
  | .error fault => fault.message

/-- The text of an object inside the collections that are being written. The first argument is more
than the number of the others. -/
def form (w : Works) : Nat → List Nat → Nat → String
  | 0, _, _ => ""
  | n + 1, writing, id =>
    match w.object? id with
    | none => ""
    | some (.scalar s) => scalarForm s
    | some (.list items) =>
      if writing.contains id then Value.ellipsis false
      else "[" ++ Text.join ", " (items.map (form w n (id :: writing))) ++ "]"
    | some (.map entries) =>
      if writing.contains id then Value.ellipsis true
      else
        "\x7b" ++ Text.join ", " (entries.map fun e =>
          scalarForm e.1 ++ ": " ++ form w n (id :: writing) e.2) ++ "\x7d"

def forms (w : Works) (around : List Nat) (id : Nat) : List String :=
  (List.range (around.idxOf id + 1)).map fun k => form w (w.objects.size + 1) (around.take k) id

def repetitions : Nat := 3

/-- The value of an object, given the collections around it. The first argument bounds their
number. -/
def unfold (w : Works) : Nat → List Nat → Nat → Value
  | 0, _, _ => .null
  | n + 1, around, id =>
    match w.object? id with
    | none => .null
    | some (.scalar s) => .scalar s
    | some o =>
      let isAgain := around.contains id
      if isAgain && repetitions < around.count id then .again (isMap o) (w.forms around id) none
      else
        let content := match o with
          | .scalar s => .scalar s
          | .list items => .list (items.map (unfold w n (id :: around)))
          | .map entries => .map (entries.map fun e => (e.1, unfold w n (id :: around) e.2))
        if isAgain then .again (isMap o) (w.forms around id) (some content) else content

def labelsOf (w : Works) : Nat → List Nat → Nat → Labels
  | 0, _, _ => .leaf
  | n + 1, around, id =>
    if around.contains id then .leaf
    else match w.object? id with
      | some (.list items) => .list (items.map (labelsOf w n (id :: around)))
      | some (.map entries) => .map id (entries.map fun e => labelsOf w n (id :: around) e.2)
      | _ => .leaf

def depthLimit (w : Works) : Nat := (repetitions + 2) * (w.objects.size + 1)

def value (w : Works) (root : Nat) : Value := w.unfold w.depthLimit [] root

def labels (w : Works) (root : Nat) : Labels := w.labelsOf w.depthLimit [] root

end ApiTypes.Yaml.Works
