import ApiTypes.Yaml.Unfolding

/-!
# Reading indented documents

A text holds at most one document; none at all is null. Where it has references,
one mapping can be in several places, and labels tell which.
-/

set_option autoImplicit false

namespace ApiTypes.Yaml

def isReference : Token → Bool
  | .reference _ => true
  | _ => false

def read (text : String) : Except Error Document := do
  let tokens ← Token.ofText text
  match ← Graph.ofTokens tokens with
  | none => return .ofValue .null
  | some (root, g) =>
    let w ← Works.ofGraph root g
    let labels := if tokens.any isReference then some (w.labels root) else none
    return ⟨w.value root, labels⟩

end ApiTypes.Yaml
