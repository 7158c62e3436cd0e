import ApiTypes.Document.Paths

/-!
# Sessions

A session answers composition calls one after another over one ledger. A call
that ends in a fault leaves in the ledger what it had recorded.
-/

set_option autoImplicit false

namespace ApiTypes.Session

inductive Call where
  | type (node : Value)
  | fields (properties required : Value)
  | parameters (parameters : Value)
  | group (parameters : Value)
  | operation (operation : Value)
  | response (status response : Value)
  | content (container : Value)
  | paths (paths : Value)
  | pathItem (pathItem : Value)
  | reference (ref : Value) (root : String)
  | declare (id operation : Value)

inductive Answer where
  | text (s : String)
  | groups (g : ParameterGroups)
  | nothing

namespace Call

def compose (ctx : Context) : Call → Compose Answer
  | .type v => Answer.text <$> composeType ctx.root v
  | .fields v names => Answer.text <$> composeProperties ctx.root v names
  | .parameters v => Answer.text <$> Parameters.compose ctx v
  | .group v => Answer.groups <$> Parameters.group ctx v
  | .operation v => Answer.text <$> Operation.compose ctx v
  | .response key v => Answer.text <$> Operation.response ctx key v
  | .content v => Answer.text <$> Operation.content ctx v
  | .paths v => Answer.text <$> Paths.compose ctx v
  | .pathItem v => Answer.text <$> Paths.item ctx v
  | .reference v root => do
    let ref ← Reference.ofValue v
    Answer.text <$> Compose.refer root ref
  | .declare id v => do
    Compose.declareOperation id v
    return .nothing

end Call

def declares (ledger : Ledger) (id : Value) : Except Fault Bool := do
  let key ← id.asKey
  return (Entries.find? key ledger.operations).isSome

def run (ctx : Context) : List Call → Ledger → List (Except Fault Answer) × Ledger
  | [], ledger => ([], ledger)
  | call :: rest, ledger =>
    let (answer, ledger) := (call.compose ctx).exec ledger
    let (answers, ledger) := run ctx rest ledger
    (answer :: answers, ledger)

end ApiTypes.Session
