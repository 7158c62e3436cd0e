import ApiTypes.Fault
import ApiTypes.Value.Text

/-!
# Type expressions

The text of types built from the texts of smaller types. A union or an
intersection of one member is that member; of none it is `never` or `unknown`.
The empty text stands for a node without a recognised shape.
-/

set_option autoImplicit false

namespace ApiTypes.Expression

def unconstrained : String := ""

def anything : String := "any"

def unknown : String := "unknown"

def never : String := "never"

def braced (body : String) : String := "\x7b" ++ body ++ "\x7d"

/-- Types in brackets with a separator between each two, or the only one, or a word where there are
none. -/
def joined (sep empty : String) : List String → String
  | [] => empty
  | [t] => t
  | ts => "(" ++ Text.join sep ts ++ ")"

def union : List String → String := joined ") | (" never

def intersection : List String → String := joined ") & (" unknown

def partialOf (t : String) : String := "Partial<" ++ t ++ ">"

def array (t : String) : String := "(" ++ t ++ ")[]"

def tuple (ts : List String) : String := "[" ++ Text.join ", " ts ++ "]"

def openMap (t : String) : String := braced (" [key: string]: " ++ t ++ " ")

def orNull (t : String) : String := "(" ++ t ++ ") | null"

def orAnything (t : String) : String := if t = unconstrained then anything else t

def fieldHead (name : String) (required : Bool) : String :=
  "\"" ++ name ++ "\"" ++ (if required then "" else "?") ++ ": "

/-- Backslashes, single quotes and the three line and column breaks are escaped, so that the
literal stands on one line. The backslashes come first: those of the later escapes are kept. -/
def escaped (s : List Char) : List Char :=
  let s := Text.replaceChar '\\' ['\\', '\\'] s
  let s := Text.replaceChar '\'' ['\\', '\''] s
  let s := Text.replaceChar '\n' ['\\', 'n'] s
  let s := Text.replaceChar '\r' ['\\', 'r'] s
  Text.replaceChar '\t' ['\\', 't'] s

def textLiteral (s : String) : String := "'" ++ String.ofList (escaped s.toList) ++ "'"

def literal : Value → Except Fault String
  | .scalar .null => .ok "null"
  | .scalar (.bool b) => .ok (if b then "true" else "false")
  | .scalar (.int n) => (Scalar.int n).inner
  | .scalar (.float x) => .ok x.text
  | v => v.plain.map textLiteral

def literals (values : List Value) : Except Fault (List String) := values.mapM literal

def tupleOf (v : Value) : Except Fault String :=
  match v.elements?, v with
  | some items, _ => (texts 0 items).map tuple
  | none, .again _ _ _ => .error .endless
  | none, _ => .error .joinsNothing
where
  texts : Nat → List Value → Except Fault (List String)
    | _, [] => .ok []
    | i, .scalar (.text s) :: rest => (texts (i + 1) rest).map (s :: ·)
    | i, v :: _ => .error (.joinsItem i v.kind)

def textsOf (v : Value) : Except Fault (List String) := do
  let items ← v.elements
  items.mapM Value.plain

end ApiTypes.Expression
