import ApiTypes.Config.Rejection
import ApiTypes.Text.Pieces
import ApiTypes.Value.Basic

/-!
# Conversions

A conversion says which source to read, where to write its declarations, and
how to read it. It is given as a mapping of settings; all settings are checked,
and every one that is rejected is reported.
-/

set_option autoImplicit false

namespace ApiTypes

structure Conversion where
  source : String
  output : String
  raw : Bool
  mapper : Option String
  deriving DecidableEq, Repr

namespace Conversion

open Rejection (Step)

def onWords : List String := ["1", "on", "t", "true", "y", "yes"]

def offWords : List String := ["0", "off", "f", "false", "n", "no"]

def switchRange : Int := Int.pow 2 63

def switchOfInt (n : Int) : Except Rejection.Kind Bool :=
  if n = 0 then .ok false
  else if n = 1 then .ok true
  else if -switchRange ≤ n && n < switchRange then .error .unclearSwitch
  else .error .notSwitch

/-- A number with a fraction can turn something on or off if it is whole, and smaller than all
that are too large. -/
def switchOfFloat (x : Binary64) : Except Rejection.Kind Bool :=
  match x.toInt? with
  | some n => if -switchRange < n then switchOfInt n else .error .notSwitch
  | none => .error .notSwitch

def switchOfText (s : String) : Except Rejection.Kind Bool :=
  let word := Text.lower s
  if onWords.contains word then .ok true
  else if offWords.contains word then .ok false
  else .error .unclearSwitch

def switchOf : Value → Except Rejection.Kind Bool
  | .scalar (.bool b) => .ok b
  | .scalar (.int n) => switchOfInt n
  | .scalar (.text s) => switchOfText s
  | .scalar (.float x) => switchOfFloat x
  | _ => .error .notSwitch

def textOf : Value → Except Rejection.Kind String
  | .scalar (.text s) => .ok s
  | _ => .error .notText

def textOrNone : Value → Except Rejection.Kind (Option String)
  | .scalar .null => .ok none
  | v => (textOf v).map some

/-- Checks the setting of a name; without a default it is needed. -/
def setting {α : Type} (place : List Step) (name : String) (default : Option α)
    (check : Value → Except Rejection.Kind α) (entries : Entries) : Except Rejection α :=
  match Entries.get? name entries, default with
  | some v, _ => (check v).mapError fun kind => ⟨place ++ [.name name], kind⟩
  | none, some value => .ok value
  | none, none => .error ⟨place ++ [.name name], .missing⟩

def complaint {α : Type} : Except Rejection α → List Rejection
  | .ok _ => []
  | .error r => [r]

def ofEntries (place : List Step) (entries : Entries) : Except (List Rejection) Conversion :=
  let source := setting place "source" none textOf entries
  let output := setting place "output" none textOf entries
  let raw := setting place "raw_schema" (some false) switchOf entries
  let mapper := setting place "property_mapper" (some none) textOrNone entries
  match source, output, raw, mapper with
  | .ok source, .ok output, .ok raw, .ok mapper => .ok ⟨source, output, raw, mapper⟩
  | source, output, raw, mapper =>
    .error (complaint source ++ complaint output ++ complaint raw ++ complaint mapper)

def ofValue (place : List Step) : Value → Except (List Rejection) Conversion
  | .map entries => ofEntries place entries
  | _ => .error [⟨place, .notMapping⟩]

def ofValues (place : List Step) : Nat → List Value → Except (List Rejection) (List Conversion)
  | _, [] => .ok []
  | n, v :: rest =>
    match ofValue (place ++ [.index n]) v, ofValues place (n + 1) rest with
    | .ok c, .ok others => .ok (c :: others)
    | .error r, .ok _ => .error r
    | .ok _, .error others => .error others
    | .error r, .error others => .error (r ++ others)

end Conversion

end ApiTypes
