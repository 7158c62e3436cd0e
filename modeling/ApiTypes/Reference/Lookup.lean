import ApiTypes.Fault
import ApiTypes.Number.Numeral
import ApiTypes.Reference.Basic

/-!
# Looking up a reference

A reference into the document itself is followed from the top: a segment is a
name in a mapping and a place in a list, counted from the end if negative.
Empty segments are skipped. References into other documents are not followed.
-/

set_option autoImplicit false

namespace ApiTypes.Reference

def segments (path : List Char) : List String :=
  ((Text.split '/' path).filter (!·.isEmpty)).map fun s => String.ofList (unescape s)

def place? (length : Nat) (numeral : String) : Option Nat :=
  match Numeral.read numeral with
  | .value n =>
    let i := if n < 0 then n + length else n
    if 0 ≤ i then some i.toNat else none
  | _ => none

def step (v : Value) (segment : String) : Option Value :=
  match v.opened with
  | .map entries => Entries.get? segment entries
  | .list items => (place? items.length segment).bind (items[·]?)
  | _ => none

def follow (v : Value) (path : List String) : Option Value := path.foldlM step v

def lookup (document : Value) (ref : String) : Option Value :=
  match ref.toList with
  | '#' :: path => follow document (segments path)
  | _ => none

def isRequired (document : Value) (ref : String) : Bool :=
  match (lookup document ref).map Value.opened with
  | some (.map entries) => (Value.field "required" entries).isTrue
  | _ => false

def ofValue : Value → Except Fault String
  | .scalar (.text s) => .ok s
  | v => .error (.noOperation v.kind "startswith")

end ApiTypes.Reference
