import ApiTypes.Number.Binary64
import ApiTypes.Value.Calendar

/-!
# Document values

A document is built from scalars, lists and mappings. The entries of a mapping
keep their order. Keys are scalars, and two keys are the same when they are
equal as numbers, as instants or as they stand: 1, 1.0 and true are one key. A
collection may hold itself; it is gone through a few times, and not without end.
-/

set_option autoImplicit false

namespace ApiTypes

inductive Scalar where
  | null
  | bool (b : Bool)
  | int (n : Int)
  | float (x : Binary64)
  | text (s : String)
  | date (d : Date)
  | moment (m : Moment)
  deriving DecidableEq, Repr

inductive Value where
  | scalar (s : Scalar)
  | list (items : List Value)
  | map (entries : List (Scalar × Value))
  /-- One of the collections around this place. The forms are its texts, by how many of the
  collections around this place are being written. Its content is there as far as it is gone
  through once more. -/
  | again (isMap : Bool) (forms : List String) (content : Option Value)
  deriving Inhabited

abbrev Entries := List (Scalar × Value)

/-- What a value is, by the word used for it in messages. -/
inductive Kind where
  | null | bool | int | float | text | list | map | date | moment
  deriving DecidableEq, Repr

def Kind.word : Kind → String
  | .null => "NoneType"
  | .bool => "bool"
  | .int => "int"
  | .float => "float"
  | .text => "str"
  | .list => "list"
  | .map => "dict"
  | .date => "datetime.date"
  | .moment => "datetime.datetime"

namespace Scalar

def kind : Scalar → Kind
  | .null => .null
  | .bool _ => .bool
  | .int _ => .int
  | .float _ => .float
  | .text _ => .text
  | .date _ => .date
  | .moment _ => .moment

def text? : Scalar → Option String
  | .text s => some s
  | _ => none

inductive KeyForm where
  | whole (n : Int)
  | instant (microseconds : Int)
  | itself (s : Scalar)
  deriving DecidableEq, Repr

/-- Whole numbers of every kind are compared as integers, moments with a distance from universal
time as instants, and everything else as it stands. -/
def keyForm : Scalar → KeyForm
  | .bool b => .whole (if b then 1 else 0)
  | .int n => .whole n
  | .float x => match x.toInt? with | some n => .whole n | none => .itself (.float x)
  | .moment m => match m.instant? with | some t => .instant t | none => .itself (.moment m)
  | s => .itself s

def same (a b : Scalar) : Bool := a.keyForm = b.keyForm

def truthy : Scalar → Bool
  | .null => false
  | .bool b => b
  | .int n => n ≠ 0
  | .float x => !x.isZero
  | .text s => s ≠ ""
  | .date _ => true
  | .moment _ => true

end Scalar

namespace Entries

def find? {α : Type} (key : Scalar) : List (Scalar × α) → Option α
  | [] => none
  | (k, v) :: rest => if k.same key then some v else find? key rest

def get? {α : Type} (name : String) (entries : List (Scalar × α)) : Option α :=
  find? (.text name) entries

def has {α : Type} (name : String) (entries : List (Scalar × α)) : Bool := (get? name entries).isSome

/-- Sets the value under a key. A key that is present keeps its place and its spelling. -/
def put {α : Type} (key : Scalar) (value : α) : List (Scalar × α) → List (Scalar × α)
  | [] => [(key, value)]
  | (k, v) :: rest => if k.same key then (k, value) :: rest else (k, v) :: put key value rest

def ofPairs {α : Type} (pairs : List (Scalar × α)) : List (Scalar × α) :=
  pairs.foldl (fun entries p => put p.1 p.2 entries) []

end Entries

namespace Value

def null : Value := .scalar .null

def text (s : String) : Value := .scalar (.text s)

def opened : Value → Value
  | .again _ _ (some v) => v
  | v => v

def kind : Value → Kind
  | .scalar s => s.kind
  | .list _ => .list
  | .map _ => .map
  | .again isMap _ _ => if isMap then .map else .list

def truthy : Value → Bool
  | .scalar s => s.truthy
  | .list items => !items.isEmpty
  | .map entries => !entries.isEmpty
  | .again _ _ _ => true

def isNull : Value → Bool
  | .scalar .null => true
  | _ => false

def isTrue : Value → Bool
  | .scalar (.bool true) => true
  | _ => false

def field (name : String) (entries : Entries) : Value := (Entries.get? name entries).getD null

/-- What stands under a name in a value; null if the value is no mapping. -/
def inside (name : String) : Value → Value
  | .map entries => field name entries
  | _ => null

/-- What a value offers when it is gone through: the items of a list, the keys of a mapping, the
characters of a text. -/
def elements? (v : Value) : Option (List Value) :=
  match v.opened with
  | .list items => some items
  | .map entries => some (entries.map fun e => .scalar e.1)
  | .scalar (.text s) => some (s.toList.map fun c => text c.toString)
  | _ => none

end Value

end ApiTypes
