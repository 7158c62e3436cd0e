import ApiTypes.Toml.Scalars

/-!
# Reading table documents

A document is a row of key lines and table headers. A table is declared once,
the tables of an array one by one, and what is written as an inline table or an
array is not added to. Names in a dotted key open tables on the way.
-/

set_option autoImplicit false

namespace ApiTypes.Toml

abbrev Key := List String

def isBareChar (c : Char) : Bool := c.isAlphanum || c = '-' || c = '_'

def keyPart (s : List Char) : Option (String × List Char) :=
  let bare := s.takeWhile isBareChar
  if bare.isEmpty then Quote.line s else some (String.ofList bare, s.dropWhile isBareChar)

/-- A dotted key. The first argument bounds the number of its parts. -/
def key : Nat → List Char → Option (Key × List Char)
  | 0, _ => none
  | n + 1, s => do
    let (part, r) ← keyPart s
    match skipSpaces r with
    | '.' :: r => do
      let (rest, r) ← key n (skipSpaces r)
      return (part :: rest, r)
    | r => return ([part], r)

def comment (s : List Char) : Option (List Char) :=
  match s with
  | '#' :: r =>
    let text := r.takeWhile (· ≠ '\n')
    if text.any isControl then none else some (r.drop text.length)
  | _ => some s

def skipBetween : Nat → List Char → Option (List Char)
  | 0, s => some s
  | n + 1, s => do
    let r ← comment (s.dropWhile fun c => isSpace c || c = '\n')
    if r.length = s.length then some s else skipBetween n r

/-- Changes the table at a path, opening the tables that are missing on the way. A path that leads
through an array of tables goes on in its last one, where that is allowed. -/
def changeAt (throughArrays : Bool) : Key → (Entries → Option Entries) → Entries → Option Entries
  | [], change, table => change table
  | name :: path, change, table =>
    match Entries.get? name table with
    | none => do
      let inner ← changeAt throughArrays path change []
      return Entries.put (.text name) (.map inner) table
    | some (.map inner) => do
      let inner ← changeAt throughArrays path change inner
      return Entries.put (.text name) (.map inner) table
    | some (.list items) =>
      if !throughArrays then none
      else match items.getLast? with
        | some (.map inner) => do
          let inner ← changeAt throughArrays path change inner
          return Entries.put (.text name) (.list (items.dropLast ++ [.map inner])) table
        | _ => none
    | some _ => none

def define (name : String) (value : Value) (table : Entries) : Option Entries :=
  if Entries.has name table then none else some (table ++ [(.text name, value)])

def defineAt (throughArrays : Bool) (path : Key) (value : Value) (table : Entries) : Option Entries :=
  match path.getLast? with
  | some name => changeAt throughArrays path.dropLast (define name value) table
  | none => none

def addTable (name : String) (table : Entries) : Option Entries :=
  match Entries.get? name table with
  | none => some (table ++ [(.text name, .list [.map []])])
  | some (.list items) => some (Entries.put (.text name) (.list (items ++ [.map []])) table)
  | some _ => none

def isCollection : Value → Bool
  | .scalar _ => false
  | _ => true

mutual

/-- Reads a value. The first argument bounds the number of steps. -/
def value : Nat → List Char → Except Error (Value × List Char)
  | 0, _ => .error .malformed
  | n + 1, s =>
    match s with
    | '[' :: r => do
      let (values, r) ← items n (← needed (skipBetween (r.length + 1) r))
      return (.list values, r)
    | '\x7b' :: r =>
      match skipSpaces r with
      | '\x7d' :: r => .ok (.map [], r)
      | r => do
        let (table, r) ← inlineTable n [] [] r
        return (.map table, r)
    | '"' :: _ => (needed (Quote.read s)).map fun (t, r) => (.text t, r)
    | '\'' :: _ => (needed (Quote.read s)).map fun (t, r) => (.text t, r)
    | _ => (readScalar s).map fun (v, r) => (.scalar v, r)

def items : Nat → List Char → Except Error (List Value × List Char)
  | 0, _ => .error .malformed
  | n + 1, s =>
    match s with
    | ']' :: r => .ok ([], r)
    | _ => do
      let (v, r) ← value n s
      match ← needed (skipBetween (r.length + 1) r) with
      | ']' :: r => return ([v], r)
      | ',' :: r =>
        let (rest, r) ← items n (← needed (skipBetween (r.length + 1) r))
        return (v :: rest, r)
      | _ => throw .malformed

def pair : Nat → List Char → Except Error ((Key × Value) × List Char)
  | 0, _ => .error .malformed
  | n + 1, s => do
    let (k, r) ← needed (key (s.length + 1) s)
    match r with
    | '=' :: r =>
      let (v, r) ← value n (skipSpaces r)
      return ((k, v), r)
    | _ => throw .malformed

def inlineTable : Nat → List Key → Entries → List Char → Except Error (Entries × List Char)
  | 0, _, _, _ => .error .malformed
  | n + 1, closed, table, s => do
    let ((k, v), r) ← pair n s
    if closed.any (·.isPrefixOf k) then throw .malformed
    let table ← needed (defineAt false k v table)
    match skipSpaces r with
    | '\x7d' :: r => return (table, r)
    | ',' :: r =>
      inlineTable n (if isCollection v then k :: closed else closed) table (skipSpaces r)
    | _ => throw .malformed

end

/-- A document while it is read: its tables, the header in force, the tables that were declared,
those that count as declared from the next header on, and the keys that are closed. -/
structure Draft where
  table : Entries
  header : Key
  declared : List Key
  opened : List Key
  closed : List Key

namespace Draft

def empty : Draft := ⟨[], [], [], [], []⟩

def isClosed (d : Draft) (k : Key) : Bool := !k.isEmpty && d.closed.any (·.isPrefixOf k)

def isDeclared (d : Draft) (k : Key) : Bool := !k.isEmpty && d.declared.contains k

def tablesOnWay (header k : Key) : List Key :=
  (List.range (k.length - 1)).map fun i => header ++ k.take (i + 1)

def addPair (d : Draft) (k : Key) (v : Value) : Option Draft :=
  let way := tablesOnWay d.header k
  if way.any d.isDeclared || d.isClosed (d.header ++ k.dropLast) then none
  else do
    let table ← defineAt true (d.header ++ k) v d.table
    return { d with
      table := table
      opened := way ++ d.opened
      closed := if isCollection v then (d.header ++ k) :: d.closed else d.closed }

def openTable (d : Draft) (k : Key) : Option Draft := do
  let declared := d.opened ++ d.declared
  if declared.contains k || d.isClosed k then none
  let table ← changeAt true k some d.table
  return { d with table := table, header := k, declared := k :: declared, opened := [] }

def openArrayTable (d : Draft) (k : Key) : Option Draft := do
  if d.isClosed k then none
  let declared := (d.opened ++ d.declared).filter fun j => !k.isPrefixOf j
  let table ← changeAt true k.dropLast (addTable (k.getLast?.getD "")) d.table
  return { d with
    table := table
    header := k
    declared := k :: declared
    opened := []
    closed := d.closed.filter fun j => !k.isPrefixOf j }

def statement (d : Draft) (s : List Char) : Except Error (Draft × List Char) :=
  match s with
  | '[' :: '[' :: r => do
    let (k, r) ← needed (key (r.length + 1) (skipSpaces r))
    match r with
    | ']' :: ']' :: r => return (← needed (d.openArrayTable k), r)
    | _ => throw .malformed
  | '[' :: r => do
    let (k, r) ← needed (key (r.length + 1) (skipSpaces r))
    match r with
    | ']' :: r => return (← needed (d.openTable k), r)
    | _ => throw .malformed
  | _ => do
    let ((k, v), r) ← pair (2 * s.length + 2) s
    return (← needed (d.addPair k v), r)

def lines : Nat → Draft → List Char → Except Error Draft
  | 0, _, _ => .error .malformed
  | n + 1, d, s =>
    match skipSpaces s with
    | [] => .ok d
    | '\n' :: r => lines n d r
    | s => do
      let (d, r) ← if s.head? = some '#' then .ok (d, s) else d.statement s
      match ← needed (comment (skipSpaces r)) with
      | [] => return d
      | '\n' :: r => lines n d r
      | _ => throw .malformed

end Draft

def read (text : String) : Except Error Entries :=
  let s := Text.replacePair '\r' '\n' ['\n'] text.toList
  (Draft.lines (s.length + 1) .empty s).map Draft.table

end ApiTypes.Toml
