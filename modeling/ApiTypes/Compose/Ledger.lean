import ApiTypes.Fault
import ApiTypes.Reference.Basic
import ApiTypes.Value.Text

/-!
# The ledger of a composition

While declarations are composed three things are recorded: the keys of the
other documents that are referred to, the operations that are declared under a
name, and warnings about degraded input. A key or a name that is already there
stays as it is. What was recorded before a fault stays recorded.
-/

set_option autoImplicit false

namespace ApiTypes

structure Ledger where
  externals : List String
  operations : List (Scalar × Value)
  warnings : List String

namespace Ledger

def empty : Ledger := ⟨[], [], []⟩

def addExternal (l : Ledger) (key : String) : Ledger :=
  if key ∈ l.externals then l else { l with externals := l.externals ++ [key] }

def addOperation (l : Ledger) (id : Scalar) (operation : Value) : Ledger :=
  match Entries.find? id l.operations with
  | some _ => l
  | none => { l with operations := l.operations ++ [(id, operation)] }

def addWarning (l : Ledger) (warning : String) : Ledger :=
  { l with warnings := l.warnings ++ [warning] }

end Ledger

/-- A computation that may end in a fault and keeps the ledger either way. -/
abbrev Compose := ExceptT Fault (StateM Ledger)

namespace Compose

def exec {α : Type} (m : Compose α) (l : Ledger) : Except Fault α × Ledger := m.run l

def warn (message : String) : Compose Unit :=
  modify fun l => l.addWarning message

def warnIf (condition : Bool) (message : String) : Compose Unit :=
  if condition then warn message else pure ()

def noteExternal (key : String) : Compose Unit :=
  modify fun l => l.addExternal key

/-- Declares an operation under a name, unless the name is taken. A name without a text, which no
name that is taken equals, declares nothing. -/
def declareOperation (id : Value) (operation : Value) : Compose Unit := do
  let key ← id.asKey
  let _ ← key.plain
  modify fun l => l.addOperation key operation

/-- The expression for a reference; another document's key is recorded. -/
def refer (root : String) (ref : String) : Compose String := do
  match Reference.externalKey? ref with
  | some key => noteExternal key
  | none => pure ()
  return Reference.expression root ref

end Compose

end ApiTypes
