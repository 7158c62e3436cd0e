import ApiTypes.Problem.Wording

/-!
# Reports

A report has a kind, and a kind has fields, some of which are needed. The kinds
stand under one another: every kind of report about a document is a report
about schemas, and all are reports.
-/

set_option autoImplicit false

namespace ApiTypes

inductive ReportKind where
  | general | schema | shapeless | source | configuration | output
  deriving DecidableEq, Repr

namespace ReportKind

def above : ReportKind → List ReportKind
  | .general => [.general]
  | .schema => [.schema, .general]
  | .shapeless => [.shapeless, .schema, .general]
  | .source => [.source, .schema, .general]
  | .configuration => [.configuration, .general]
  | .output => [.output, .general]

def fields : ReportKind → List (String × Bool)
  | .general => [("message", true)]
  | .schema => [("message", true)]
  | .shapeless => [("source", false)]
  | .source => [("source", true), ("cause", false)]
  | .configuration => [("message", true), ("config_path", false), ("field", false)]
  | .output => [("output_path", true), ("cause", false)]

/-- The kinds without fields of their own look at what is missing first, the others at what is
too much. -/
def isPlain : ReportKind → Bool
  | .general => true
  | .schema => true
  | _ => false

end ReportKind

inductive FieldFault where
  | missing (field : String)
  | unknown (field : String)
  deriving DecidableEq, Repr

namespace ReportKind

def missing? (k : ReportKind) (given : List String) : Option FieldFault :=
  (k.fields.find? fun f => f.2 && !given.contains f.1).map fun f => .missing f.1

def unknown? (k : ReportKind) (given : List String) : Option FieldFault :=
  (given.find? fun name => !(k.fields.any fun f => f.1 = name)).map .unknown

def wrong? (k : ReportKind) (given : List String) : Option FieldFault :=
  if k.isPlain then (k.missing? given).orElse fun _ => k.unknown? given
  else (k.unknown? given).orElse fun _ => k.missing? given

end ReportKind

structure Report where
  kind : ReportKind
  fields : List (String × Option String)
  deriving DecidableEq, Repr

namespace Report

/-- The value of a field; one that is not given has none. -/
def field? (name : String) (given : List (String × Option String)) : Option String :=
  ((given.find? fun f => f.1 = name).map (·.2)).join

def ofFields (kind : ReportKind) (given : List (String × Option String)) : Except FieldFault Report :=
  match kind.wrong? (given.map (·.1)) with
  | some fault => .error fault
  | none => .ok ⟨kind, kind.fields.map fun f => (f.1, field? f.1 given)⟩

def text (r : Report) (name : String) : String := (field? name r.fields).getD ""

def isBare (r : Report) : Bool :=
  r.kind.isPlain || (r.kind = .configuration && r.text "config_path" = "" && r.text "field" = "")

def message (r : Report) : String :=
  match r.kind with
  | .general => r.text "message"
  | .schema => r.text "message"
  | .shapeless => Wording.shapeless (field? "source" r.fields)
  | .source => Wording.unread (r.text "source") (field? "cause" r.fields)
  | .configuration =>
    Wording.configured (r.text "message") (field? "config_path" r.fields) (field? "field" r.fields)
  | .output => Wording.unwritten (r.text "output_path") (field? "cause" r.fields)

end Report

end ApiTypes
