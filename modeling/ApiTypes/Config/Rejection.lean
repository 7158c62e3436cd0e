/-!
# Rejected settings

Where in a configuration a setting was rejected, and for what.
-/

set_option autoImplicit false

namespace ApiTypes

namespace Rejection

inductive Step where
  | name (s : String)
  | index (n : Nat)
  deriving DecidableEq, Repr

inductive Kind where
  /-- A setting that is needed is not there. -/
  | missing
  /-- There is no setting of that name. -/
  | unknown
  | notText
  | notList
  | notMapping
  /-- The value is of a kind that cannot turn anything on or off. -/
  | notSwitch
  /-- The value says neither on nor off. -/
  | unclearSwitch
  /-- The environment variable for the setting is malformed. -/
  | badVariable
  deriving DecidableEq, Repr

def Kind.word : Kind → String
  | .missing => "missing"
  | .unknown => "extra_forbidden"
  | .notText => "string_type"
  | .notList => "list_type"
  | .notMapping => "model_type"
  | .notSwitch => "bool_type"
  | .unclearSwitch => "bool_parsing"
  | .badVariable => "value_error"

def Step.text : Step → String
  | .name s => s
  | .index n => toString n

end Rejection

structure Rejection where
  path : List Rejection.Step
  kind : Rejection.Kind
  deriving DecidableEq, Repr

namespace Rejection

def line (r : Rejection) : String :=
  String.intercalate "." (r.path.map Step.text) ++ ": " ++ r.kind.word

def report (heading : String) (rejections : List Rejection) : String :=
  toString rejections.length ++ " validation error" ++ (if rejections.length = 1 then "" else "s") ++
    " for " ++ heading ++ "\n" ++ String.intercalate "\n" (rejections.map line)

end Rejection

end ApiTypes
