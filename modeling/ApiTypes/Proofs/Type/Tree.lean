import ApiTypes.Proofs.Type.Scan

/-!
# Types as trees, and how they are read

A type is read from left to right over the words of its text. `|` binds looser
than `&`, and what follows in brackets binds tightest. An open bracket puts what
was begun outside of it on a stack. A slot in which nothing at all stands is
read as the type without a name.
-/

set_option autoImplicit false

namespace ApiTypes.TypeText

/-- A type. A name comes with the indices behind it. A field has a name, and says whether it is
required. -/
inductive Tree where
  | name (head : List Char) (indices : List (List Char))
  | literal (s : List Char)
  | union (members : List Tree)
  | intersection (members : List Tree)
  | partialOf (type : Tree)
  | array (item : Tree)
  | tuple (items : List Tree)
  | record (fields : List (List Char × Bool × Tree))
  | openMap (value : Tree)
  deriving Inhabited

namespace Tree

def word (w : String) : Tree := .name w.toList []

def missing : Tree := .name [] []

/-- What types are put together to, or the only one, or a word where there are none. -/
def joinedOf (whole : List Tree → Tree) (empty : String) : List Tree → Tree
  | [] => word empty
  | [t] => t
  | ts => whole ts

def unionOf : List Tree → Tree := joinedOf .union "never"

def intersectionOf : List Tree → Tree := joinedOf .intersection "unknown"

end Tree

abbrev Field := List Char × Bool × Tree

/-- A type as far as it is read: the alternatives in front of the last `|`, the parts of the
present alternative in front of the last `&`, and the operand read since. -/
structure Slot where
  alternatives : List Tree
  parts : List Tree
  operand : Option Tree

namespace Slot

def blank : Slot := ⟨[], [], none⟩

def isBlank (s : Slot) : Bool := s.alternatives.isEmpty && s.parts.isEmpty && s.operand.isNone

def put (s : Slot) (t : Tree) : Slot := { s with operand := some t }

def type? (s : Slot) : Option Tree :=
  match s.operand with
  | some t => some (Tree.unionOf (s.alternatives ++ [Tree.intersectionOf (s.parts ++ [t])]))
  | none => if s.isBlank then some Tree.missing else none

end Slot

/-- What was begun in front of an open bracket. -/
inductive Frame where
  | group (s : Slot)
  | argument (s : Slot)
  | item (s : Slot) (items : List Tree)
  | field (s : Slot) (fields : List Field) (name : List Char) (required : Bool)
  | value (s : Slot)

inductive Place where
  | type (s : Slot)
  /-- behind the bracket that follows an operand -/
  | bracket (s : Slot) (t : Tree)
  | index (s : Slot) (t : Tree) (name : List Char)
  | members (s : Slot) (fields : List Field)
  | named (s : Slot) (fields : List Field) (name : List Char)
  | optional (s : Slot) (fields : List Field) (name : List Char)
  /-- behind the bracket that opens the key of a map, with the words still to come -/
  | key (s : Slot) (rest : List Token)

structure Parse where
  frames : List Frame
  place : Place

namespace Parse

def keyWords : List Token := [.word "key".toList, .mark ':', .word "string".toList, .mark ']', .mark ':']

def opened (f : Frame) (fs : List Frame) : Parse := ⟨f :: fs, .type .blank⟩

def stepOperand (fs : List Frame) (s : Slot) : Token → Option Parse
  | .word w => some ⟨fs, .type (s.put (.name w []))⟩
  | .quoted '\'' l => some ⟨fs, .type (s.put (.literal l))⟩
  | .mark '(' => some (opened (.group s) fs)
  | .mark '[' => some (opened (.item s []) fs)
  | .mark '\x7b' => some ⟨fs, .members s []⟩
  | _ => none

def stepBehind (fs : List Frame) (s : Slot) (t : Tree) : Token → Option Parse
  | .mark '|' =>
    some ⟨fs, .type ⟨s.alternatives ++ [Tree.intersectionOf (s.parts ++ [t])], [], none⟩⟩
  | .mark '&' => some ⟨fs, .type ⟨s.alternatives, s.parts ++ [t], none⟩⟩
  | .mark '[' => some ⟨fs, .bracket s t⟩
  | .mark '<' =>
    match t with
    | .name head [] =>
      if head = "Partial".toList then some (opened (.argument { s with operand := none }) fs)
      else none
    | _ => none
  | _ => none

def stepEnd (s : Slot) (c : Char) : List Frame → Option Parse
  | .group o :: fs => if c = ')' then s.type?.map fun t => ⟨fs, .type (o.put t)⟩ else none
  | .argument o :: fs =>
    if c = '>' then s.type?.map fun t => ⟨fs, .type (o.put (.partialOf t))⟩ else none
  | .item o items :: fs =>
    if c = ',' then s.type?.map fun t => opened (.item o (items ++ [t])) fs
    else if c = ']' then
      if items.isEmpty && s.isBlank then some ⟨fs, .type (o.put (.tuple []))⟩
      else s.type?.map fun t => ⟨fs, .type (o.put (.tuple (items ++ [t])))⟩
    else none
  | .field o fields name required :: fs =>
    if c = ';' then s.type?.map fun t => ⟨fs, .members o (fields ++ [(name, required, t)])⟩ else none
  | .value o :: fs => if c = '\x7d' then s.type?.map fun t => ⟨fs, .type (o.put (.openMap t))⟩ else none
  | [] => none

def isEnd : Token → Option Char
  | .mark c => if [')', '>', ',', ']', ';', '\x7d'].contains c then some c else none
  | _ => none

def stepType (fs : List Frame) (s : Slot) (x : Token) : Option Parse :=
  match isEnd x, s.operand with
  | some c, _ => stepEnd s c fs
  | none, none => stepOperand fs s x
  | none, some t => stepBehind fs s t x

def stepMembers (fs : List Frame) (s : Slot) (fields : List Field) : Token → Option Parse
  | .quoted '"' name => some ⟨fs, .named s fields name⟩
  | .mark '[' => if fields.isEmpty then some ⟨fs, .key s keyWords⟩ else none
  | .mark '\x7d' => some ⟨fs, .type (s.put (.record fields))⟩
  | _ => none

def step : Parse → Token → Option Parse
  | ⟨fs, .type s⟩, x => stepType fs s x
  | ⟨fs, .bracket s t⟩, x =>
    match x with
    | .mark ']' => some ⟨fs, .type (s.put (.array t))⟩
    | .quoted '"' name => some ⟨fs, .index s t name⟩
    | _ => none
  | ⟨fs, .index s t name⟩, x =>
    match x, t with
    | .mark ']', .name head indices => some ⟨fs, .type (s.put (.name head (indices ++ [name])))⟩
    | _, _ => none
  | ⟨fs, .members s fields⟩, x => stepMembers fs s fields x
  | ⟨fs, .named s fields name⟩, x =>
    match x with
    | .mark ':' => some (opened (.field s fields name true) fs)
    | .mark '?' => some ⟨fs, .optional s fields name⟩
    | _ => none
  | ⟨fs, .optional s fields name⟩, x =>
    if x = .mark ':' then some (opened (.field s fields name false) fs) else none
  | ⟨fs, .key s rest⟩, x =>
    match rest with
    | [] => none
    | [y] => if x = y then some (opened (.value s) fs) else none
    | y :: rest => if x = y then some ⟨fs, .key s rest⟩ else none

def run (p : Parse) (ts : List Token) : Option Parse := ts.foldlM step p

def type? : Parse → Option Tree
  | ⟨[], .type s⟩ => s.type?
  | _ => none

theorem run_nil (p : Parse) : p.run [] = some p := rfl

theorem run_cons (p : Parse) (t : Token) (ts : List Token) :
    p.run (t :: ts) = (p.step t).bind fun q => q.run ts := rfl

theorem run_append (p : Parse) (a b : List Token) :
    p.run (a ++ b) = (p.run a).bind fun q => q.run b := by
  simp only [run, List.foldlM_append]
  rfl

end Parse

def Tree.read (cs : List Char) : Option Tree := do
  let ts ← words? cs
  let p ← Parse.run ⟨[], .type .blank⟩ ts
  p.type?

end ApiTypes.TypeText
