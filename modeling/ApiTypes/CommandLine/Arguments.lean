import ApiTypes.Text.Pieces

/-!
# Arguments

Arguments are options and positions. An option has a long name and perhaps a
letter, and takes a value or none. The value of a long option stands behind an
equals sign or in the next argument, that of a letter right behind it or in the
next argument; letters without values may stand together. Two dashes alone end
the options.
-/

set_option autoImplicit false

namespace ApiTypes

structure CommandOption where
  name : String
  letter : Option Char
  takesValue : Bool
  deriving DecidableEq, Repr

/-- Arguments that have been understood. An option without a value has the empty one. -/
structure Arguments where
  options : List (String × String)
  positions : List String
  deriving DecidableEq, Repr

namespace Arguments

def empty : Arguments := ⟨[], []⟩

def has (name : String) (a : Arguments) : Bool := a.options.any fun o => o.1 = name

def value? (name : String) (a : Arguments) : Option String :=
  ((a.options.filter fun o => o.1 = name).getLast?).map (·.2)

def addOptions (a : Arguments) (options : List (String × String)) : Arguments :=
  { a with options := a.options ++ options }

def addPosition (a : Arguments) (s : String) : Arguments :=
  { a with positions := a.positions ++ [s] }

/-- The options in one argument, and the one that takes the next argument for its value. -/
structure Found where
  options : List (String × String)
  waiting : Option String
  deriving DecidableEq, Repr

def longName (o : CommandOption) : String := "--" ++ o.name

def asLong (known : List CommandOption) (argument : String) : Option (CommandOption × Option String) :=
  let (name, value) := Text.cut '=' argument.toList
  (known.find? fun o => longName o = String.ofList name).map fun o => (o, value.map String.ofList)

def ofLong : CommandOption × Option String → Option Found
  | (o, none) =>
    if o.takesValue then some ⟨[], some o.name⟩ else some ⟨[(o.name, "")], none⟩
  | (o, some value) => if o.takesValue then some ⟨[(o.name, value)], none⟩ else none

def ofLetters (known : List CommandOption) : List Char → Option Found
  | [] => some ⟨[], none⟩
  | c :: r =>
    match known.find? fun o => o.letter = some c with
    | none => none
    | some o =>
      if o.takesValue then
        if r.isEmpty then some ⟨[], some o.name⟩ else some ⟨[(o.name, String.ofList r)], none⟩
      else (ofLetters known r).map fun f => { f with options := (o.name, "") :: f.options }

def ofArgument (known : List CommandOption) (argument : String) : Option Found :=
  match asLong known argument with
  | some found => ofLong found
  | none => if argument.startsWith "--" then none else ofLetters known (argument.toList.drop 1)

def isOption (argument : String) : Bool := argument.startsWith "-" && 1 < argument.length

def read (known : List CommandOption) : List String → Arguments → Option Arguments
  | [], a => some a
  | argument :: rest, a =>
    if argument = "--" then some { a with positions := a.positions ++ rest }
    else if !isOption argument then read known rest (a.addPosition argument)
    else match ofArgument known argument with
      | none => none
      | some ⟨options, none⟩ => read known rest (a.addOptions options)
      | some ⟨options, some name⟩ =>
        match rest with
        | [] => none
        | value :: rest => read known rest (a.addOptions (options ++ [(name, value)]))

def readLeading (known : List CommandOption) : List String → Arguments → Option Arguments
  | [], a => some a
  | argument :: rest, a =>
    if argument = "--" then some { a with positions := rest }
    else if !isOption argument then some { a with positions := argument :: rest }
    else match ofArgument known argument with
      | none => none
      | some ⟨options, none⟩ => readLeading known rest (a.addOptions options)
      | some ⟨options, some name⟩ =>
        match rest with
        | [] => none
        | value :: rest => readLeading known rest (a.addOptions (options ++ [(name, value)]))

end Arguments

end ApiTypes
