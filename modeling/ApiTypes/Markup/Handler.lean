import ApiTypes.Markup.ArgumentToken

/-!
# Handlers in tags

A tag may name a handler of events and give it arguments in parentheses. The
arguments are literals: numbers, texts in quotes, the words for true, false and
nothing, and collections of them. What cannot be read is reported by the first
thing that is wrong with it.
-/

set_option autoImplicit false

namespace ApiTypes.Markup

inductive Argument where
  | name (s : String)
  /-- A word that stands for a value. -/
  | fixed
  | number (isSigned isImaginary : Bool)
  | text
  | member
  | call (isEmptySet : Bool)
  | tuple (items : List Argument)
  | set (items : List Argument)
  | map (entries : List (Argument × Argument))
  /-- What stands for the key where a whole mapping is put in. -/
  | spread
  /-- The rest of what can be computed. -/
  | other

namespace Argument

def word : Argument → String
  | .name _ => "name"
  | .fixed => "literal"
  | .number isSigned _ => if isSigned then "expression" else "literal"
  | .text => "literal"
  | .member => "attribute"
  | .call _ => "function call"
  | .tuple _ => "tuple"
  | .set _ => "set display"
  | .map _ => "dict literal"
  | .spread | .other => "expression"

def isBetween : ArgumentToken → Bool
  | .sign s =>
    ["+", "-", "*", "/", "//", "%", "@", "**", "<<", ">>", "&", "|", "^", "<", ">", "<=", ">=", "==", "!="].contains s
  | .word s => ["and", "or", "in", "is"].contains s
  | _ => false

def keywords : List String :=
  ["and", "as", "assert", "async", "await", "break", "class", "continue", "def", "del", "elif", "else",
   "except", "finally", "for", "from", "global", "if", "import", "in", "is", "lambda", "nonlocal", "not",
   "or", "pass", "raise", "return", "try", "while", "with", "yield"]

def constants : List String := ["None", "True", "False"]

def softWords : List String := ["match", "case", "_"]

def oldCalls : List String := ["print", "exec"]

def absent (opened : List Char) : List ArgumentToken → ArgumentFault
  | [] => match opened with
    | c :: _ => .unclosed c
    | [] => .malformed
  | .broken :: _ => .brokenLine
  | _ => .malformed

def isOfPlace : ArgumentFault → Bool
  | .unclosed _ | .brokenLine => true
  | _ => false

def checkPlace (opened : List Char) : List ArgumentToken → Except ArgumentFault Unit
  | [] => if opened.isEmpty then .ok () else .error (absent opened [])
  | .broken :: _ => .error .brokenLine
  | _ => .ok ()

def dropTexts : Bool → List ArgumentToken → Bool × List ArgumentToken
  | isFilled, .text b :: r => dropTexts (isFilled || b) r
  | isFilled, r => (isFilled, r)

abbrev Reading := Except ArgumentFault (Argument × List ArgumentToken)

/-- The value of two values with a sign between them: a number and an imaginary one make up one
number. -/
def combined (sign : ArgumentToken) (a b : Argument) : Argument :=
  match sign, a, b with
  | .sign s, .number _ false, .number false true =>
    if s = "+" || s = "-" then .number true true else .other
  | _, _, _ => .other

def signed (sign : String) : Argument → Argument
  | .number false isImaginary => if sign = "~" then .other else .number true isImaginary
  | _ => .other

mutual

/-- Reads one value with the signs in front of it and what is called or looked up behind it. The
first argument bounds the number of steps. -/
def readOperand : Nat → List Char → List ArgumentToken → Reading
  | 0, opened, s => .error (absent opened s)
  | n + 1, opened, s =>
    match s with
    | .sign "..." :: r => readBehind n opened .fixed r
    | .sign c :: r =>
      if ["+", "-", "~"].contains c then do
        let (a, r) ← readOperand n opened r
        return (signed c a, r)
      else .error (absent opened s)
    | .word "not" :: r => do
      let (_, r) ← readOperand n opened r
      return (.other, r)
    | .number isImaginary :: r => readBehind n opened (.number false isImaginary) r
    | .text isFilled :: r =>
      let (isFilled, r) := dropTexts isFilled r
      readBehind n opened (if isFilled then .other else .text) r
    | .word w :: r =>
      if constants.contains w then readBehind n opened .fixed r
      else if keywords.contains w then .error (absent opened s)
      else readBehind n opened (.name w) r
    | .opening '(' :: r => do
      let (a, r) ← readParentheses n ('(' :: opened) r
      readBehind n opened a r
    | .opening '\x7b' :: r => do
      let (a, r) ← readBraces n ('\x7b' :: opened) r
      readBehind n opened a r
    | s => .error (absent opened s)

def readBehind : Nat → List Char → Argument → List ArgumentToken → Reading
  | 0, _, a, s => .ok (a, s)
  | n + 1, opened, a, s =>
    match s with
    | .sign "." :: r =>
      match r with
      | .word w :: r' =>
        if keywords.contains w || constants.contains w then .error (absent opened r)
        else readBehind n opened .member r'
      | r => .error (absent opened r)
    | .opening '(' :: r => do
      let isSet := match a with
        | .name "set" => true
        | _ => false
      match r with
      | .closing _ :: r => readBehind n opened (.call isSet) r
      | r =>
        let (_, r) ← readItems n ('(' :: opened) true r
        readBehind n opened (.call false) r
    | s => do
      checkPlace opened s
      return (a, s)

def readValue : Nat → List Char → List ArgumentToken → Reading
  | 0, opened, s => .error (absent opened s)
  | n + 1, opened, s => do
    let (a, r) ← readOperand n opened s
    readMore n opened a r

def readMore : Nat → List Char → Argument → List ArgumentToken → Reading
  | 0, _, a, s => .ok (a, s)
  | n + 1, opened, a, s =>
    match s with
    | .word "not" :: .word "in" :: r | .word "is" :: .word "not" :: r => do
      let (_, r) ← readOperand n opened r
      readMore n opened .other r
    | token :: r =>
      if isBetween token then do
        let (b, r) ← readOperand n opened r
        readMore n opened (combined token a b) r
      else .ok (a, s)
    | [] => .ok (a, [])

def readWhole : Nat → List Char → List ArgumentToken → Reading
  | 0, opened, s => .error (absent opened s)
  | n + 1, opened, s => do
    let (a, r) ← readValue n opened s
    match r with
    | .word "if" :: r => do
      let (_, r) ← readValue n opened r
      match r with
      | .word "else" :: r =>
        let (_, r) ← readWhole n opened r
        return (.other, r)
      | [] => throw (absent opened [])
      | _ => throw .missingElse
    | r => do
      checkBehind n opened s a r
      return (a, r)

def begins : Nat → List Char → List ArgumentToken → Bool
  | 0, _, _ => false
  | n + 1, opened, s =>
    match s with
    | .sign c :: r => c = "..." || (["+", "-", "~"].contains c && begins n opened r)
    | .number _ :: _ | .text _ :: _ => true
    | .word "not" :: r => begins n opened r
    | .word w :: _ => !keywords.contains w
    | .opening '(' :: r => (readParentheses n ('(' :: opened) r).isOk
    | .opening '\x7b' :: r => (readBraces n ('\x7b' :: opened) r).isOk
    | _ => false

def checkBehind : Nat → List Char → List ArgumentToken → Argument → List ArgumentToken →
    Except ArgumentFault Unit
  | 0, _, _, _, _ => .ok ()
  | n + 1, opened, s, a, r => do
    let (isText, isSoft, old?) := match a, s with
      | .name w, _ =>
        (match r with
          | .text _ :: _ => true
          | _ => false,
          softWords.contains w, if oldCalls.contains w then some w else none)
      | _, _ => (false, false, none)
    if !isText && !isSoft then
      match readValue n opened r with
      | .error fault => if isOfPlace fault then throw fault
      | .ok _ => pure ()
      if !opened.isEmpty && old?.isNone && begins n opened r then throw .missingComma
    match a with
    | .name _ =>
      match readWhole n opened r with
      | .error .malformed => pure ()
      | .error fault => if begins n opened r || isOfPlace fault then throw fault
      | .ok _ =>
        match old? with
        | some w => throw (.missingParentheses w)
        | none => pure ()
    | _ => pure ()

/-- Reads an item of a collection or an argument of a call: a value that may be given to a name. -/
def readItem : Nat → List Char → Bool → List ArgumentToken → Reading
  | 0, opened, _, s => .error (absent opened s)
  | n + 1, opened, isCall, s => do
    let (a, r) ← readWhole n opened s
    match r with
    | .sign ":=" :: r' =>
      match a with
      | .name _ =>
        let (_, r) ← readWhole n opened r'
        return (.other, r)
      | a => throw (if (readWhole n opened r').isOk then .namingOf a.word else absent opened r')
    | .sign "=" :: r' =>
      match a, isCall with
      | .name _, true =>
        let (_, r) ← readWhole n opened r'
        return (.other, r)
      | .fixed, _ | .tuple _, _ => throw .malformed
      | a, _ =>
        match readValue n opened r' with
        | .error fault => if isOfPlace fault || !begins n opened r' then throw fault
        | .ok (_, behind) =>
          if behind.head? = some (.sign "=") || behind.head? = some (.sign ":=") then throw .malformed
        match a with
        | .name _ => throw .assignment
        | a => throw (.assignmentTo a.word)
    | r => return (a, r)

def readItems : Nat → List Char → Bool → List ArgumentToken →
    Except ArgumentFault (List Argument × List ArgumentToken)
  | 0, opened, _, s => .error (absent opened s)
  | n + 1, opened, isCall, s => do
    let (a, r) ← match s with
      | .sign "*" :: r => do
        let (_, r) ← readWhole n opened r
        pure (Argument.other, r)
      | .sign "**" :: r =>
        if isCall then do
          let (_, r) ← readValue n opened r
          pure (Argument.other, r)
        else throw (absent opened s)
      | s => readItem n opened isCall s
    match r with
    | .closing _ :: r => return ([a], r)
    | .sign "," :: .closing _ :: r => return ([a], r)
    | .sign "," :: r =>
      let (items, r) ← readItems n opened isCall r
      return (a :: items, r)
    | r => throw (absent opened r)

def readParentheses : Nat → List Char → List ArgumentToken → Reading
  | 0, opened, s => .error (absent opened s)
  | n + 1, opened, s =>
    match s with
    | .closing _ :: r => .ok (.tuple [], r)
    | .sign "**" :: r => do
      let (_, r) ← readValue n opened r
      throw (if r.head? = some (.closing ')') then .doubleStar else absent opened r)
    | s => do
      let isStar := s.head? = some (.sign "*")
      if isStar && !begins n opened (s.drop 1) then
        match readWhole n opened (s.drop 1) with
        | .error .malformed | .ok _ => throw .starAlone
        | .error fault => throw fault
      let (items, r) ← readItems n opened false s
      let behind := s.take (s.length - r.length)
      let hasComma := behind.dropLast.getLast? = some (.sign ",")
      match items with
      | [a] =>
        if hasComma then return (.tuple [a], r)
        else if isStar then throw .star
        else return (a, r)
      | items => return (.tuple items, r)

def readBraces : Nat → List Char → List ArgumentToken → Reading
  | 0, opened, s => .error (absent opened s)
  | n + 1, opened, s =>
    match s with
    | .closing _ :: r => .ok (.map [], r)
    | .sign "**" :: _ => do
      let (entries, r) ← readEntries n opened s
      return (.map entries, r)
    | .sign "*" :: _ => do
      let (items, r) ← readItems n opened false s
      return (.set items, r)
    | s => do
      let (_, r) ← readItem n opened false s
      match r with
      | .sign ":" :: _ =>
        let (entries, r) ← readEntries n opened s
        return (.map entries, r)
      | _ =>
        let (items, r) ← readItems n opened false s
        return (.set items, r)

def readEntries : Nat → List Char → List ArgumentToken →
    Except ArgumentFault (List (Argument × Argument) × List ArgumentToken)
  | 0, opened, s => .error (absent opened s)
  | n + 1, opened, s => do
    let (entry, r) ← match s with
      | .sign "**" :: r => do
        let (_, r) ← readValue n opened r
        pure ((Argument.spread, Argument.other), r)
      | s => do
        let (key, r) ← readWhole n opened s
        match r with
        | .sign ":" :: r =>
          if r.head? = some (.closing '\x7d') || r.head? = some (.sign ",") then throw .missingValue
          let (value, r) ← readWhole n opened r
          pure ((key, value), r)
        | [] => throw (absent opened [])
        | _ => throw .missingColon
    match r with
    | .closing _ :: r => return ([entry], r)
    | .sign "," :: .closing _ :: r => return ([entry], r)
    | .sign "," :: r =>
      let (entries, r) ← readEntries n opened r
      return (entry :: entries, r)
    | r => throw (absent opened r)

end

def readAll : Nat → List ArgumentToken → Except ArgumentFault (List Argument)
  | 0, s => .error (absent [] s)
  | n + 1, s => do
    let (a, r) ← readWhole n [] s
    match r with
    | [] => return [a]
    | [.sign ","] => return [a]
    | .sign "," :: r => return a :: (← readAll n r)
    | r => throw (absent [] r)

mutual

def check : Argument → Except ArgumentFault (Option String)
  | .fixed | .text | .number _ _ => .ok none
  | .call isEmptySet => if isEmptySet then .ok (some "set") else .error .computed
  | .tuple items => checkItems items
  | .set items => do
    checkKeys items
    return some "set"
  | .map entries => do
    checkEntries entries
    return some "dict"
  | .spread => .error .spread
  | _ => .error .computed

def checkItems : List Argument → Except ArgumentFault (Option String)
  | [] => .ok none
  | a :: r => do
    let first ← check a
    let later ← checkItems r
    return first.orElse fun _ => later

def checkKeys : List Argument → Except ArgumentFault Unit
  | [] => .ok ()
  | a :: r => do
    match ← check a with
    | some kind => throw (.unhashable kind)
    | none => checkKeys r

def checkEntries : List (Argument × Argument) → Except ArgumentFault Unit
  | [] => .ok ()
  | (key, value) :: r => do
    let kind ← check key
    let _ ← check value
    match kind with
    | some kind => throw (.unhashable kind)
    | none => checkEntries r

end

end Argument

def checkArguments (s : List Char) : Except ArgumentFault Unit := do
  let tokens ← ArgumentToken.ofChars s
  let values ← Argument.readAll (4 * tokens.length + 8) tokens
  let _ ← Argument.checkItems values

def isNameChar (c : Char) : Bool := ArgumentToken.isWordChar c || c = '.'

/-- The arguments of a handler: those in parentheses behind its name, none where there are no
parentheses, and the whole text if it has not this form. -/
def argumentsOf (s : List Char) : List Char :=
  let behind := s.dropWhile isNameChar
  match behind with
  | [] => "()".toList
  | '(' :: r => if r.getLast? = some ')' && !r.contains '\n' then behind else s
  | _ => s

/-- Why a handler cannot be called: with what arguments, in what text, for what reason. -/
structure HandlerFault where
  arguments : List Char
  whole : List Char
  reason : ArgumentFault
  deriving DecidableEq, Repr

def quotedChars (s : List Char) : String := String.ofList (Text.Quoted.encode s)

def HandlerFault.message (f : HandlerFault) : String :=
  if f.reason.isOfMeaning then "error parsing " ++ quotedChars f.whole ++ "; " ++ f.reason.message
  else
    "error parsing " ++ quotedChars f.arguments ++ " in " ++ quotedChars f.whole ++ "; " ++
      f.reason.message

def checkHandler (whole : List Char) : Except HandlerFault Unit :=
  let arguments := argumentsOf (Text.strip whole)
  (checkArguments arguments).mapError fun reason => ⟨arguments, whole, reason⟩

end ApiTypes.Markup
