import ApiTypes.Text.Blank
import ApiTypes.Text.DecimalDigit
import ApiTypes.Text.Quoted

/-!
# Parts of arguments

The arguments of a handler are written in numbers, texts in quotes, words, signs
and brackets. Numbers have a notation for each base, and underscores may stand
between their digits. Brackets belong together in pairs.
-/

set_option autoImplicit false

namespace ApiTypes.Markup

/-- Why arguments cannot be read, or are no literals. -/
inductive ArgumentFault where
  | unclosed (opening : Char)
  | unopened (closing : Char)
  | mismatch (closing opening : Char)
  | unfinishedText
  | unfinishedTriple
  /-- A number is not written as those of its kind are. -/
  | numeral (kind : String)
  | digit (c : Char) (kind : String)
  | leadingZeros
  | noCharacter (c : Char)
  | brokenLine
  | missingComma
  | missingElse
  | missingValue
  | missingColon
  | missingParentheses (word : String)
  | assignment
  /-- A value is given to something other than a name. -/
  | assignmentTo (what : String)
  | namingOf (what : String)
  | star
  | starAlone
  | doubleStar
  | malformed
  /-- A collection cannot be a key or stand in a set. -/
  | unhashable (kind : String)
  /-- They could be computed, but are no literals. -/
  | computed
  /-- A mapping is put into another one. -/
  | spread
  deriving DecidableEq, Repr

namespace ArgumentFault

def message : ArgumentFault → String
  | .unclosed c => "'" ++ c.toString ++ "' was never closed"
  | .unopened c => "unmatched '" ++ c.toString ++ "'"
  | .mismatch c d =>
    "closing parenthesis '" ++ c.toString ++ "' does not match opening parenthesis '" ++
      d.toString ++ "'"
  | .unfinishedText => "unterminated string literal (detected at line 1)"
  | .unfinishedTriple => "unterminated triple-quoted string literal (detected at line 1)"
  | .numeral kind => "invalid " ++ kind ++ " literal"
  | .digit c kind => "invalid digit '" ++ c.toString ++ "' in " ++ kind ++ " literal"
  | .leadingZeros =>
    "leading zeros in decimal integer literals are not permitted; use an 0o prefix for octal integers"
  | .noCharacter c =>
    "invalid character '" ++ c.toString ++ "' (U+" ++
      String.ofList ((Text.Quoted.hexDigits (if c.toNat < 0x10000 then 4 else 5) c.toNat).map Char.toUpper) ++ ")"
  | .brokenLine => "unexpected character after line continuation character"
  | .missingComma => "invalid syntax. Perhaps you forgot a comma?"
  | .missingElse => "expected 'else' after 'if' expression"
  | .missingValue => "expression expected after dictionary key and ':'"
  | .missingColon => "':' expected after dictionary key"
  | .missingParentheses word =>
    "Missing parentheses in call to '" ++ word ++ "'. Did you mean " ++ word ++ "(...)?"
  | .assignment => "invalid syntax. Maybe you meant '==' or ':=' instead of '='?"
  | .assignmentTo what => "cannot assign to " ++ what ++ " here. Maybe you meant '==' instead of '='?"
  | .namingOf what => "cannot use assignment expressions with " ++ what
  | .star => "cannot use starred expression here"
  | .starAlone => "Invalid star expression"
  | .doubleStar => "cannot use double starred expression here"
  | .malformed => "invalid syntax"
  | .unhashable kind => "unhashable type: '" ++ kind ++ "'"
  | .computed => "malformed node or string"
  | .spread => "malformed node or string: None"

/-- Is the text well-formed, so that only what it stands for is at fault? -/
def isOfMeaning : ArgumentFault → Bool
  | .computed | .spread | .unhashable _ => true
  | _ => false

end ArgumentFault

inductive ArgumentToken where
  | number (isImaginary : Bool)
  /-- A text; one with values filled in is no literal. -/
  | text (isFilled : Bool)
  | word (s : String)
  | opening (c : Char)
  | closing (c : Char)
  | sign (s : String)
  /-- A backslash with something behind it, where nothing more is read. -/
  | broken
  deriving DecidableEq, Repr

namespace ArgumentToken

/-- The characters behind a number and the number's kind, or what is wrong with it. -/
abbrev Numeral := Except ArgumentFault (Bool × List Char)

def isWordChar (c : Char) : Bool := c.isAlphanum || c = '_' || 0x80 ≤ c.toNat

def wordsBehind : List String := ["and", "else", "for", "if", "in", "is", "or", "not"]

def endNumber (kind : String) (isImaginary : Bool) (s : List Char) : Numeral :=
  match s with
  | [] => .ok (isImaginary, s)
  | c :: _ =>
    if wordsBehind.any (fun w => w.toList.isPrefixOf s) || 0x80 ≤ c.toNat || !isWordChar c then
      .ok (isImaginary, s)
    else .error (.numeral kind)

def behindDigits (isDigit : Char → Bool) : List Char → Except ArgumentFault (List Char)
  | '_' :: c :: r => if isDigit c then behindDigits isDigit r else .error (.numeral "decimal")
  | c :: r =>
    if isDigit c then behindDigits isDigit r
    else if c = '_' then .error (.numeral "decimal")
    else .ok (c :: r)
  | [] => .ok []

def exponent (s : List Char) : Numeral :=
  let imaginary (s : List Char) : Numeral :=
    match s with
    | c :: r => if c = 'j' || c = 'J' then endNumber "imaginary" true r else endNumber "decimal" false s
    | [] => .ok (false, [])
  match s with
  | e :: r =>
    if e = 'e' || e = 'E' then
      match r with
      | c :: r' =>
        if c = '+' || c = '-' then
          if r'.head?.any Char.isDigit then do imaginary (← behindDigits Char.isDigit r')
          else .error (.numeral "decimal")
        else if c.isDigit then do imaginary (← behindDigits Char.isDigit r)
        else endNumber "decimal" false s
      | [] => .error (.numeral "decimal")
    else imaginary s
  | [] => .ok (false, [])

def fraction (s : List Char) : Numeral :=
  if s.head?.any Char.isDigit then do exponent (← behindDigits Char.isDigit s) else exponent s

def behindWhole (s : List Char) : Numeral :=
  match s with
  | '.' :: r => fraction r
  | s => exponent s

/-- The digits of a base behind its letter. Each run of them may have an underscore in front. -/
def inBase (kind : String) (isDigit : Char → Bool) : List Char → Numeral
  | '_' :: c :: r =>
    if isDigit c then inBase kind isDigit r
    else if c.isDigit then .error (.digit c kind)
    else .error (.numeral kind)
  | c :: r =>
    if isDigit c then inBase kind isDigit r
    else if c = '_' then .error (.numeral kind)
    else if c.isDigit then .error (.digit c kind)
    else endNumber kind false (c :: r)
  | [] => .ok (false, [])

def startBase (kind : String) (isDigit : Char → Bool) (s : List Char) : Numeral :=
  match if s.head? = some '_' then s.drop 1 else s with
  | c :: r =>
    if isDigit c then inBase kind isDigit r
    else if c.isDigit then .error (.digit c kind)
    else .error (.numeral kind)
  | [] => .error (.numeral kind)

def bases : List (Char × String × (Char → Bool)) :=
  [('x', "hexadecimal", fun c => (Text.hexDigit? c).isSome),
   ('o', "octal", fun c => '0' ≤ c && c ≤ '7'),
   ('b', "binary", fun c => c = '0' || c = '1')]

/-- A number behind a zero in front. Further digits need a point, an exponent or an imaginary unit
behind them. -/
def behindZero (s : List Char) : Numeral := do
  match (s.head?.map Char.toLower).bind fun c => bases.lookup c with
  | some (kind, isDigit) => startBase kind isDigit (s.drop 1)
  | none =>
    let behind ← behindDigits Char.isDigit s
    let digits := s.take (s.length - behind.length)
    let goesOn := behind.head?.any fun c => c = '.' || "eEjJ".toList.contains c
    if digits.any (fun c => c ≠ '0' && c ≠ '_') && !goesOn then throw .leadingZeros
    behindWhole behind

def numeral (c : Char) (r : List Char) : Numeral :=
  if c = '.' then fraction r
  else if c = '0' then behindZero r
  else do behindWhole (← behindDigits Char.isDigit r)

def isQuote (c : Char) : Bool := c = '\'' || c = '"'

/-- The characters behind the closing quotes of a text. The first argument is how many there must be,
the third how many stand in front. A character behind a backslash closes nothing, and a line ends a
text in single quotes. -/
def behindQuotes (size : Nat) (quote : Char) : Nat → Bool → List Char → Option (List Char)
  | _, _, [] => none
  | count, isEscaped, c :: r =>
    if isEscaped then behindQuotes size quote 0 false r
    else if c = '\n' && size = 1 then none
    else if c = quote then
      if count + 1 = size then some r else behindQuotes size quote (count + 1) false r
    else behindQuotes size quote 0 (c = '\\') r

def behindText (quote : Char) (s : List Char) : Except ArgumentFault (List Char) :=
  match s with
  | c :: d :: r =>
    if c = quote && d = quote then
      match behindQuotes 3 quote 0 false r with
      | some rest => .ok rest
      | none => .error .unfinishedTriple
    else if c = quote then .ok (d :: r)
    else match behindQuotes 1 quote 0 false s with
      | some rest => .ok rest
      | none => .error .unfinishedText
  | _ =>
    match behindQuotes 1 quote 0 false s with
    | some rest => .ok rest
    | none => .error .unfinishedText

/-- The letters in front of a text that say how it is written; with one of them values are filled
in. -/
def textMarks : List (String × Bool) :=
  [("", false), ("b", false), ("r", false), ("u", false), ("br", false), ("rb", false), ("f", true),
   ("fr", true), ("rf", true)]

def longSigns : List String :=
  ["...", "**=", "//=", ">>=", "<<=", "!=", "==", "<=", ">=", "<>", "<<", ">>", "**", "//", "->", ":=", "+=",
   "-=", "*=", "/=", "%=", "&=", "|=", "^=", "@="]

def isSymbol (c : Char) : Bool :=
  let n := c.toNat
  (0xA0 < n && n < 0xC0 && n ≠ 0xAA && n ≠ 0xAD && n ≠ 0xB5 && n ≠ 0xB7 && n ≠ 0xBA) || n = 0xD7 ||
    n = 0xF7 || (0x2010 ≤ n && n ≤ 0x2027) || (0x2030 ≤ n && n ≤ 0x205E && n ≠ 0x203F && n ≠ 0x2040 && n ≠ 0x2054) ||
    (0x20A0 ≤ n && n ≤ 0x20C0) || n = 0x2122 || (0x2190 ≤ n && n ≤ 0x2BFF) ||
    (0x3001 ≤ n && n ≤ 0x3003) || (0x3008 ≤ n && n ≤ 0x3020) || (0x1F000 ≤ n && n ≤ 0x1FAFF)

def brackets : List (Char × Char) := [('(', ')'), ('[', ']'), ('\x7b', '\x7d')]

def closingFault? (opened : List Char) (c : Char) : Option ArgumentFault :=
  match opened with
  | [] => some (.unopened c)
  | d :: _ => if brackets.lookup d = some c then none else some (.mismatch c d)

def next (opened : List Char) (c : Char) (r : List Char) :
    Except ArgumentFault (ArgumentToken × List Char) := do
  let s := c :: r
  if c.isDigit || (c = '.' && r.head?.any Char.isDigit) then
    let (isImaginary, rest) ← numeral c r
    return (.number isImaginary, rest)
  let word := s.takeWhile isWordChar
  let behind := s.dropWhile isWordChar
  match behind, textMarks.lookup (String.ofList (word.map Char.toLower)) with
  | quote :: rest, some isFilled =>
    if isQuote quote then return (.text isFilled, ← behindText quote rest)
  | _, _ => pure ()
  if !word.isEmpty then
    match word.find? isSymbol with
    | some c => throw (.noCharacter c)
    | none => return (.word (String.ofList word), behind)
  if c = '\\' then return (.broken, [])
  if (brackets.lookup c).isSome then return (.opening c, r)
  if brackets.any (·.2 = c) then
    match closingFault? opened c with
    | some fault => throw fault
    | none => return (.closing c, r)
  match longSigns.find? fun known => known.toList.isPrefixOf s with
  | some known => return (.sign known, s.drop known.length)
  | none => return (.sign c.toString, r)

def openedBehind (opened : List Char) : ArgumentToken → List Char
  | .opening c => c :: opened
  | .closing _ => opened.drop 1
  | _ => opened

/-- The parts of a text, given the brackets that are open. A comment is none. The first argument
bounds the number of steps. -/
def all : Nat → List Char → List Char → Except ArgumentFault (List ArgumentToken)
  | 0, _, _ => .ok []
  | _, _, [] => .ok []
  | n + 1, opened, c :: r =>
    if Text.isBlank c then all n opened r
    else if c = '#' then all n opened (r.dropWhile (· ≠ '\n'))
    else do
      let (token, rest) ← next opened c r
      return token :: (← all n (openedBehind opened token) rest)

/-- The parts of a text. Texts that do not end, brackets that do not belong together and what only
looks like a number are faults. -/
def ofChars (s : List Char) : Except ArgumentFault (List ArgumentToken) := all (s.length + 1) [] s

end ArgumentToken

end ApiTypes.Markup
