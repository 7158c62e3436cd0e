import ApiTypes.Markup.Emoji
import ApiTypes.Markup.Handler
import ApiTypes.Markup.Style
import ApiTypes.Markup.Width

/-!
# Marked-up text

Printed lines may hold tags in brackets that set a style and end it again. A
tag begins with a small letter or one of `# / @`. Without colours the tags are
left out. An ending tag needs a style to end, and one that ends the style of a
handler needs arguments that can be read.
-/

set_option autoImplicit false

namespace ApiTypes

inductive MarkupFault where
  /-- An ending tag ends nothing. -/
  | unopened (tag : List Char)
  | handler (fault : Markup.HandlerFault)
  | style (fault : Fault)
  /-- The text has no form in bytes. -/
  | halved
  deriving DecidableEq, Repr

def MarkupFault.message : MarkupFault → String
  | .unopened tag => "closing tag '[" ++ String.ofList tag ++ "]' doesn't match any open tag"
  | .handler fault => fault.message
  | .style fault => fault.message
  | .halved => "the text has halves of surrogate pairs"

namespace Markup

/-- A piece of a text: characters that stand for themselves, or a tag. -/
inductive Piece where
  | plain (s : List Char)
  | tag (s : List Char)
  deriving DecidableEq, Repr

def opensTag (c : Char) : Bool := ('a' ≤ c && c ≤ 'z') || c = '#' || c = '/' || c = '@'

def cutTag : List Char → Option (List Char × List Char)
  | c :: r =>
    let body := r.takeWhile fun d => d ≠ '[' && d ≠ ']'
    match r.dropWhile fun d => d ≠ '[' && d ≠ ']' with
    | ']' :: rest => if opensTag c then some (c :: body, rest) else none
    | _ => none
  | [] => none

def tagged (backslashes : Nat) (tag : List Char) : List Piece :=
  .plain (List.replicate (backslashes / 2) '\\') ::
    [if backslashes % 2 = 1 then .plain ('[' :: tag ++ [']']) else .tag tag]

/-- Takes a text apart, given the characters in front of it that belong to no tag, the last one
first. The first argument bounds the number of steps. -/
def pieces : Nat → List Char → List Char → List Piece
  | 0, before, s => [.plain (before.reverse ++ s)]
  | _, before, [] => [.plain before.reverse]
  | n + 1, before, c :: r =>
    let s := c :: r
    let backslashes := (s.takeWhile (· = '\\')).length
    match s.drop backslashes with
    | '[' :: behind =>
      match cutTag behind with
      | some (tag, rest) => .plain before.reverse :: tagged backslashes tag ++ pieces n [] rest
      | none => pieces n ('[' :: (s.take backslashes).reverse ++ before) behind
    | _ => pieces n (c :: before) r

/-- A style that has begun: its normal form, and what its tag sets equal to it. -/
structure Opened where
  name : String
  value : Option (List Char)

def endStyle (name : String) : List Opened → Option (Opened × List Opened)
  | [] => none
  | opened :: rest =>
    if opened.name = name then some (opened, rest)
    else (endStyle name rest).map fun (found, left) => (found, opened :: left)

def checkEnded (opened : Opened) : Except MarkupFault Unit :=
  match opened.value with
  | some value =>
    if opened.name.toList.head? = some '@' && !value.isEmpty then
      (checkHandler value).mapError .handler
    else .ok ()
  | none => .ok ()

def applyTag (tag : List Char) (styles : List Opened) : Except MarkupFault (List Opened) := do
  let (name, value) := Text.cut '=' tag
  match name with
  | '/' :: r =>
    let ended := Text.strip r
    let style ← (normalStyle ended).mapError .style
    let found :=
      if ended.isEmpty then styles.head?.map fun opened => (opened, styles.drop 1)
      else endStyle style styles
    match found with
    | some (opened, left) =>
      checkEnded opened
      return left
    | none => throw (.unopened tag)
  | name => return ⟨← (normalStyle name).mapError .style, value⟩ :: styles

def unescape (s : List Char) : List Char := Text.replacePair '\\' '[' ['['] s

def strip : List Opened → List Piece → Except MarkupFault (List Char)
  | _, [] => .ok []
  | styles, .plain s :: rest => do return withEmoji (unescape s) ++ (← strip styles rest)
  | styles, .tag tag :: rest => do strip (← applyTag tag styles) rest

def isControl (c : Char) : Bool :=
  c = '\x07' || c = '\x08' || c = '\x0b' || c = '\x0c' || c = '\r'

def tabWidth : Nat := 8

def expandTabs : Nat → List Char → List Char
  | _, [] => []
  | column, c :: r =>
    if c = '\t' then
      let blanks := tabWidth - column % tabWidth
      List.replicate blanks ' ' ++ expandTabs (column + blanks) r
    else if c = '\n' then c :: expandTabs 0 r
    else c :: expandTabs (column + width c) r

def piecesOf (s : List Char) : List Piece := pieces (s.length + 1) [] s

def render (s : String) : Except MarkupFault String := do
  let shown ← strip [] (piecesOf s.toList)
  return String.ofList (expandTabs 0 (shown.filter fun c => !isControl c))

def printed (s : String) : Except MarkupFault String := do
  let text ← render s
  if text.toList.any fun c => (Text.half? c).isSome then throw .halved
  return text

end Markup

end ApiTypes
