import ApiTypes.Text.Blank
import ApiTypes.Value.Text

/-!
# Doc comments

A description becomes a comment above a declaration. The text is stripped, and
a comment end inside it is broken up, so that the comment ends where it should.
Text of several lines gets a line of its own for each, decorated by a star.
-/

set_option autoImplicit false

namespace ApiTypes.DocComment

def body (s : List Char) : List Char := Text.replacePair '*' '/' ['*', '\\', '/'] (Text.strip s)

def lines (s : List Char) : List (List Char) :=
  Text.split '\n' (Text.replacePair '\r' '\n' ['\n'] s)

def decorate (line : List Char) : List Char := Text.stripRight (' ' :: '*' :: ' ' :: line)

def renderChars (s : List Char) : List Char :=
  let s := body s
  if s.contains '\n' then
    "/**\n".toList ++ (lines s).flatMap (fun l => decorate l ++ ['\n']) ++ " */\n".toList
  else "/** ".toList ++ s ++ " */\n".toList

def render (text : String) : String := String.ofList (renderChars text.toList)

/-- The comment of a description; one that does not hold has none. -/
def ofValue (description : Value) : Except Fault String :=
  if description.truthy then description.plain.map render else .ok ""

end ApiTypes.DocComment
