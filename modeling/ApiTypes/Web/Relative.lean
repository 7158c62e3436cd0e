import ApiTypes.Text.Pieces

/-!
# References between addresses

A reference gives an address in full or only how it differs from the one of the
page that it stands on. The last step of a path may have parameters behind a
semicolon. Empty parts count as absent.
-/

set_option autoImplicit false

namespace ApiTypes

structure Locator where
  scheme : List Char
  authority : List Char
  path : List Char
  parameters : List Char
  query : List Char
  fragment : List Char

namespace Locator

def relativeSchemes : List String :=
  ["", "file", "ftp", "gopher", "http", "https", "imap", "mms", "nntp", "prospero", "rtsp",
    "rtsps", "rtspu", "sftp", "shttp", "svn", "svn+ssh", "wais", "ws", "wss"]

def parameterSchemes : List String :=
  ["", "ftp", "hdl", "http", "https", "imap", "mms", "prospero", "rtsp", "rtsps", "rtspu",
    "sftp", "shttp", "sip", "sips", "tel"]

def isSchemeChar (c : Char) : Bool := c.isAlphanum || c = '+' || c = '.' || c = '-'

def cutScheme (s : List Char) : Option (List Char) × List Char :=
  let scheme := s.takeWhile isSchemeChar
  match s.dropWhile isSchemeChar, scheme with
  | ':' :: r, c :: _ => if c.isAlpha then (some scheme, r) else (none, s)
  | _, _ => (none, s)

def isPathEnd (c : Char) : Bool := c = '?' || c = '#'

def isAuthorityEnd (c : Char) : Bool := c = '/' || isPathEnd c

def cutAuthority : List Char → List Char × List Char
  | '/' :: '/' :: r => (r.takeWhile fun c => !isAuthorityEnd c, r.dropWhile fun c => !isAuthorityEnd c)
  | s => ([], s)

def cutParameters (path : List Char) : List Char × List Char :=
  let step := (path.reverse.takeWhile (· ≠ '/')).reverse
  let (name, parameters) := Text.cut ';' step
  (path.take (path.length - step.length) ++ name, parameters.getD [])

/-- The parts of a text, with the given scheme unless it begins with one. -/
def ofText (scheme s : List Char) : Locator :=
  let (written, r) := cutScheme s
  let scheme := match written with
    | some name => name.map Char.toLower
    | none => scheme
  let (authority, r) := cutAuthority r
  let (r, fragment) := Text.cut '#' r
  let (path, query) := Text.cut '?' r
  let (path, parameters) :=
    if parameterSchemes.contains (String.ofList scheme) then cutParameters path else (path, [])
  ⟨scheme, authority, path, parameters, query.getD [], fragment.getD []⟩

/-- A part with a sign in front of it, unless it is empty. -/
def behind (sign : String) (part : List Char) : List Char :=
  if part.isEmpty then [] else sign.toList ++ part

def text (l : Locator) : List Char :=
  let path := l.path ++ behind ";" l.parameters
  let isUnrooted := !path.isEmpty && path.head? ≠ some '/'
  (if l.scheme.isEmpty then [] else l.scheme ++ [':']) ++
    behind "//" l.authority ++ (if !l.authority.isEmpty && isUnrooted then '/' :: path else path) ++
    behind "?" l.query ++ behind "#" l.fragment

def withoutSteps (steps : List (List Char)) : List (List Char) :=
  let kept := steps.foldl (fun kept step =>
    if step = ['.', '.'] then kept.dropLast else if step = ['.'] then kept else kept ++ [step]) []
  match steps.getLast? with
  | some last => if last = ['.'] || last = ['.', '.'] then kept ++ [[]] else kept
  | none => kept

def pathFrom (base path : List Char) : List Char :=
  let steps :=
    if path.head? = some '/' then Text.split '/' path
    else
      let parts := Text.split '/' base
      let above := if parts.getLast? = some [] then parts else parts.dropLast
      let all := above ++ Text.split '/' path
      all.take 1 ++ ((all.drop 1).dropLast.filter fun p => !p.isEmpty) ++
        (all.drop 1).drop (all.length - 2)
  let joined := (Text.join "/" ((withoutSteps steps).map String.ofList)).toList
  if joined.isEmpty then ['/'] else joined

def resolve (base reference : List Char) : List Char :=
  let b := ofText [] base
  let r := ofText b.scheme reference
  if reference.isEmpty then base
  else if r.scheme ≠ b.scheme || !relativeSchemes.contains (String.ofList r.scheme) then reference
  else if !r.authority.isEmpty then r.text
  else if r.path.isEmpty && r.parameters.isEmpty then
    text { b with query := if r.query.isEmpty then b.query else r.query, fragment := r.fragment }
  else text { r with authority := b.authority, path := pathFrom b.path r.path }

end Locator

end ApiTypes
