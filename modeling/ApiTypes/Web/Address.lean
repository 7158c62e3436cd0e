import ApiTypes.Number.Numeral
import ApiTypes.Text.Half
import ApiTypes.Text.Lenient
import ApiTypes.Text.PercentCode
import ApiTypes.Text.SmallForm
import ApiTypes.Web.HostName
import ApiTypes.Web.NumericHost
import ApiTypes.Web.Relative

/-!
# Web addresses

An address is taken apart into scheme, user, host, port, path, query and
fragment, and written back in one normal form: scheme and host in small letters
and in ASCII, no port where it is the usual one of the scheme, no steps `.` and
`..` in the path, and characters that may not stand in an address as percent
codes.
-/

set_option autoImplicit false

namespace ApiTypes

inductive AddressFault where
  | malformed
  /-- Half of a surrogate pair has no percent codes. -/
  | halved
  deriving DecidableEq, Repr

structure Address where
  scheme : String
  user : String
  host : String
  port : Option Int
  path : String
  query : Option String
  fragment : Option String
  deriving DecidableEq, Repr

namespace Address

def longest : Nat := 65536

def isControl (c : Char) : Bool := c.toNat < 0x20 || c.toNat = 0x7F

/-- The parts of an address as they are written. -/
structure Parts where
  scheme : List Char
  user : List Char
  host : List Char
  port : List Char
  path : List Char
  query : Option (List Char)
  fragment : Option (List Char)

def cutUser (s : List Char) : List Char × List Char :=
  let host := (s.reverse.takeWhile (· ≠ '@')).reverse
  (s.take (s.length - host.length - 1), host)

def cutHost (s : List Char) : List Char × List Char :=
  if s.head? = some '[' && s.contains ']' then
    let port := (s.reverse.takeWhile (· ≠ ']')).reverse
    (s.take (s.length - port.length), port)
  else (s.takeWhile fun c => c ≠ ':' && c ≠ '@', s.dropWhile fun c => c ≠ ':' && c ≠ '@')

def cutQuery (s : List Char) : Option (List Char) × Option (List Char) :=
  match s with
  | '?' :: r =>
    let (query, fragment) := Text.cut '#' r
    (some query, fragment)
  | '#' :: r => (none, some r)
  | _ => (none, none)

def behindColon (s : List Char) : List Char := if s.head? = some ':' then s.drop 1 else s

def Parts.ofText (s : List Char) : Parts :=
  let (scheme, r) := match Locator.cutScheme s with
    | (some scheme, r) => (scheme, r)
    | (none, r) => ([], behindColon r)
  let (authority, r) := Locator.cutAuthority r
  let (user, r') := cutUser authority
  let (host, port) := cutHost r'
  let (query, fragment) := cutQuery (r.dropWhile fun c => !Locator.isPathEnd c)
  ⟨scheme, user, host, behindColon port, r.takeWhile fun c => !Locator.isPathEnd c, query, fragment⟩

def isUnreserved (c : Char) : Bool :=
  c.isAlphanum || c = '-' || c = '.' || c = '_' || c = '~'

def visibleBut (excluded : String) (c : Char) : Bool :=
  isUnreserved c || (0x20 < c.toNat && c.toNat < 0x7F && !excluded.toList.contains c)

def inUser : Char → Bool := visibleBut "\"#<>?\x60\x7b\x7d/;=@[\\]^|"
def inHost : Char → Bool := visibleBut " #/:<>?@[]^"
def inPath : Char → Bool := visibleBut "\"#<>?\x60\x7b\x7d"
def inQuery : Char → Bool := visibleBut "\"#<>"
def inFragment : Char → Bool := visibleBut "\"<>\x60"

def escape (allowed : Char → Bool) (s : List Char) : Except AddressFault String :=
  if s.any fun c => (Text.half? c).isSome then .error .halved
  else .ok (String.ofList (s.flatMap fun c =>
    if allowed c then [c] else c.toString.toUTF8.toList.flatMap Text.percentCode))

def unescape (s : String) : List Char := Text.decodeLenient (Text.percentBytes s.toList)

/-- The host in its normal form: a number as it stands, a name in ASCII and in small letters. -/
def hostOf (host : List Char) : Except AddressFault String :=
  if NumericHost.looksLikeOctets host then
    if NumericHost.isOctets host then .ok (String.ofList host) else .error .malformed
  else if host.head? = some '[' && host.getLast? = some ']' then
    if NumericHost.isGrouped (host.drop 1).dropLast then .ok (String.ofList host)
    else .error .malformed
  else if host.all fun c => c.toNat < 0x80 then escape inHost (host.map Char.toLower)
  else match HostName.spell (Text.smallForm host) with
    | .ok name => .ok (String.ofList name)
    | .error _ => .error .malformed

def usualPorts : List (String × Int) :=
  [("ftp", 21), ("http", 80), ("https", 443), ("ws", 80), ("wss", 443)]

/-- The port of an address where it differs from the usual one of its scheme as it is written. -/
def portOf (scheme digits : List Char) : Except AddressFault (Option Int) :=
  if digits.isEmpty then .ok none
  else match Numeral.read (String.ofList digits) with
    | .value n => .ok (if usualPorts.lookup (String.ofList scheme) = some n then none else some n)
    | _ => .error .malformed

def withoutSteps (path : List Char) : List Char :=
  let parts := Text.split '/' path
  let kept := parts.foldl (fun kept part =>
    if part = ['.'] then kept
    else if part = ['.', '.'] then (if kept = [[]] then kept else kept.dropLast)
    else kept ++ [part]) []
  (Text.join "/" (kept.map String.ofList)).toList

def Parts.texts (p : Parts) : List (List Char) :=
  [p.scheme, p.user, p.host, p.port, p.path] ++ p.query.toList ++ p.fragment.toList

/-- The address of parts. The path of an address with a host begins with a slash or is empty; one
without scheme and host begins with neither a colon nor two slashes. -/
def ofParts (p : Parts) : Except AddressFault Address := do
  if p.texts.any fun s => longest < s.length || s.any isControl then throw .malformed
  let user ← escape inUser p.user
  let host ← hostOf p.host
  let port ← portOf p.scheme p.port
  let hasHost := user ≠ "" || host ≠ "" || port.isSome
  let isRooted := !p.scheme.isEmpty || hasHost
  if hasHost && !p.path.isEmpty && p.path.head? ≠ some '/' then throw .malformed
  if !isRooted && ("//".toList.isPrefixOf p.path || p.path.head? = some ':') then throw .malformed
  return {
    scheme := Text.lower (String.ofList p.scheme)
    user := user
    host := host
    port := port
    path := ← escape inPath (if isRooted then withoutSteps p.path else p.path)
    query := ← p.query.mapM (escape inQuery)
    fragment := ← p.fragment.mapM (escape inFragment) }

def ofText (text : String) : Except AddressFault Address :=
  if longest < text.length then .error .malformed else ofParts (Parts.ofText text.toList)

def parts (a : Address) : Parts :=
  { scheme := a.scheme.toList
    user := a.user.toList
    host := a.host.toList
    port := match a.port with | some n => (toString n).toList | none => []
    path := a.path.toList
    query := a.query.map (·.toList)
    fragment := a.fragment.map (·.toList) }

def isPassedOver (c : Char) : Bool := c.toNat ≤ 0x20

def endsHostInside (c : Char) : Bool :=
  ["\u2047", "\u2048", "\u2049", "\u2100", "\u2101", "\u2105", "\u2106", "\u2a74", "\ufe13", "\ufe16",
    "\ufe55", "\ufe56", "\ufe5f", "\ufe6b", "\uff03", "\uff0f", "\uff1a", "\uff1f",
    "\uff20"].contains c.toString

def isBracketable (host : List Char) : Bool :=
  if host.head? = some 'v' then NumericHost.isOfLaterVersion host else NumericHost.isGrouped host

def hasSoundBrackets (authority : List Char) : Bool :=
  if authority.contains '[' && authority.contains ']' then
    let place := (cutUser authority).2
    match Text.cut '[' place with
    | (before, some r) =>
      let (host, port) := Text.cut ']' r
      before.isEmpty && [none, some ':'].contains (port.getD []).head? && isBracketable host
    | (_, none) => isBracketable (Text.cut ':' place).1
  else !authority.contains '[' && !authority.contains ']'

def isMeant (text : String) : Bool :=
  let s := (text.toList.dropWhile isPassedOver).filter fun c => c ≠ '\t' && c ≠ '\r' && c ≠ '\n'
  let (scheme, r) := Locator.cutScheme s
  let scheme := (scheme.getD []).map Char.toLower
  let authority := (Locator.cutAuthority r).1
  ["http", "https"].contains (String.ofList scheme) && hasSoundBrackets authority &&
    !authority.any endsHostInside

def authority (a : Address) : String :=
  (if a.user = "" then "" else a.user ++ "@") ++ a.host ++
    (match a.port with | some n => ":" ++ toString n | none => "")

def text (a : Address) : String :=
  (if a.scheme = "" then "" else a.scheme ++ ":") ++
    (if a.authority = "" then "" else "//" ++ a.authority) ++ a.path ++
    (match a.query with | some q => "?" ++ q | none => "") ++
    (match a.fragment with | some f => "#" ++ f | none => "")

def isComplete (a : Address) : Bool := a.scheme ≠ "" && a.host ≠ ""

def hasKind (a : Address) : Bool :=
  let s := a.text.toList
  let kind := s.takeWhile fun c => c ≠ '/' && c ≠ ':'
  !kind.isEmpty && (s.drop kind.length).head? = some ':'

def completed (a : Address) : Except AddressFault Address :=
  if a.isComplete then .ok a
  else ofParts {
    scheme := [], user := [], host := [], port := []
    path := '/' :: a.path.toList.dropWhile (· = '/')
    query := a.query.map (·.toList)
    fragment := none }

/-- The host as it is shown, with a name in its own script; it is at fault where its spelling
stands for no name. -/
def shownHost (a : Address) : Except HostName.LabelFault (List Char) :=
  let host := a.host.toList
  if HostName.spellingMark.isPrefixOf host then HostName.read host else .ok host

end Address

end ApiTypes
