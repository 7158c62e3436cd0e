import ApiTypes.Encoding.Deflate
import ApiTypes.Web.MediaType
import ApiTypes.Web.Redirection

/-!
# The network

What the network answers to a request for an address, and how redirections are
followed. A page is an answer with a status of success. The bytes of a reply may
be compressed, and its kind says in which encoding they spell its text.
-/

set_option autoImplicit false

namespace ApiTypes

structure Reply where
  status : Nat
  headers : List (String × String)
  body : String
  deriving DecidableEq, Repr

abbrev Network := String → Option Reply

inductive NetworkFault where
  | badAddress (fault : AddressFault)
  | unreachable
  /-- The address has no scheme. -/
  | noKind
  | badStatus
  | badRedirection (fault : RedirectionFault)
  | tooManyRedirections
  /-- The heads of a reply are not in ASCII, or its text has no bytes. -/
  | unwritable
  /-- The bytes of a reply are not compressed in the way that it says. -/
  | garbled
  | encoding (fault : EncodingFault)
  /-- The kind of a page has a parameter with parts in no order. -/
  | mixedKind
  deriving DecidableEq, Repr

namespace Reply

def isSuccess (r : Reply) : Bool := 200 ≤ r.status && r.status < 300

def header (name : String) (r : Reply) : Option String :=
  match (r.headers.filter fun h => Text.lower h.1 = name).map (·.2) with
  | [] => none
  | values => some (Text.join ", " values)

def redirection (r : Reply) : Option String :=
  if [301, 302, 303, 307, 308].contains r.status then r.header "location" else none

def isAscii (s : String) : Bool := s.toList.all fun c => c.toNat < 0x80

def isWritable (r : Reply) : Bool :=
  r.headers.all (fun h => isAscii h.1 && isAscii h.2) &&
    r.body.toList.all fun c => (Text.half? c).isNone

/-- Undoes one compression. The first two bytes of a body in the `gzip` form are those of no text;
forms that are not known count as none. -/
def expand? (form : String) (bytes : List UInt8) : Option (List UInt8) :=
  if form = "gzip" then (if bytes.length < 2 then some [] else none)
  else if form = "deflate" then Deflate.inflate? bytes
  else some bytes

def forms (r : Reply) : List String :=
  ((Text.split ',' ((r.header "content-encoding").getD "").toList).map fun form =>
    Text.lower (String.ofList (Text.strip form))).reverse

def content? (r : Reply) : Option (List UInt8) :=
  r.forms.foldlM (fun bytes form => expand? form bytes) r.body.toUTF8.toList

def text (r : Reply) : Except NetworkFault String :=
  match r.content? with
  | none => .error .garbled
  | some bytes =>
    if bytes.isEmpty then .ok ""
    else match MediaType.encoding ((r.header "content-type").getD "") with
      | .error _ => .error .mixedKind
      | .ok encoding =>
        match encoding.decode bytes with
        | .ok s => .ok (String.ofList s)
        | .error fault => .error (.encoding fault)

end Reply

namespace Network

def none : Network := fun _ => Option.none

def maxRedirections : Nat := 20

def ask (network : Network) (address : Address) : Except NetworkFault Reply :=
  match network address.text with
  | Option.none => .error .unreachable
  | some reply =>
    if !reply.isWritable then .error .unwritable
    else if reply.content?.isNone then .error .garbled
    else if !address.hasKind then .error .noKind
    else .ok reply

def request (network : Network) (follows : Bool) : Nat → Address → Except NetworkFault Reply
  | left, address => do
    let reply ← ask network address
    match reply.redirection with
    | some location =>
      let target ← (address.follow location).mapError .badRedirection
      if !follows then throw .badStatus
      match left with
      | 0 => throw .tooManyRedirections
      | left + 1 => request network follows left target
    | Option.none => if reply.isSuccess then return reply else throw .badStatus

def page (network : Network) (follows : Bool) (url : String) : Except NetworkFault Reply := do
  let address ← (Address.ofText url >>= Address.completed).mapError .badAddress
  request network follows maxRedirections address

end Network

end ApiTypes
