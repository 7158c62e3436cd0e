import ApiTypes.Number.Numeral
import ApiTypes.Text.Pieces

/-!
# Hosts given by number

A host may be given by its number in the network: four octets in decimal digits
with points between them, or eight groups of hexadecimal digits between colons.
One gap of two colons stands for groups of zeros, four octets for the last two
groups, and a zone may follow behind a percent sign.
-/

set_option autoImplicit false

namespace ApiTypes.NumericHost

def isOctet (s : List Char) : Bool :=
  !s.isEmpty && s.length ≤ 3 && s.all Char.isDigit && (s = ['0'] || s.head? ≠ some '0') &&
    s.foldl (fun n c => 10 * n + (c.toNat - 0x30)) 0 ≤ 255

def isOctets (s : List Char) : Bool :=
  let octets := Text.split '.' s
  octets.length = 4 && octets.all isOctet

/-- The places behind a character at a place of `digits sign digits sign digits sign digits`, where a
sign may be anything: those in front of digits have even numbers, those in digits odd ones. -/
def placesBehind (c : Char) (place : Nat) : List Nat :=
  (if c.isDigit then [place + (1 - place % 2)] else []) ++
    (if place % 2 = 1 && place < 7 then [place + 1] else [])

def looksLikeOctets (s : List Char) : Bool :=
  (s.foldl (fun places c => (places.flatMap (placesBehind c)).eraseDups) [0]).contains 7

def isGroup (g : List Char) : Bool :=
  !g.isEmpty && g.length ≤ 4 && g.all fun c => (Text.hexDigit? c).isSome

def areGroups (gs : List (List Char)) : Bool := gs = [[]] || gs.all isGroup

def countGroups (gs : List (List Char)) : Nat := if gs = [[]] then 0 else gs.length

/-- The groups, with two groups for four octets at the end; no answer if they are not octets. -/
def groups? (s : List Char) : Option (List (List Char)) :=
  let groups := Text.split ':' s
  match groups.getLast? with
  | some last =>
    if last.contains '.' then
      if isOctets last then some (groups.dropLast ++ [['0'], ['0']]) else none
    else some groups
  | none => none

def areEightGroups (groups : List (List Char)) : Bool :=
  let full := (groups.drop 1).takeWhile fun g => !g.isEmpty
  let front := groups.take 1 ++ full
  match groups.drop front.length with
  | [] => groups.length = 8 && groups.all isGroup
  | [_] => false
  | _ :: back => areGroups front && areGroups back && countGroups front + countGroups back ≤ 7

def isZone : Option (List Char) → Bool
  | none => true
  | some zone => !zone.isEmpty && !zone.contains '%'

def isGrouped (s : List Char) : Bool :=
  let (number, zone) := Text.cut '%' s
  isZone zone && (match groups? number with
    | some groups => areEightGroups groups
    | none => false)

def isOfLaterVersion (s : List Char) : Bool :=
  match s with
  | 'v' :: r =>
    let behind := r.dropWhile fun c => (Text.hexDigit? c).isSome
    behind.length < r.length && behind.head? = some '.' && 1 < behind.length
  | _ => false

end ApiTypes.NumericHost
