import ApiTypes.Encoding.Chinese
import ApiTypes.Encoding.Japanese
import ApiTypes.Encoding.Korean
import ApiTypes.Encoding.Table

/-!
# Encodings that change their set

In these encodings all bytes are those of ASCII, and marks in the text say of
which set the bytes behind them are: escape sequences, or a tilde with a brace.
-/

set_option autoImplicit false

namespace ApiTypes.Encoding

/-- The text of bytes where a tilde with a brace begins and ends the Chinese set. The first argument
says whether it has begun. -/
def decodeTildes : Bool → List UInt8 → List Char
  | _, [] => []
  | inSet, [b] =>
    [if b.toNat = '~'.toNat || inSet || 0x80 ≤ b.toNat then Text.replacement else Char.ofNat b.toNat]
  | inSet, b :: c :: r =>
    if b.toNat = '~'.toNat then
      let mark := Char.ofNat c.toNat
      if !inSet && mark = '~' then '~' :: decodeTildes inSet r
      else if !inSet && mark = '\x7b' then decodeTildes true r
      else if !inSet && mark = '\n' then decodeTildes false r
      else if inSet && mark = '\x7d' then decodeTildes false r
      else Text.replacement :: decodeTildes inSet (c :: r)
    else if 0x80 ≤ b.toNat then Text.replacement :: decodeTildes inSet (c :: r)
    else if !inSet then Char.ofNat b.toNat :: decodeTildes inSet (c :: r)
    else match gb2312.at? (b.toNat - 0x20) (c.toNat - 0x20) with
      | some d => d :: decodeTildes inSet r
      | none => Text.replacement :: decodeTildes inSet (c :: r)

inductive Designated where
  | ascii | roman | kana | jis | supplementary
  | firstPlane (edition : Edition)
  | secondPlane
  | korean | chinese | latin | greek
  deriving DecidableEq, Repr

namespace Designated

def width : Designated → Nat
  | .ascii | .roman | .kana | .latin | .greek => 1
  | _ => 2

def at? (s : Designated) (a b : Nat) : Option (List Char) :=
  let row := a - 0x20
  let cell := b - 0x20
  match s with
  | .ascii | .latin | .greek => some [Char.ofNat a]
  | .roman => some [romanChar a]
  | .kana => (narrowKana? (a + 0x80)).map ([·])
  | .jis => (jis0208.at? row cell).map ([·])
  | .supplementary => (jis0212.at? row cell).map ([·])
  | .firstPlane edition => firstPlane? edition row cell
  | .secondPlane => (jis0213Second.at? row cell).map ([·])
  | .korean => (ks1001.at? row cell).map ([·])
  | .chinese => (gb2312.at? row cell).map ([·])

end Designated

structure EscapeRules where
  /-- the last letters of sequences for the sets that they designate, with a dollar sign in front of
  those of two bytes -/
  sets : List (String × Designated)
  /-- may two control characters change between the first and the second designated set? -/
  shifts : Bool
  /-- may one character be taken from the third designated set? -/
  hasThird : Bool
  /-- may a prefix stand in front of a sequence? -/
  hasPrefix : Bool
  deriving DecidableEq, Repr

structure EscapeState where
  first : Designated
  second : Designated
  third : Designated
  isShifted : Bool
  /-- is a sequence under way that designates nothing? -/
  inOther : Bool
  deriving DecidableEq, Repr

def EscapeState.start : EscapeState := ⟨.ascii, .ascii, .ascii, false, false⟩

namespace EscapeRules

def endsEscape (c : Char) : Bool := c.isUpper || c = '@'

/-- The number of characters of a sequence up to its end, within the given number. The two characters
of a prefix and the one behind them do not end it. -/
def escapeSize? (rules : EscapeRules) : Nat → List Char → Option Nat
  | n + 3, '&' :: '@' :: r =>
    if rules.hasPrefix then (escapeSize? rules n (r.drop 1)).map (· + 3) else some 2
  | n + 1, c :: r => if endsEscape c then some 1 else (escapeSize? rules n r).map (· + 1)
  | _, _ => none

/-- The place and the set that a sequence without its escape character designates. A prefix is two
characters and one more escape character. -/
def designation? (rules : EscapeRules) (s : List Char) : Option (Nat × Designated) :=
  let set? (name : String) : Option Designated := if name = "B" then some .ascii else rules.sets.lookup name
  let placed (place : Nat) (name : List Char) := (set? (String.ofList name)).map fun set => (place, set)
  match s with
  | ['$', '(', c] => placed 0 ['$', c]
  | ['$', ')', c] => placed 1 ['$', c]
  | ['$', c] => placed 0 ['$', c]
  | ['(', c] => placed 0 [c]
  | [')', c] => placed 1 [c]
  | ['.', c] => if rules.hasThird then placed 2 [c] else none
  | [_, _, '\x1b', '$', 'B'] => if rules.hasPrefix then placed 0 ['$', 'B'] else none
  | _ => none

def designate (place : Nat) (set : Designated) (state : EscapeState) : EscapeState :=
  match place with
  | 0 => { state with first := set }
  | 1 => { state with second := set }
  | _ => { state with third := set }

def lateGreek : List Char := "€₯ͺ".toList

def greekChar? (b : Nat) : Option Char := do
  let chars ← tables.lookup "iso8859_7"
  (chars.toList[b]?).filter fun c => c ≠ Text.replacement && !lateGreek.contains c

def third? (state : EscapeState) (b : Nat) : Option Char :=
  if 0x80 ≤ b then none
  else match state.third with
    | .latin => some (Char.ofNat (b + 0x80))
    | .greek => greekChar? b
    | _ => some (Char.ofNat b)

def escape (rules : EscapeRules) (state : EscapeState) (r : List Char) : Front × EscapeState :=
  match r with
  | [] => (.cut, state)
  | c :: r' =>
    if "($).&".toList.contains c then
      match rules.escapeSize? 15 r with
      | none => (if r.length < 15 then .cut else .wrong 1, state)
      | some size =>
        match rules.designation? (r.take size) with
        | some (place, set) => (.chars [] (size + 1), designate place set state)
        | none => (.wrong (size + 1), state)
    else if rules.hasThird && c = 'N' then
      match r' with
      | [] => (.cut, state)
      | d :: _ =>
        match third? state d.toNat with
        | some c => (.chars [c] 3, state)
        | none => (.wrong 3, state)
    else (.chars ['\x1b'] 1, { state with inOther := true })

def front (rules : EscapeRules) (state : EscapeState) (c : Char) (r : List Char) : Front × EscapeState :=
  let set := if state.isShifted then state.second else state.first
  if state.inOther then (.chars [c] 1, { state with inOther := !endsEscape c })
  else if c = '\x1b' then rules.escape state r
  else if rules.shifts && (c = '\x0f' || c = '\x0e') then
    (.chars [] 1, { state with isShifted := c = '\x0e' })
  else if c = '\n' then (.chars [c] 1, { state with isShifted := false })
  else if 0x80 ≤ c.toNat then (.wrong 1, state)
  else if c.toNat < 0x20 || set = .ascii then (.chars [c] 1, state)
  else if set.width = 1 then
    (match set.at? c.toNat 0 with
      | some s => .chars s 1
      | none => .wrong 1, state)
  else match r with
    | [] => (.cut, state)
    | d :: _ =>
      (match set.at? c.toNat d.toNat with
        | some s => .chars s 2
        | none => .wrong 2, state)

/-- The text of bytes by what stands in front of them, again and again, and the number of bytes that
are cut off. -/
def decodeFrom (rules : EscapeRules) (state : EscapeState) : List Char → List Char × Nat
  | [] => ([], 0)
  | c :: r =>
    match rules.front state c r with
    | (.chars s size, state) =>
      let (text, left) := decodeFrom rules state (r.drop (size - 1))
      (s ++ text, left)
    | (.wrong size, state) =>
      let (text, left) := decodeFrom rules state (r.drop (size - 1))
      (Text.replacement :: text, left)
    | (.cut, _) => ([Text.replacement], r.length + 1)
termination_by s => s.length
decreasing_by
  all_goals
    simp only [List.length_cons, List.length_drop]
    omega

end EscapeRules

end ApiTypes.Encoding
