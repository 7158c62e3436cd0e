/-!
# Cutting and replacing

Splitting a text at a separator, cutting it at the first occurrence of a pair
of characters, and replacing every occurrence of a pair.
-/

set_option autoImplicit false

namespace ApiTypes.Text

def split (sep : Char) : List Char → List (List Char)
  | [] => [[]]
  | c :: r =>
    if c = sep then [] :: split sep r
    else match split sep r with
      | [] => [[c]]
      | piece :: rest => (c :: piece) :: rest

def replacePair (a b : Char) (new : List Char) : List Char → List Char
  | [] => []
  | [c] => [c]
  | c :: d :: r =>
    if c = a ∧ d = b then new ++ replacePair a b new r
    else c :: replacePair a b new (d :: r)

def cutPair (a b : Char) : List Char → List Char × Option (List Char)
  | [] => ([], none)
  | [c] => ([c], none)
  | c :: d :: r =>
    if c = a ∧ d = b then ([], some r)
    else let (before, behind) := cutPair a b (d :: r); (c :: before, behind)

def cut (sep : Char) : List Char → List Char × Option (List Char)
  | [] => ([], none)
  | c :: r =>
    if c = sep then ([], some r)
    else let (before, behind) := cut sep r; (c :: before, behind)

def dropEnd? (ending : List Char) (s : List Char) : Option (List Char) :=
  if ending.isSuffixOf s then some (s.take (s.length - ending.length)) else none

def dropFront? : List Char → List Char → Option (List Char)
  | [], s => some s
  | c :: beginning, d :: s => if c = d then dropFront? beginning s else none
  | _ :: _, [] => none

def occursIn (pattern : List Char) : List Char → Bool
  | [] => pattern.isEmpty
  | c :: r => pattern.isPrefixOf (c :: r) || occursIn pattern r

def replaceChar (c : Char) (new : List Char) (s : List Char) : List Char :=
  s.flatMap fun d => if d = c then new else [d]

def lower (s : String) : String := s.map Char.toLower

def join (sep : String) : List String → String
  | [] => ""
  | [s] => s
  | s :: t :: rest => s ++ sep ++ join sep (t :: rest)

end ApiTypes.Text
