/-!
# Texts on a terminal

A terminal takes an escape character, a bracket, numbers and a letter for a
command. A text that goes elsewhere is written without them.
-/

set_option autoImplicit false

namespace ApiTypes.Text

def behindCommand (s : List Char) : Option (List Char) :=
  match s.dropWhile fun c => c = ';' || c = '?' || c.isDigit with
  | c :: r => if c.isAlpha then some r else none
  | [] => none

theorem behindCommand_length {s r : List Char} (h : behindCommand s = some r) :
    r.length < s.length := by
  have := List.IsSuffix.length_le
    (List.dropWhile_suffix (l := s) fun c => c = ';' || c = '?' || c.isDigit)
  simp only [behindCommand] at h
  split at h
  · next heq =>
    split at h
    · simp only [Option.some.injEq] at h
      simp only [heq, List.length_cons, h] at this
      omega
    · simp at h
  · simp at h

def dropCommands (s : List Char) : List Char :=
  match s with
  | '\x1b' :: '[' :: r =>
    match _h : behindCommand r with
    | some rest => dropCommands rest
    | none => '\x1b' :: dropCommands ('[' :: r)
  | c :: r => c :: dropCommands r
  | [] => []
termination_by s.length
decreasing_by
  · have := behindCommand_length _h
    simp only [List.length_cons]
    omega
  all_goals simp

def withoutCommands (s : String) : String := String.ofList (dropCommands s.toList)

def unifyPairs (s : String) : String :=
  String.ofList (go s.toList)
where
  go : List Char → List Char
    | '\r' :: '\n' :: r => '\n' :: go r
    | c :: r => c :: go r
    | [] => []

end ApiTypes.Text
