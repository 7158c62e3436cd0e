import ApiTypes.Fault
import ApiTypes.Number.Numeral
import ApiTypes.Value.Text

/-!
# Response keys

A response is declared under its status. Digits are a number and lose their
leading zeros, `default` stands bare, and any other status is quoted.
-/

set_option autoImplicit false

namespace ApiTypes

inductive StatusKey where
  | code (n : Nat)
  | default
  | other (text : String)
  deriving DecidableEq, Repr

namespace StatusKey

def ofChars (s : List Char) : Except Fault StatusKey :=
  if !s.isEmpty && s.all Char.isDigit then
    if Numeral.maxDigits < s.length then .error (.numeralTooLong s.length)
    else .ok (.code (Text.digitsValue 10 (s.filterMap Text.asciiDigit?)))
  else if s = "default".toList then .ok .default
  else .ok (.other (String.ofList s))

def ofText (status : String) : Except Fault StatusKey := ofChars status.toList

def text : StatusKey → String
  | .code n => toString n
  | .default => "default"
  | .other s => "\"" ++ s ++ "\""

def isBodiless : StatusKey → Bool
  | .code n => n = 204 || n / 100 = 3
  | _ => false

end StatusKey

end ApiTypes
