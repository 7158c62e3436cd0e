import ApiTypes.Text.Half
import ApiTypes.Text.Printable

/-!
# Quoted texts

A text inside a list or a mapping is written between quotes. The quotes are
single unless the text holds a single quote and no double one. Backslashes, the
quote in use and hidden characters are escaped, the latter by the shortest of
the three hexadecimal forms.
-/

set_option autoImplicit false

namespace ApiTypes.Text.Quoted

def hexChar (d : Nat) : Char := if d < 10 then Char.ofNat (48 + d) else Char.ofNat (87 + d)

def hexDigits : Nat → Nat → List Char
  | 0, _ => []
  | width + 1, n => hexDigits width (n / 16) ++ [hexChar (n % 16)]

def quoteFor (s : List Char) : Char :=
  if s.contains '\'' && !s.contains '"' then '"' else '\''

def escape (quote : Char) (c : Char) : List Char :=
  if c = '\\' || c = quote then ['\\', c]
  else if c = '\n' then ['\\', 'n']
  else if c = '\r' then ['\\', 'r']
  else if c = '\t' then ['\\', 't']
  else if isPrintable c then [c]
  else if let some n := half? c then '\\' :: 'u' :: hexDigits 4 n
  else if c.toNat < 0x100 then '\\' :: 'x' :: hexDigits 2 c.toNat
  else if c.toNat < 0x10000 then '\\' :: 'u' :: hexDigits 4 c.toNat
  else '\\' :: 'U' :: hexDigits 8 c.toNat

def encode (s : List Char) : List Char :=
  let quote := quoteFor s
  quote :: (s.flatMap (escape quote) ++ [quote])

end ApiTypes.Text.Quoted

namespace ApiTypes.Text

def quoted (s : String) : String := String.ofList (Quoted.encode s.toList)

end ApiTypes.Text
