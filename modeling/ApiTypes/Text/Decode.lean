/-!
# Text of files

The text that the bytes of a file spell in UTF-8. Line breaks of all three
kinds, line feed, carriage return, and the pair of both, become line feeds.
-/

set_option autoImplicit false

namespace ApiTypes.Text

def unifyBreaks : List Char → List Char
  | [] => []
  | ['\r'] => ['\n']
  | '\r' :: '\n' :: r => '\n' :: unifyBreaks r
  | '\r' :: c :: r => '\n' :: unifyBreaks (c :: r)
  | c :: r => c :: unifyBreaks r

def decode? (bytes : ByteArray) : Option String :=
  (String.fromUTF8? bytes).map fun s => String.ofList (unifyBreaks s.toList)

end ApiTypes.Text
