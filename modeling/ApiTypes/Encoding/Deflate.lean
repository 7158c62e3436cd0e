/-!
# Compressed bytes

Blocks of bits stand for bytes: as they are, or in words of a prefix code, which
stand for a byte or for a row of bytes that came before. The code of a block is
the usual one or is given in front of it by the lengths of its words. Data that
are cut off stand for what they spell up to there.
-/

set_option autoImplicit false

namespace ApiTypes.Deflate

/-- What is read from bits: the data end in it, they are broken, or there is something. -/
inductive Reading (α : Type) where
  | ended
  | broken
  | found (value : α) (rest : List Bool)

def Reading.bind {α β : Type} (r : Reading α) (next : α → List Bool → Reading β) : Reading β :=
  match r with
  | .ended => .ended
  | .broken => .broken
  | .found value rest => next value rest

def bitsOfByte (b : UInt8) : List Bool := (List.range 8).map fun i => b.toNat.testBit i

def bitsOf (bytes : List UInt8) : List Bool := bytes.flatMap bitsOfByte

def numberOf (bits : List Bool) : Nat := bits.foldr (fun b n => 2 * n + b.toNat) 0

def readNumber (size : Nat) (bits : List Bool) : Reading Nat :=
  if bits.length < size then .ended else .found (numberOf (bits.take size)) (bits.drop size)

/-- A prefix code: the symbols with a word of one bit, of two bits, and so on, each row in the order
of its words. -/
abbrev Code := List (List Nat)

def roomLeft (code : Code) : Int :=
  code.foldl (fun left symbols => 2 * left - symbols.length) 1

def hasRoom (code : Code) : Bool :=
  (List.range (code.length + 1)).all fun n => 0 ≤ roomLeft (code.take n)

def codeOf (lengths : List Nat) : Code :=
  let symbols := lengths.zipIdx
  (List.range (lengths.foldl max 0)).map fun n =>
    (symbols.filter fun s => s.1 = n + 1).map (·.2)

/-- A code leaves no room, unless it has no words or one of a single bit. -/
def isSound (code : Code) : Bool := hasRoom code && (roomLeft code = 0 || code.length ≤ 1)

def readWord : Code → Nat → Nat → List Bool → Reading Nat
  | [], _, _, _ => .broken
  | _ :: _, _, _, [] => .ended
  | symbols :: longer, word, least, b :: bits =>
    let word := 2 * word + b.toNat
    match symbols[word - least]? with
    | some symbol => .found symbol bits
    | none => readWord longer word (2 * (least + symbols.length)) bits

/-- Reads a symbol. A code without words shows itself at the first bit. -/
def readSymbol (code : Code) (bits : List Bool) : Reading Nat :=
  readWord (if code.isEmpty then [[]] else code) 0 0 bits

def rowLengths : List (Nat × Nat) :=
  [(3, 0), (4, 0), (5, 0), (6, 0), (7, 0), (8, 0), (9, 0), (10, 0), (11, 1), (13, 1), (15, 1),
   (17, 1), (19, 2), (23, 2), (27, 2), (31, 2), (35, 3), (43, 3), (51, 3), (59, 3), (67, 4),
   (83, 4), (99, 4), (115, 4), (131, 5), (163, 5), (195, 5), (227, 5), (258, 0)]

def rowDistances : List (Nat × Nat) :=
  [(1, 0), (2, 0), (3, 0), (4, 0), (5, 1), (7, 1), (9, 2), (13, 2), (17, 3), (25, 3), (33, 4),
   (49, 4), (65, 5), (97, 5), (129, 6), (193, 6), (257, 7), (385, 7), (513, 8), (769, 8),
   (1025, 9), (1537, 9), (2049, 10), (3073, 10), (4097, 11), (6145, 11), (8193, 12),
   (12289, 12), (16385, 13), (24577, 13)]

def readEntry (entries : List (Nat × Nat)) (symbol : Nat) (bits : List Bool) : Reading Nat :=
  match entries[symbol]? with
  | none => .broken
  | some (least, more) => (readNumber more bits).bind fun n rest => .found (least + n) rest

def copyRow (distance : Nat) : Nat → Array UInt8 → Array UInt8
  | 0, out => out
  | n + 1, out => copyRow distance n (out.push (out.getD (out.size - distance) 0))

/-- How the reading of bytes stops: the data end or are broken, or there is something behind. -/
inductive Stop where
  | ended
  | broken
  | behind (bits : List Bool)

/-- Reads bytes and rows up to the end of a block. Each takes at least one of the bits, which the
first argument counts. -/
def readRows (symbols distances : Code) : Nat → Array UInt8 → List Bool → Array UInt8 × Stop
  | 0, out, _ => (out, .ended)
  | left + 1, out, bits =>
    match readSymbol symbols bits with
    | .ended => (out, .ended)
    | .broken => (out, .broken)
    | .found symbol bits =>
      if symbol < 256 then readRows symbols distances left (out.push symbol.toUInt8) bits
      else if symbol = 256 then (out, .behind bits)
      else
        let row := (readEntry rowLengths (symbol - 257) bits).bind fun length bits =>
          (readSymbol distances bits).bind fun d bits =>
            (readEntry rowDistances d bits).bind fun distance bits =>
              .found (length, distance) bits
        match row with
        | .ended => (out, .ended)
        | .broken => (out, .broken)
        | .found (length, distance) bits =>
          if out.size < distance then (out, .broken)
          else readRows symbols distances left (copyRow distance length out) bits

def usualLengths : List Nat :=
  List.replicate 144 8 ++ List.replicate 112 9 ++ List.replicate 24 7 ++ List.replicate 8 8

def usualDistanceLengths : List Nat := List.replicate 32 5

def lengthOrder : List Nat := [16, 17, 18, 0, 8, 7, 9, 6, 10, 5, 11, 4, 12, 3, 13, 2, 14, 1, 15]

def readThrees : Nat → List Bool → Reading (List Nat)
  | 0, bits => .found [] bits
  | n + 1, bits =>
    (readNumber 3 bits).bind fun m bits => (readThrees n bits).bind fun ms bits => .found (m :: ms) bits

/-- Reads the lengths of words up to the given count. Symbols beyond fifteen repeat a length. -/
def readLengths (code : Code) (count : Nat) : Nat → List Nat → List Bool → Reading (List Nat)
  | 0, lengths, bits => .found lengths bits
  | left + 1, lengths, bits =>
    if count ≤ lengths.length then .found lengths bits
    else (readSymbol code bits).bind fun symbol bits =>
      if symbol < 16 then readLengths code count left (lengths ++ [symbol]) bits
      else
        let (least, more) := if symbol = 16 then (3, 2) else if symbol = 17 then (3, 3) else (11, 7)
        (readNumber more bits).bind fun n bits =>
          let repeated := if symbol = 16 then lengths.getLast? else some 0
          match repeated with
          | none => .broken
          | some length =>
            if count < lengths.length + least + n then .broken
            else readLengths code count left (lengths ++ List.replicate (least + n) length) bits

def lengthCode (code : Code) : Code := if code.isEmpty then [[0, 0]] else code

def readCodes (bits : List Bool) : Reading (Code × Code) :=
  (readNumber 14 bits).bind fun counts bits =>
    let symbolCount := counts % 32 + 257
    let distanceCount := counts / 32 % 32 + 1
    if 286 < symbolCount || 30 < distanceCount then .broken
    else (readThrees (counts / 1024 + 4) bits).bind fun given bits =>
      let lengths := (List.range 19).map fun s => ((lengthOrder.zip given).lookup s).getD 0
      let code := codeOf lengths
      if !(code.isEmpty || (hasRoom code && roomLeft code = 0)) then .broken
      else
        let count := symbolCount + distanceCount
        (readLengths (lengthCode code) count count [] bits).bind fun lengths bits =>
          let symbols := codeOf (lengths.take symbolCount)
          let distances := codeOf (lengths.drop symbolCount)
          if lengths[256]? = some 0 || !isSound symbols || !isSound distances then .broken
          else .found (symbols, distances) bits

/-- Reads a block of bytes as they are. It begins at a whole byte. -/
def readStored (out : Array UInt8) (bits : List Bool) : Array UInt8 × Stop :=
  match readNumber 32 (bits.drop (bits.length % 8)) with
  | .ended => (out, .ended)
  | .broken => (out, .broken)
  | .found n bits =>
    let length := n % 65536
    if length + n / 65536 ≠ 65535 then (out, .broken)
    else
      let count := min length (bits.length / 8)
      let bytes := (List.range count).map fun i => (numberOf ((bits.drop (8 * i)).take 8)).toUInt8
      (out ++ bytes.toArray, if count < length then .ended else .behind (bits.drop (8 * length)))

/-- Reads blocks up to the last one. Each takes at least one of the bits, which the first argument
counts. -/
def readBlocks : Nat → Array UInt8 → List Bool → Array UInt8 × Stop
  | 0, out, _ => (out, .ended)
  | left + 1, out, bits =>
    match readNumber 3 bits with
    | .ended => (out, .ended)
    | .broken => (out, .broken)
    | .found head bits =>
      let (out, stop) :=
        match head / 2 with
        | 0 => readStored out bits
        | 1 => readRows (codeOf usualLengths) (codeOf usualDistanceLengths) bits.length out bits
        | 2 =>
          match readCodes bits with
          | .ended => (out, .ended)
          | .broken => (out, .broken)
          | .found (symbols, distances) bits => readRows symbols distances bits.length out bits
        | _ => (out, .broken)
      match stop with
      | .behind bits => if head % 2 = 1 then (out, .behind bits) else readBlocks left out bits
      | stop => (out, stop)

/-- The bytes that blocks stand for; none if they are broken. -/
def inflateBlocks? (bytes : List UInt8) : Option (List UInt8) :=
  let bits := bitsOf bytes
  match readBlocks bits.length #[] bits with
  | (_, .broken) => none
  | (out, _) => some out.toList

def checkSum (bytes : List UInt8) : Nat :=
  let (a, b) := bytes.foldl (fun (a, b) byte =>
    let a := (a + byte.toNat) % 65521
    (a, (b + a) % 65521)) (1, 0)
  65536 * b + a

def inflateWrapped? (bytes : List UInt8) : Option (List UInt8) :=
  match bytes with
  | a :: b :: r =>
    let isHead := (256 * a.toNat + b.toNat) % 31 = 0 && a.toNat % 16 = 8 && a.toNat / 16 ≤ 7
    let hasDictionary := b.toNat / 32 % 2 = 1
    if !isHead then none
    else if hasDictionary then (if r.length < 4 then some [] else none)
    else
      let bits := bitsOf r
      match readBlocks bits.length #[] bits with
      | (_, .broken) => none
      | (out, .ended) => some out.toList
      | (out, .behind rest) =>
        let sum := r.drop (r.length - rest.length / 8)
        if sum.length < 4 then some out.toList
        else if (sum.take 4).foldl (fun n b => 256 * n + b.toNat) 0 = checkSum out.toList then
          some out.toList
        else none
  | _ => some []

def inflate? (bytes : List UInt8) : Option (List UInt8) :=
  (inflateWrapped? bytes).or (inflateBlocks? bytes)

end ApiTypes.Deflate
