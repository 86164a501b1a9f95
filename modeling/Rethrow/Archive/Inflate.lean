/-!
# Unpacking deflated data

Deflated data is a sequence of blocks. A block is stored as it is, or written in two prefix
codes: one for bytes, lengths of repeats and the end of the block, and one for the
distances that repeats go back. The codes are fixed, or given at the start of the block by
the lengths of their words.

A cursor reads the data bit by bit, the lowest bit of each byte first. Every symbol takes
at least one bit, so the number of bits bounds the number of steps.
-/

namespace Rethrow.Inflate

/-- Data with the number of bits read so far. -/
structure Cursor where
  data : ByteArray
  position : Nat

namespace Cursor

/-- The next bit. -/
def bit? (c : Cursor) : Option (Nat × Cursor) :=
  (c.data[c.position / 8]?).map fun byte =>
    ((byte.toNat >>> (c.position % 8)) % 2, { c with position := c.position + 1 })

/-- The number in the next `count` bits, lowest first. -/
def bits? (c : Cursor) : Nat → Option (Nat × Cursor)
  | 0 => some (0, c)
  | count + 1 => do
    let (low, c) ← c.bit?
    let (high, c) ← c.bits? count
    some (low + 2 * high, c)

/-- The cursor at the next whole byte. -/
def align (c : Cursor) : Cursor :=
  { c with position := (c.position + 7) / 8 * 8 }

/-- The next whole byte. -/
def byte? (c : Cursor) : Option (UInt8 × Cursor) :=
  (c.data[c.position / 8]?).map fun byte => (byte, { c with position := c.position + 8 })

end Cursor

/-- A prefix code: the number of words of each length, and the symbols in the order of
their words. -/
structure Code where
  counts : Array Nat
  symbols : Array Nat

namespace Code

/-- The longest word of a code. -/
def longest : Nat := 15

/-- The code whose symbols have words of the given lengths; length zero is no word. Words
of one length follow each other in the order of their symbols. -/
def ofLengths (lengths : List Nat) : Code :=
  let withLength (length : Nat) : List Nat :=
    (lengths.zipIdx.filter fun entry => entry.1 = length).map (·.2)
  let groups := (List.range longest).map fun n => withLength (n + 1)
  { counts := (groups.map List.length).toArray, symbols := groups.flatten.toArray }

/-- Reads on within a word. `word` is what has been read of it, `first` the first word of
the same length, and `index` the place of its symbol. -/
def decodeFrom (code : Code) : List Nat → Nat → Nat → Nat → Cursor → Option (Nat × Cursor)
  | [], _, _, _, _ => none
  | count :: longer, word, first, index, c => do
    let (bit, c) ← c.bit?
    let word := word + bit
    if word < first + count then
      (code.symbols[index + (word - first)]?).map fun symbol => (symbol, c)
    else code.decodeFrom longer (word * 2) ((first + count) * 2) (index + count) c

/-- Reads a word: its symbol. -/
def decode? (code : Code) (c : Cursor) : Option (Nat × Cursor) :=
  code.decodeFrom code.counts.toList 0 0 0 c

end Code

/-- The lengths of repeats, by symbol: the shortest, and the bits that add to it. -/
def lengthTable : Array (Nat × Nat) :=
  #[(3, 0), (4, 0), (5, 0), (6, 0), (7, 0), (8, 0), (9, 0), (10, 0), (11, 1), (13, 1), (15, 1),
    (17, 1), (19, 2), (23, 2), (27, 2), (31, 2), (35, 3), (43, 3), (51, 3), (59, 3), (67, 4),
    (83, 4), (99, 4), (115, 4), (131, 5), (163, 5), (195, 5), (227, 5), (258, 0)]

/-- The distances of repeats, by symbol: the shortest, and the bits that add to it. -/
def distanceTable : Array (Nat × Nat) :=
  #[(1, 0), (2, 0), (3, 0), (4, 0), (5, 1), (7, 1), (9, 2), (13, 2), (17, 3), (25, 3), (33, 4),
    (49, 4), (65, 5), (97, 5), (129, 6), (193, 6), (257, 7), (385, 7), (513, 8), (769, 8),
    (1025, 9), (1537, 9), (2049, 10), (3073, 10), (4097, 11), (6145, 11), (8193, 12), (12289, 12),
    (16385, 13), (24577, 13)]

/-- The symbol that ends a block. Smaller ones are bytes, larger ones repeats. -/
def endOfBlock : Nat := 256

/-- Reads a number from a table of ranges. -/
def ranged? (table : Array (Nat × Nat)) (symbol : Nat) (c : Cursor) : Option (Nat × Cursor) := do
  let (base, extra) ← table[symbol]?
  let (more, c) ← c.bits? extra
  some (base + more, c)

/-- Repeats `count` bytes from `distance` back. -/
def repeat? (distance : Nat) : Nat → ByteArray → Option ByteArray
  | 0, out => some out
  | count + 1, out =>
    if distance ≤ out.size then
      match out[out.size - distance]? with
      | some byte => repeat? distance count (out.push byte)
      | none => none
    else none

/-- Unpacks a block in the given codes. -/
def codedBlock (literals distances : Code) : Nat → Cursor → ByteArray → Option (Cursor × ByteArray)
  | 0, _, _ => none
  | fuel + 1, c, out => do
    let (symbol, c) ← literals.decode? c
    if symbol < endOfBlock then codedBlock literals distances fuel c (out.push symbol.toUInt8)
    else if symbol = endOfBlock then some (c, out)
    else
      let (length, c) ← ranged? lengthTable (symbol - endOfBlock - 1) c
      let (distanceSymbol, c) ← distances.decode? c
      let (distance, c) ← ranged? distanceTable distanceSymbol c
      let out ← repeat? distance length out
      codedBlock literals distances fuel c out

/-- Copies the bytes of a stored block. -/
def copyBytes : Nat → Cursor → ByteArray → Option (Cursor × ByteArray)
  | 0, c, out => some (c, out)
  | count + 1, c, out => do
    let (byte, c) ← c.byte?
    copyBytes count c (out.push byte)

/-- Unpacks a stored block. -/
def storedBlock (c : Cursor) (out : ByteArray) : Option (Cursor × ByteArray) := do
  let (length, c) ← c.align.bits? 16
  let (check, c) ← c.bits? 16
  if length + check = 0xFFFF then copyBytes length c out else none

/-- The code for bytes and lengths that needs no description. -/
def fixedLiterals : Code :=
  Code.ofLengths (List.replicate 144 8 ++ List.replicate 112 9 ++ List.replicate 24 7 ++
    List.replicate 8 8)

/-- The code for distances that needs no description. -/
def fixedDistances : Code :=
  Code.ofLengths (List.replicate 30 5)

/-- The order in which the lengths of the code for lengths are given. -/
def lengthOrder : List Nat :=
  [16, 17, 18, 0, 8, 7, 9, 6, 10, 5, 11, 4, 12, 3, 13, 2, 14, 1, 15]

/-- Reads the three-bit lengths of the code for lengths. -/
def readOrdered : List Nat → Cursor → Option (List (Nat × Nat) × Cursor)
  | [], c => some ([], c)
  | symbol :: rest, c => do
    let (length, c) ← c.bits? 3
    let (more, c) ← readOrdered rest c
    some ((symbol, length) :: more, c)

/-- Reads `count` lengths in the code for lengths; those read so far are in reverse. -/
def readLengths (code : Code) : Nat → Nat → List Nat → Cursor → Option (List Nat × Cursor)
  | 0, _, _, _ => none
  | fuel + 1, count, found, c =>
    if count ≤ found.length then
      if found.length = count then some (found.reverse, c) else none
    else do
      let (symbol, c) ← code.decode? c
      match symbol with
      | 16 =>
        let (more, c) ← c.bits? 2
        let last ← found.head?
        readLengths code fuel count (List.replicate (3 + more) last ++ found) c
      | 17 =>
        let (more, c) ← c.bits? 3
        readLengths code fuel count (List.replicate (3 + more) 0 ++ found) c
      | 18 =>
        let (more, c) ← c.bits? 7
        readLengths code fuel count (List.replicate (11 + more) 0 ++ found) c
      | length => readLengths code fuel count (length :: found) c

/-- Reads the codes at the start of a block. -/
def readCodes (c : Cursor) : Option (Code × Code × Cursor) := do
  let (literals, c) ← c.bits? 5
  let (distances, c) ← c.bits? 5
  let (ordered, c) ← c.bits? 4
  let (lengths, c) ← readOrdered (lengthOrder.take (ordered + 4)) c
  let code := Code.ofLengths ((List.range 19).map fun symbol => (lengths.lookup symbol).getD 0)
  let literalCount := literals + 257
  let count := literalCount + distances + 1
  let (all, c) ← readLengths code (count + 1) count [] c
  some (Code.ofLengths (all.take literalCount), Code.ofLengths (all.drop literalCount), c)

/-- Unpacks blocks up to the last. -/
def blocks : Nat → Cursor → ByteArray → Option ByteArray
  | 0, _, _ => none
  | fuel + 1, c, out => do
    let (last, c) ← c.bit?
    let (kind, c) ← c.bits? 2
    let steps := c.data.size * 8 + 1
    let (c, out) ←
      match kind with
      | 0 => storedBlock c out
      | 1 => codedBlock fixedLiterals fixedDistances steps c out
      | 2 => do
        let (literals, distances, c) ← readCodes c
        codedBlock literals distances steps c out
      | _ => none
    if last = 1 then some out else blocks fuel c out

end Inflate

/-- The bytes that some data unpacks to, if it is deflated data. -/
def inflate? (data : ByteArray) : Option ByteArray :=
  Inflate.blocks (data.size * 8 + 1) { data, position := 0 } ByteArray.empty

end Rethrow
