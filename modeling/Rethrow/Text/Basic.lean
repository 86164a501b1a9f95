/-!
# Texts

A text is the list of its characters. Every rule of the library that looks at
source text, names or messages is a structural recursion over such a list.

Blank characters are those with the Unicode property `White_Space`; the ends of
fragments and lines are trimmed by that property. Columns of a source count the
bytes of its UTF-8 form, so `byteLength` is the measure they use.
-/

namespace Rethrow

/-- A text, as the list of its characters. -/
abbrev Text := List Char

namespace Text

/-- The characters with the Unicode property `White_Space`. -/
def isBlank (c : Char) : Bool :=
  let n := c.toNat
  (9 ≤ n && n ≤ 13) || n == 0x20 || n == 0x85 || n == 0xA0 || n == 0x1680 ||
    (0x2000 ≤ n && n ≤ 0x200A) || n == 0x2028 || n == 0x2029 || n == 0x202F ||
    n == 0x205F || n == 0x3000

/-- A text without the blanks it starts with. -/
def trimStart (t : Text) : Text :=
  t.dropWhile isBlank

/-- A text without the blanks it ends with. -/
def trimEnd : Text → Text
  | [] => []
  | c :: rest =>
    match trimEnd rest with
    | [] => if isBlank c then [] else [c]
    | kept => c :: kept

/-- A text without the blanks at either end. -/
def trim (t : Text) : Text :=
  trimEnd (trimStart t)

/-- Whether a text begins with `lead`. -/
def startsWith (t lead : Text) : Bool :=
  lead.isPrefixOf t

/-- Whether `needle` occurs somewhere in a text. -/
def holds (needle : Text) : Text → Bool
  | [] => needle.isEmpty
  | c :: rest => startsWith (c :: rest) needle || holds needle rest

/-- One pass of `replace`; `skip` characters of a matched needle are still to be
passed over. -/
def replaceFrom (needle new : Text) : Nat → Text → Text
  | _, [] => []
  | skip + 1, _ :: rest => replaceFrom needle new skip rest
  | 0, c :: rest =>
    if startsWith (c :: rest) needle then
      new ++ replaceFrom needle new (needle.length - 1) rest
    else
      c :: replaceFrom needle new 0 rest

/-- Replaces the occurrences of a nonempty `needle`, leftmost first and without
overlap, by `new`. -/
def replace (needle new : Text) (t : Text) : Text :=
  replaceFrom needle new 0 t

/-- The number of bytes of a text in UTF-8. -/
def byteLength (t : Text) : Nat :=
  t.foldl (fun bytes c => bytes + c.utf8Size) 0

/-- A number in decimal. -/
def ofNat (n : Nat) : Text :=
  Nat.toDigits 10 n

/-- The bytes of a text in UTF-8. -/
def toBytes (t : Text) : ByteArray :=
  (String.ofList t).toByteArray

/-- The text that some bytes are in UTF-8, if they are one. -/
def ofBytes? (bytes : List UInt8) : Option Text :=
  (String.fromUTF8? bytes.toByteArray).map String.toList

/-- The characters of a text from offset `start` up to offset `stop`. -/
def slice (t : Text) (start stop : Nat) : Text :=
  (t.drop start).take (stop - start)

end Text

end Rethrow
