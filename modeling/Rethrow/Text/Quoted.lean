import Rethrow.Text.Basic

/-!
# Quoted texts in reports

A report that shows a value within another one puts it between double quotes. Quotes and
backslashes are escaped, and so is every character that would not be seen as itself:
controls, format characters, and marks that join the character before them.
-/

namespace Rethrow.Text

/-- The ranges of characters that are shown by their code point: controls, combining
marks, format characters, separators of lines, and characters for private use. -/
def hiddenRanges : List (Nat × Nat) :=
  [(0x00, 0x1F), (0x7F, 0xA0), (0xAD, 0xAD), (0x300, 0x36F), (0x483, 0x489), (0x591, 0x5BD),
    (0x600, 0x605), (0x64B, 0x65F), (0x1680, 0x1680), (0x180B, 0x180F), (0x1AB0, 0x1ACE),
    (0x1DC0, 0x1DFF), (0x2000, 0x200F), (0x2028, 0x202F), (0x205F, 0x206F), (0x20D0, 0x20F0),
    (0x3000, 0x3000), (0x302A, 0x302F), (0x3099, 0x309A), (0xE000, 0xF8FF), (0xFE00, 0xFE0F),
    (0xFE20, 0xFE2F), (0xFEFF, 0xFEFF), (0xFF9E, 0xFF9F), (0xFFF0, 0xFFFB), (0xFFFE, 0xFFFF),
    (0xE0000, 0x10FFFF)]

/-- Whether a character is shown by its code point. -/
def isHidden (c : Char) : Bool :=
  hiddenRanges.any fun range => range.1 ≤ c.toNat && c.toNat ≤ range.2

/-- A character within quotes. -/
def quoteChar (c : Char) : Text :=
  match c with
  | '"' => ['\\', '"']
  | '\\' => ['\\', '\\']
  | '\t' => ['\\', 't']
  | '\r' => ['\\', 'r']
  | '\n' => ['\\', 'n']
  | '\x00' => ['\\', '0']
  | c =>
    if isHidden c then ['\\', 'u', '\x7b'] ++ Nat.toDigits 16 c.toNat ++ ['\x7d'] else [c]

/-- A text between quotes. -/
def quoted (t : Text) : Text :=
  '"' :: t.flatMap quoteChar ++ ['"']

end Rethrow.Text
