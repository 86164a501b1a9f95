import Rethrow.Text.Basic

/-!
# Escaped text of a string literal

`escape` gives the text to put between two double quotes so that the literal
denotes the given value: quotes, backslashes and the control characters that
have an escape of their own are escaped, everything else stands as it is.
-/

namespace Rethrow.Text

/-- The escaped form of one character. -/
def escapeChar (c : Char) : Text :=
  match c with
  | '"' => ['\\', '"']
  | '\\' => ['\\', '\\']
  | '\n' => ['\\', 'n']
  | '\r' => ['\\', 'r']
  | '\t' => ['\\', 't']
  | c =>
    if c = Char.ofNat 8 then ['\\', 'b']
    else if c = Char.ofNat 12 then ['\\', 'f']
    else [c]

/-- The escaped form of a value, without the surrounding quotes. -/
def escape (value : Text) : Text :=
  value.flatMap escapeChar

end Rethrow.Text
