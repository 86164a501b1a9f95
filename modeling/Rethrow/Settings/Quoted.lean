import Rethrow.Text.Basic

/-!
# Quoted texts of a settings file

A text stands between single or double quotes, on one line, or between three of them, on
any number of lines. Double quotes give the backslash its meaning; single quotes leave it
alone. Control characters other than the tab are refused everywhere.

Between three quotes, a line break right behind the opening ones is dropped, every other
one becomes a line feed, and up to two quotes may stand in front of the closing three. A
backslash at the end of a line, between double quotes, joins the lines and drops the
blanks in between.

Reading is one pass over the characters. `Style.act` says what a state does with a
character, and `Style.readFrom` repeats it.
-/

namespace Rethrow.Settings

/-- Whether a character may stand in a text or a comment as it is. -/
def isPlain (c : Char) : Bool :=
  c = '\t' || (0x20 ≤ c.toNat && c.toNat ≠ 0x7F)

/-- Whether a character is a blank within a line. -/
def isGap (c : Char) : Bool :=
  c = ' ' || c = '\t'

/-- The value of a hexadecimal digit. -/
def hexValue? (c : Char) : Option Nat :=
  if '0' ≤ c ∧ c ≤ '9' then some (c.toNat - '0'.toNat)
  else if 'a' ≤ c ∧ c ≤ 'f' then some (c.toNat - 'a'.toNat + 10)
  else if 'A' ≤ c ∧ c ≤ 'F' then some (c.toNat - 'A'.toNat + 10)
  else none

/-- The character of a code point. -/
def scalar? (n : Nat) : Option Char :=
  if n.isValidChar then some (Char.ofNat n) else none

/-- The character that a backslash and one letter stand for. -/
def letterEscape? : Char → Option Char
  | 'b' => some '\x08'
  | 't' => some '\t'
  | 'n' => some '\n'
  | 'f' => some '\x0c'
  | 'r' => some '\r'
  | 'e' => some '\x1b'
  | '"' => some '"'
  | '\\' => some '\\'
  | _ => none

/-- The number of hexadecimal digits behind a backslash and a letter. -/
def digitEscape? : Char → Option Nat
  | 'x' => some 2
  | 'u' => some 4
  | 'U' => some 8
  | _ => none

/-- How a text is quoted. -/
structure Style where
  quote : Char
  /-- Three quotes on either side, and line breaks in between. -/
  spansLines : Bool
  deriving DecidableEq, Repr

/-- Where the reading of a quoted text is. -/
inductive State where
  /-- Right behind the opening quotes. -/
  | opening
  /-- Behind a carriage return that follows the opening quotes. -/
  | openingReturn
  | plain
  /-- Behind a carriage return. -/
  | afterReturn
  /-- Behind some quotes in a row. -/
  | quotes (count : Nat)
  /-- Behind a backslash. -/
  | escaped
  /-- Within the digits of a code point. -/
  | digits (left value : Nat)
  /-- Behind a backslash that ends its line; `crossed` once the line has ended. -/
  | joining (crossed : Bool)
  /-- Behind a carriage return between joined lines. -/
  | joiningReturn
  deriving DecidableEq, Repr

/-- What reading does with a character. -/
inductive Action where
  /-- Adds to the text and goes on. -/
  | emit (out : Text) (next : State)
  /-- Adds to the text and ends it; `keep` leaves the character to what follows. -/
  | close (out : Text) (keep : Bool)
  | refuse
  deriving DecidableEq, Repr

/-- An action with more text in front. -/
def Action.after (lead : Text) : Action → Action
  | .emit out next => .emit (lead ++ out) next
  | .close out keep => .close (lead ++ out) keep
  | .refuse => .refuse

namespace Style

/-- The number of quotes that close a text of several lines. -/
def closingQuotes : Nat := 3

/-- The most quotes that can end a text of several lines: two of its own and the closing
ones. -/
def mostQuotes : Nat := closingQuotes + 2

/-- What follows a character of the text itself. -/
def actPlain (style : Style) (c : Char) : Action :=
  if c = style.quote then
    if style.spansLines then .emit [] (.quotes 1) else .close [] false
  else if c = '\\' ∧ style.quote = '"' then .emit [] .escaped
  else if c = '\n' ∧ style.spansLines then .emit [c] .plain
  else if c = '\r' ∧ style.spansLines then .emit [] .afterReturn
  else if isPlain c then .emit [c] .plain
  else .refuse

/-- What follows a character between joined lines. -/
def actJoining (style : Style) (crossed : Bool) (c : Char) : Action :=
  if isGap c then .emit [] (.joining crossed)
  else if c = '\n' then .emit [] (.joining true)
  else if c = '\r' then .emit [] .joiningReturn
  else if crossed then style.actPlain c
  else .refuse

/-- What follows a backslash and a character. -/
def actEscaped (style : Style) (c : Char) : Action :=
  match letterEscape? c, digitEscape? c with
  | some meant, _ => .emit [meant] .plain
  | none, some count => .emit [] (.digits count 0)
  | none, none => if style.spansLines then style.actJoining false c else .refuse

/-- What follows a digit of a code point. -/
def actDigit (left value : Nat) (c : Char) : Action :=
  match hexValue? c with
  | none => .refuse
  | some digit =>
    let value := value * 16 + digit
    if left ≤ 1 then
      match scalar? value with
      | some meant => .emit [meant] .plain
      | none => .refuse
    else .emit [] (.digits (left - 1) value)

/-- What follows some quotes and a character. -/
def actQuotes (style : Style) (count : Nat) (c : Char) : Action :=
  let own := List.replicate (count - closingQuotes) style.quote
  if c = style.quote then
    if mostQuotes ≤ count then .close own true else .emit [] (.quotes (count + 1))
  else if closingQuotes ≤ count then .close own true
  else (style.actPlain c).after (List.replicate count style.quote)

/-- What a state does with a character. -/
def act (style : Style) : State → Char → Action
  | .opening, c =>
    if c = '\n' then .emit [] .plain
    else if c = '\r' then .emit [] .openingReturn
    else style.actPlain c
  | .openingReturn, c => if c = '\n' then .emit [] .plain else .refuse
  | .plain, c => style.actPlain c
  | .afterReturn, c => if c = '\n' then .emit [c] .plain else .refuse
  | .quotes count, c => style.actQuotes count c
  | .escaped, c => style.actEscaped c
  | .digits left value, c => actDigit left value c
  | .joining crossed, c => style.actJoining crossed c
  | .joiningReturn, c => if c = '\n' then .emit [] (.joining true) else .refuse

/-- The text that ends with the input, if its quotes are complete. -/
def finish? (style : Style) : State → Option Text
  | .quotes count =>
    if closingQuotes ≤ count then some (List.replicate (count - closingQuotes) style.quote)
    else none
  | _ => none

/-- Reads the text from a state on, and what follows it. -/
def readFrom (style : Style) : State → Text → Option (Text × Text)
  | state, [] => (style.finish? state).map fun out => (out, [])
  | state, c :: rest =>
    match style.act state c with
    | .emit out next => (style.readFrom next rest).map fun (text, rest) => (out ++ text, rest)
    | .close out keep => some (out, if keep then c :: rest else rest)
    | .refuse => none

/-- Reads a text behind its opening quotes, and what follows it. -/
def read (style : Style) (input : Text) : Option (Text × Text) :=
  style.readFrom (if style.spansLines then .opening else .plain) input

end Style

/-- Reads a text on one line, and what follows it. -/
def readLineText? : Text → Option (Text × Text)
  | '"' :: rest => Style.read ⟨'"', false⟩ rest
  | '\'' :: rest => Style.read ⟨'\'', false⟩ rest
  | _ => none

/-- Reads a quoted text of either kind, and what follows it. -/
def readText? : Text → Option (Text × Text)
  | '"' :: '"' :: '"' :: rest => Style.read ⟨'"', true⟩ rest
  | '\'' :: '\'' :: '\'' :: rest => Style.read ⟨'\'', true⟩ rest
  | input => readLineText? input

end Rethrow.Settings
