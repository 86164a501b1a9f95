import Rethrow.Fragment.TextBlock

/-!
# Removing indentation

A fragment that starts at some column of its source carries that column as
indentation on its later lines. `dedent` removes it, together with the blanks at
the end of every line, and leaves the lines of text blocks alone.
-/

namespace Rethrow.Fragment

/-- A line without at most `column` of the spaces and tabs it starts with. -/
def dropIndent : Nat → Text → Text
  | 0, line => line
  | _, [] => []
  | column + 1, c :: rest =>
    if c = ' ' ∨ c = '\t' then dropIndent column rest else c :: rest

/-- A line after the first one, `raw` when it starts inside a text block. -/
def dedentLine (column : Nat) (line : Text) (raw : Bool) : Text :=
  if raw then line else Text.trimEnd (dropIndent column line)

/-- The lines of a dedented fragment. -/
def dedentLines (column : Nat) : List (Text × Bool) → List Text
  | [] => []
  | (first, _) :: later =>
    Text.trimEnd first :: later.map fun line => dedentLine column line.1 line.2

/-- Removes up to `column` columns of indentation from every line but the first. -/
def dedent (t : Text) (column : Nat) : Text :=
  let body := Text.trimEnd t
  Text.joinLines (dedentLines column ((Text.lines body).zip (textBlockLines body)))

end Rethrow.Fragment
