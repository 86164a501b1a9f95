import Rethrow.Text.Basic

/-!
# Lines of a text

A line ends at a line feed, and one carriage return right before the line feed
belongs to the line's end. A text that ends in a line feed has no further, empty
line after it; a carriage return at the very end of a text is part of its line.
-/

namespace Rethrow.Text

/-- Splits a text at every occurrence of `mark`; `n` occurrences give `n + 1`
pieces. -/
def splitAtChar (mark : Char) : Text → List Text
  | [] => [[]]
  | c :: rest =>
    match splitAtChar mark rest with
    | [] => [[c]]
    | piece :: pieces => if c = mark then [] :: piece :: pieces else (c :: piece) :: pieces

/-- A line without one carriage return at its end. -/
def dropReturn : Text → Text
  | [] => []
  | ['\r'] => []
  | c :: rest => c :: dropReturn rest

/-- Turns the pieces between line feeds into lines: each piece but the last was
ended by a line feed, and an empty last piece is no line. -/
def closeLines : List Text → List Text
  | [] => []
  | [last] => if last.isEmpty then [] else [last]
  | piece :: more => dropReturn piece :: closeLines more

/-- The lines of a text. -/
def lines (t : Text) : List Text :=
  closeLines (splitAtChar '\n' t)

/-- Joins texts with `mark` between neighbours. -/
def joinWith (mark : Text) (pieces : List Text) : Text :=
  mark.intercalate pieces

/-- Joins lines with a line feed between neighbours. -/
def joinLines (ls : List Text) : Text :=
  joinWith ['\n'] ls

end Rethrow.Text
