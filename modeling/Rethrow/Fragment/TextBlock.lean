import Rethrow.Text.Lines

/-!
# Lines that start inside a text block

The lines of a text block belong to the value of a literal, so neither reading
nor writing may change their indentation. A scanner walks a fragment line by
line. Text blocks and block comments go on over the end of a line; a string or
character literal that is still open there is given up.
-/

namespace Rethrow.Fragment

/-- What the scanner is in the middle of. -/
inductive Scan where
  | code
  /-- Inside a literal opened with the given quote. -/
  | quoted (quote : Char)
  | textBlock
  | blockComment
  deriving DecidableEq, Repr

/-- The state in which the next line is scanned. -/
def Scan.enterLine : Scan → Scan
  | .quoted _ => .code
  | state => state

/-- The state at the end of a line that is scanned from `state`. -/
def scanLine : Scan → Text → Scan
  | state, [] => state
  | .code, '"' :: '"' :: '"' :: rest => scanLine .textBlock rest
  | .code, '/' :: '/' :: _ => .code
  | .code, '/' :: '*' :: rest => scanLine .blockComment rest
  | .code, c :: rest =>
    if c = '"' ∨ c = '\'' then scanLine (.quoted c) rest else scanLine .code rest
  | .quoted quote, '\\' :: _ :: rest => scanLine (.quoted quote) rest
  | .quoted quote, c :: rest =>
    if c ≠ '\\' ∧ c = quote then scanLine .code rest else scanLine (.quoted quote) rest
  | .textBlock, '\\' :: _ :: rest => scanLine .textBlock rest
  | .textBlock, '"' :: '"' :: '"' :: rest => scanLine .code rest
  | .textBlock, _ :: rest => scanLine .textBlock rest
  | .blockComment, '*' :: '/' :: rest => scanLine .code rest
  | .blockComment, _ :: rest => scanLine .blockComment rest

/-- For each line, whether the scanner stands in a text block at its start. -/
def flagLines : Scan → List Text → List Bool
  | _, [] => []
  | state, line :: more =>
    decide (state = .textBlock) :: flagLines (scanLine state.enterLine line) more

/-- For each line of a fragment, whether it starts inside a text block. -/
def textBlockLines (t : Text) : List Bool :=
  flagLines .code (Text.lines t)

end Rethrow.Fragment
