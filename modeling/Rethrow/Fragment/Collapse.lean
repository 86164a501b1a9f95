import Rethrow.Fragment.Dedent

/-!
# Collapsing line breaks

A signature fragment is put on one line: a run of blanks that holds a line feed
becomes one space. A fragment with a text block keeps its lines, and so does one
that may hold a line comment, since joining its lines would comment out the rest.
-/

namespace Rethrow.Fragment

/-- The text that stands for a run of blanks. -/
def closeRun (run : Text) : Text :=
  if run.contains '\n' then [' '] else run

/-- Collapses the runs of blanks of a text; `run` is the run read so far. -/
def collapseRuns (run : Text) : Text → Text
  | [] => []
  | c :: rest =>
    if Text.isBlank c then collapseRuns (run ++ [c]) rest
    else closeRun run ++ c :: collapseRuns [] rest

/-- The trimmed lines of a text, less the empty ones. -/
def trimmedLines (t : Text) : List Text :=
  ((Text.lines t).map Text.trim).filter fun line => !line.isEmpty

/-- Puts a fragment on one line where that keeps its meaning. -/
def collapse (t : Text) : Text :=
  let body := Text.trim t
  if Text.holds "\"\"\"".toList body then dedent body 0
  else if Text.holds "//".toList body then Text.joinLines (trimmedLines body)
  else collapseRuns [] body

end Rethrow.Fragment
