import Rethrow.Unit.Basic

/-!
# Stripping declared failures

A stripped member declares no failures, and the tags in its documentation that
spoke of them become prose. The replacement is confined to the member's own
documentation comment.
-/

namespace Rethrow

/-- A documentation comment in which no tag announces a failure. -/
def stripDoc (doc : Text) : Text :=
  Text.replace "@throws".toList "no longer throws".toList doc

/-- A method without declared failures. -/
def Procedure.strip (p : Procedure) : Procedure :=
  { p with throws := [], doc := p.doc.map stripDoc }

/-- A constructor without declared failures. -/
def Constructor.strip (c : Constructor) : Constructor :=
  { c with throws := [], doc := c.doc.map stripDoc }

end Rethrow
