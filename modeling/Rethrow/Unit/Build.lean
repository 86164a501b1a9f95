import Rethrow.Text.Escape
import Rethrow.Unit.Basic

/-!
# Building trees

The constructors of trees that do not come from source text, chiefly the handler
that is put around a body.
-/

namespace Rethrow

/-- The string literal that denotes `value`. -/
def Expr.ofString (value : Text) : Expr :=
  .string (Text.escape value)

/-- A `catch` of one type. -/
def Catch.ofType (typeName binder : Text) (body : List Stmt) : Catch :=
  .clause [typeName] binder body

/-- A `try` without a finally block. -/
def Stmt.tryCatch (body : List Stmt) (catches : List Catch) : Stmt :=
  .guarded body catches none

end Rethrow
