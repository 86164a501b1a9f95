import Rethrow.Unit.Build
import Rethrow.Wrapper.Options

/-!
# Wrapping bodies

A wrapped body is one handler that protects the former statements and throws an
unchecked failure in place of whatever they throw.

A call of `this(…)` or `super(…)` has to stay the first statement of its
constructor. A constructor that consists of that call alone is left as it is, and
one that goes on after it is refused.
-/

namespace Rethrow

/-- The refusal of a constructor that delegates and then runs further statements. -/
structure DelegationRefusal where
  constructorName : Text
  deriving DecidableEq, Repr

/-- The wording of a refusal. -/
def DelegationRefusal.message (refusal : DelegationRefusal) : Text :=
  "cannot (yet) handle constructor ".toList ++ refusal.constructorName ++
    " with call to this or super with subsequent statements".toList

namespace Wrapper

/-- The type that the handler catches. -/
def caughtType : Text := "Exception".toList

/-- The name bound to the caught failure. -/
def caughtName : Text := "e".toList

/-- The statement that throws the unchecked failure. -/
def rethrow (options : Options) : Stmt :=
  .throw (.create options.uncheckedType [Expr.ofString options.message, .name caughtName])

/-- The handler that protects `body`. -/
def handler (options : Options) (body : List Stmt) : Stmt :=
  Stmt.tryCatch body [Catch.ofType caughtType caughtName [rethrow options]]

end Wrapper

/-- A method with its body protected; one that is only declared or native stays as it
is. -/
def Procedure.wrap (options : Options) (p : Procedure) : Procedure :=
  if p.modifiers.isNative then p
  else { p with body := p.body.map fun body => [Wrapper.handler options body] }

/-- A constructor with its body protected, unless it holds no statement or only a
delegating call. -/
def Constructor.wrap (options : Options) (c : Constructor) :
    Except DelegationRefusal Constructor :=
  match c.body.dropWhile Stmt.isComment with
  | [] => .ok c
  | .delegate _ :: rest =>
    if rest.any fun s => !s.isComment then .error ⟨c.name⟩ else .ok c
  | _ => .ok { c with body := [Wrapper.handler options c.body] }

end Rethrow
