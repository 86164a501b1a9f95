import Rethrow.Text.Basic

/-!
# Options of a wrapper

What shapes the generated type: the ends put around its name, and the type and
message of the failure that is thrown in place of a declared one.
-/

namespace Rethrow

/-- Options of a generated wrapper. -/
structure Options where
  /-- Put in front of the type's name. -/
  namePrefix : Text := "Unchecked".toList
  /-- Put behind the type's name. -/
  nameSuffix : Text := []
  /-- The type thrown in place of declared failures. -/
  uncheckedType : Text := "RuntimeException".toList
  /-- The message passed to the thrown failure. -/
  message : Text := "wrapped checked exception".toList
  deriving DecidableEq, Repr

/-- The name of the generated type. -/
def Options.generatedName (options : Options) (name : Text) : Text :=
  options.namePrefix ++ name ++ options.nameSuffix

end Rethrow
