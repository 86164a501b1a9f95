import Rethrow.Unit.Basic
import Rethrow.Wrapper.Options

/-!
# Renaming a type

The type takes its generated name, and with it every constructor that carried the
old one. Methods keep their names, also one that is called like the type.
-/

namespace Rethrow

/-- A member after its type changed its name from `old` to `new`. -/
def Member.rename (old new : Text) : Member → Member
  | .constructor decl =>
    .constructor (if decl.name = old then { decl with name := new } else decl)
  | member => member

/-- Renames a type and the constructors that carry its name. -/
def TypeDecl.rename (options : Options) (decl : TypeDecl) : TypeDecl :=
  let new := options.generatedName decl.name
  { decl with name := new, members := decl.members.map (Member.rename decl.name new) }

end Rethrow
