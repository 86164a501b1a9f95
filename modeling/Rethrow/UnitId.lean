import Rethrow.Disk.Path
import Rethrow.Text.Lines
import Rethrow.Wrapper.Options

/-!
# Identifiers of units

A unit is identified by its package and its name, separated by slashes. The identifier
is also the unit's entry in an archive and, with empty components left out, its path
below a directory.
-/

namespace Rethrow

/-- The identifier of a unit, such as `java/io/Reader`. -/
structure UnitId where
  text : Text
  deriving DecidableEq, Repr

namespace UnitId

/-- Cuts a text behind its last slash. -/
def splitLast : Text → Text × Text
  | [] => ([], [])
  | c :: rest =>
    match splitLast rest with
    | ([], name) => if c = '/' then (['/'], name) else ([], c :: name)
    | (package, name) => (c :: package, name)

/-- The package with its last slash; empty for the default package. -/
def packagePath (id : UnitId) : Text :=
  (splitLast id.text).1

/-- The name without its package. -/
def simpleName (id : UnitId) : Text :=
  (splitLast id.text).2

/-- The unit of another name in the same package. -/
def withSimpleName (id : UnitId) (name : Text) : UnitId :=
  { text := id.packagePath ++ name }

/-- The unit's entry in an archive. -/
def fileName (id : UnitId) : Text :=
  id.text ++ ".java".toList

/-- The components of the unit's path below a directory. -/
def components (id : UnitId) : List Text :=
  (Text.splitAtChar '/' id.fileName).filter fun part => !part.isEmpty

/-- The unit's path below a directory. -/
def relativePath (id : UnitId) : Path :=
  { text := Text.joinWith ['/'] id.components }

/-- The unit that is generated from this one. -/
def output (options : Options) (id : UnitId) : UnitId :=
  id.withSimpleName (options.generatedName id.simpleName)

end UnitId

end Rethrow
