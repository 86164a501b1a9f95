import Rethrow.Text.Lines

/-!
# Paths

A path is kept as it was written, because that is how messages show it. Reading it as a
list of steps gives it its meaning: an empty or `.` component stays where it is, `..` goes
up, any other component goes down to the entry of that name.

`Path.ancestors` lists the directories a path leads through in their written form. It
passes over components that stay, except a `.` in front.
-/

namespace Rethrow

/-- A path, as written. -/
structure Path where
  text : Text
  deriving DecidableEq, Repr

namespace Path

/-- Whether a path starts at the root. -/
def isAbsolute (path : Path) : Bool :=
  path.text.head? = some '/'

/-- The path that leads from `base` along `path`. An absolute path leaves the base
behind, and a base that ends in a slash takes no second one. -/
def join (base path : Path) : Path :=
  if path.isAbsolute || base.text.isEmpty then path
  else if base.text.getLast? = some '/' then { text := base.text ++ path.text }
  else { text := base.text ++ '/' :: path.text }

/-- The components of a path, empty ones included. An absolute path has an empty component
in front. -/
def components (path : Path) : List Text :=
  Text.splitAtChar '/' path.text

/-- Whether a component stays where it is. -/
def isIdle (component : Text) : Bool :=
  component.isEmpty || component = ['.']

/-- The components that lead somewhere. -/
def names (path : Path) : List Text :=
  path.components.filter fun component => !isIdle component

/-- The paths of `ancestors`, from components listed last first. -/
def ancestorsOf : List Text → List Path
  | [] => []
  | [head] => if head.isEmpty then [] else [{ text := head }]
  | component :: rest =>
    if isIdle component then ancestorsOf rest
    else { text := Text.joinWith ['/'] (component :: rest).reverse } :: ancestorsOf rest

/-- A path and the directories that lead to it, innermost first. Neither the root nor the
directory in which a relative path starts is listed. -/
def ancestors (path : Path) : List Path :=
  ancestorsOf path.components.reverse

/-- One step along a path. -/
inductive Step where
  | stay
  | up
  | down (name : Text)
  deriving DecidableEq, Repr

/-- What a component means. -/
def Step.ofComponent (component : Text) : Step :=
  if isIdle component then .stay
  else if component = ['.', '.'] then .up
  else .down component

/-- A path as steps. The empty component in front of an absolute path stays at the root. -/
def steps (path : Path) : List Step :=
  path.components.map Step.ofComponent

end Path

end Rethrow
