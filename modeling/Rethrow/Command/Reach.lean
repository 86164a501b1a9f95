import Rethrow.Command.Run

/-!
# What a run looks at

The paths that a run may read or write, as far as its settings tell. A disk that is right
about these paths, and those that lead to them, gives the run the same result as the whole
disk.
-/

namespace Rethrow.Command

/-- The settings files that a run may read. -/
def settingsReach (env : Environment) (arguments : Arguments) : List Path :=
  match arguments.config with
  | some path => [path]
  | none => Settings.fileName :: env.userSettings?.toList

/-- The sources that a run may read. -/
def sourceReach (settings : Settings) : List Path :=
  let locations :=
    settings.sourcePaths ++ (settings.jdkHome.map fun home => jdkArchives.map home.join).getD []
  locations ++ locations.flatMap fun location =>
    settings.units.map fun unit => location.join unit.relativePath

/-- The files that a run may write. -/
def outputReach (settings : Settings) : List Path :=
  match settings.outputFolder with
  | none => []
  | some root =>
    let folder : Folder := { root }
    settings.units.map fun unit => folder.pathFor (unit.output settings.options)

/-- The archive entries that a run may read. -/
def wantedEntries (settings : Settings) : List Text :=
  settings.units.map UnitId.fileName

end Rethrow.Command
