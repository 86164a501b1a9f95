import Rethrow.Settings.Basic

/-!
# Where settings come from

A settings file that is named has to be there. Otherwise the first file counts that is
found of two: the one in the directory of the run and the user's own. Without either,
every setting has its default.
-/

namespace Rethrow

/-- What a run takes from its environment. -/
structure Environment where
  home : Option Text := none
  configHome : Option Text := none
  jdkHome : Option Text := none
  logFilter : Option Text := none
  /-- Whether the system can start the workers that a number asks for. -/
  startsWorkers : Nat → Bool := fun _ => true

namespace Settings

/-- The name of a settings file. -/
def fileName : Path := { text := "cew.toml".toList }

end Settings

namespace Environment

/-- The directory of the user's configuration: an absolute path that the environment
gives, or else one below the home directory. -/
def configDirectory? (env : Environment) : Option Path :=
  let given : Option Path := env.configHome.map fun t => { text := t }
  match given.filter Path.isAbsolute with
  | some path => some path
  | none => env.home.map fun t => ({ text := t } : Path).join { text := ".config/".toList }

/-- The user's own settings file. -/
def userSettings? (env : Environment) : Option Path :=
  env.configDirectory?.map fun path =>
    (path.join { text := "cew".toList }).join Settings.fileName

end Environment

namespace Settings

/-- The settings file that is found when none is named. -/
def found? (disk : Disk) (env : Environment) : Option Path :=
  (Settings.fileName :: env.userSettings?.toList).find? disk.isFile

/-- The settings of a run, before its command line is taken into account. -/
def load (disk : Disk) (env : Environment) (named : Option Path) :
    Except SettingsError Settings :=
  match named.or (found? disk env) with
  | some path => ofFile disk path
  | none => .ok {}

end Settings

end Rethrow
