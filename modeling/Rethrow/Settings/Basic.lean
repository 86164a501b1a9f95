import Rethrow.Settings.Document
import Rethrow.Source
import Rethrow.Wrapper.Options

/-!
# Settings

The settings of a run: the classes to wrap, where their sources are, how the generated
types look, and where they go. A settings file gives each of them at most once, under a
fixed key and with a value of a fixed kind; a key that is not known, or given twice, makes
the file invalid.
-/

namespace Rethrow

/-- The settings of a run. -/
structure Settings where
  /-- The classes to wrap, each once. -/
  classes : List Text := []
  outputFolder : Option Path := none
  options : Options := {}
  /-- Where sources are looked up, in order. -/
  sourcePaths : List Path := []
  /-- The JDK whose sources are looked up last. -/
  jdkHome : Option Path := none
  failFast : Bool := false
  deriving DecidableEq, Repr

/-- Why settings cannot be used. -/
inductive SettingsError where
  | unreadable (path : Path)
  /-- The text of the settings is invalid; `file` is where it came from. -/
  | invalid (file : Option Path)
  | noOutputFolder
  /-- The workers that were asked for cannot be started. -/
  | noWorkers
  deriving DecidableEq, Repr

namespace SettingsError

/-- How an error is reported, from the outermost statement inwards. -/
def statements : SettingsError → List Text
  | .unreadable path => ["cannot read configuration ".toList ++ path.text]
  | .invalid none => ["invalid configuration".toList]
  | .invalid (some path) => ["in ".toList ++ path.text, "invalid configuration".toList]
  | .noOutputFolder =>
    ["no output folder configured (set `outputFolder` or pass --output)".toList]
  | .noWorkers => ["failed to configure the worker pool".toList]

/-- The outermost statement of an error. -/
def summary (e : SettingsError) : Text :=
  e.statements.headD []

/-- All statements of an error. -/
def message (e : SettingsError) : Text :=
  Text.joinWith ": ".toList e.statements

end SettingsError

namespace Settings

/-- A list with each member kept at its first occurrence only. -/
def distinct (names : List Text) : List Text :=
  names.foldl (fun kept name => if name ∈ kept then kept else kept ++ [name]) []

/-- The settings with one more taken from a file. -/
def take? (settings : Settings) (key : Text) (value : Value) : Option Settings :=
  let options := settings.options
  match String.ofList key, value with
  | "classes", .texts names => some { settings with classes := distinct names }
  | "outputFolder", .text t => some { settings with outputFolder := some { text := t } }
  | "generatedNamePrefix", .text t =>
    some { settings with options := { options with namePrefix := t } }
  | "generatedNameSuffix", .text t =>
    some { settings with options := { options with nameSuffix := t } }
  | "uncheckedFailureType", .text t =>
    some { settings with options := { options with uncheckedType := t } }
  | "failureMessage", .text t => some { settings with options := { options with message := t } }
  | "sourcePaths", .texts ts =>
    some { settings with sourcePaths := ts.map fun t => { text := t } }
  | "jdkHome", .text t => some { settings with jdkHome := some { text := t } }
  | "failFast", .flag on => some { settings with failFast := on }
  | _, _ => none

/-- The settings that the lines of a file give, on top of others. -/
def takeAll? (settings : Settings) : List (Text × Value) → Option Settings
  | [] => some settings
  | (key, value) :: rest => do
    let settings ← settings.take? key value
    settings.takeAll? rest

/-- The settings of a text. -/
def ofText (text : Text) : Except SettingsError Settings :=
  let found := do
    let lines ← readDocument? text
    if (lines.map (·.1)).Nodup then ({} : Settings).takeAll? lines else none
  match found with
  | some settings => .ok settings
  | none => .error (.invalid none)

/-- The settings of a file. -/
def ofFile (disk : Disk) (path : Path) : Except SettingsError Settings :=
  match disk.readText path with
  | .error _ => .error (.unreadable path)
  | .ok text => (ofText text).mapError fun _ => .invalid (some path)

/-- The units to process. -/
def units (settings : Settings) : List UnitId :=
  settings.classes.map fun name => { text := name }

/-- Where sources are looked up: the given paths, then the archives of the JDK. -/
def sourceLocations (settings : Settings) (disk : Disk) : List Path :=
  settings.sourcePaths ++ (settings.jdkHome.map (jdkSources disk)).getD []

/-- The output folder, which has to be given. -/
def requireOutputFolder (settings : Settings) : Except SettingsError Path :=
  match settings.outputFolder with
  | some path => .ok path
  | none => .error .noOutputFolder

/-- The settings with the JDK of the environment, unless they name one. -/
def withJdkHome (settings : Settings) (value : Option Text) : Settings :=
  match settings.jdkHome, value with
  | none, some (c :: rest) => { settings with jdkHome := some { text := c :: rest } }
  | _, _ => settings

end Settings

end Rethrow
