import Rethrow.Command.Arguments
import Rethrow.Log.Filter
import Rethrow.Narration

/-!
# Runs

A run reads its command line, starts the workers it asks for, loads its settings, and
transforms the units they name. What it leaves is the disk, an exit code, the lines it logged,
and the error that kept it from starting, if one did.

The batch of a run is that of one worker, whatever number of them is asked for.
-/

namespace Rethrow.Command

/-- What a run leaves. -/
structure Report where
  disk : Disk
  code : Nat
  log : List Log.Line := []
  error : Option SettingsError := none
  deriving DecidableEq, Repr

/-- The exit code of a run in which something failed. -/
def failureCode : Nat := 1

/-- The exit code of a malformed command line. -/
def misuseCode : Nat := 2

/-- The settings of a run: those of a file, then the command line, then the
environment. -/
def settings (disk : Disk) (env : Environment) (arguments : Arguments) :
    Except SettingsError Settings :=
  (Settings.load disk env arguments.config).map fun loaded =>
    (arguments.applyTo loaded).withJdkHome env.jdkHome

/-- Runs units until one fails. -/
def runUntilFailure (job : Job) (space : Workspace) (units : List UnitId) : Report :=
  let told := Narration.units job true space units
  match job.transformUntilFailure space units with
  | (space, .ok _) => { disk := space.disk, code := 0, log := told }
  | (space, .error e) =>
    { disk := space.disk, code := failureCode, log := told ++ [Narration.failure e] }

/-- The failures among outcomes. -/
def failures (outcomes : List Outcome) : List Failure :=
  outcomes.filterMap fun
    | .ok _ => none
    | .error e => some e

/-- Runs all units. -/
def runAll (job : Job) (space : Workspace) (units : List UnitId) : Report :=
  let told := Narration.units job false space units
  let (space, outcomes) := job.transformAll space units
  match failures outcomes with
  | [] => { disk := space.disk, code := 0, log := told }
  | failed =>
    { disk := space.disk, code := failureCode
      log := told ++ failed.map Narration.failure ++
        [Narration.summary failed.length units.length] }

/-- The run that settings ask for, with all lines. -/
def runSettings (disk : Disk) (settings : Settings) : Report :=
  match settings.requireOutputFolder with
  | .error e => { disk, code := failureCode, error := some e }
  | .ok root =>
    match settings.units with
    | [] => { disk, code := 0, log := [Narration.idle] }
    | units =>
      let locations := settings.sourceLocations disk
      let space : Workspace := { disk, chain := Chain.ofLocations disk locations }
      let job : Job := { options := settings.options, folder := { root } }
      let report :=
        if settings.failFast then runUntilFailure job space units else runAll job space units
      { report with
        log := Narration.locations disk locations ++
          Narration.start units.length settings.failFast :: report.log }

/-- Whether a run gets the workers that it asks for, if it asks for any. -/
def hasWorkers (env : Environment) (arguments : Arguments) : Bool :=
  arguments.jobs.all env.startsWorkers

/-- The run that arguments ask for, with all lines. -/
def runArguments (disk : Disk) (env : Environment) (arguments : Arguments) : Report :=
  let told := Narration.settings disk env arguments.config
  if !hasWorkers env arguments then
    { disk, code := failureCode, error := some .noWorkers }
  else
    match settings disk env arguments with
    | .error e => { disk, code := failureCode, log := told, error := some e }
    | .ok settings =>
      let report := runSettings disk settings
      { report with log := told ++ report.log }

/-- The filter of a run's log. -/
def logFilter (env : Environment) (arguments : Arguments) : Log.Filter :=
  let base := Log.Filter.upTo arguments.logLevel
  match env.logFilter with
  | some specification => base.refine specification
  | none => base

/-- A run, with the lines that are to be seen. -/
def run (disk : Disk) (env : Environment) (line : List Text) : Report :=
  match Arguments.read line with
  | .error .misuse => { disk, code := misuseCode }
  | .error .help => { disk, code := 0 }
  | .ok arguments =>
    let report := runArguments disk env arguments
    { report with log := report.log.filter (logFilter env arguments).admits }

end Rethrow.Command
