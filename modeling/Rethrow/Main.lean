import Rethrow.Archive.Zip
import Rethrow.Command.Reach

/-!
# The command

Shows a run the part of the disk that it may look at, and carries out what it leaves: the
changes, the lines of the log, and the exit code.
-/

namespace Rethrow.Main

/-- The place that a path leads to, links left aside. -/
def placeOf (here : Place) (path : Path) : Place :=
  path.steps.foldl (fun place step => step.follow place) (if path.isAbsolute then [] else here)

/-- What stands at a path; of an archive, the wanted entries. -/
def look (wanted : List Text) (path : Path) : IO (Option Entry) := do
  let name := String.ofList path.text
  try
    let bytes ← IO.FS.readBinFile name
    return some (.file (Zip.content bytes fun entry => wanted.contains entry))
  catch _ =>
    try
      let _ ← IO.FS.Handle.mk (name ++ "/.") .read
      return some .directory
    catch _ => return none

/-- The disk as far as some paths and those that lead to them show it. -/
def observe (here : Place) (wanted : List Text) (paths : List Path) : IO Disk := do
  let mut disk : Disk := { here }
  for path in paths do
    for step in path.ancestors.reverse do
      let place := placeOf here step
      if (disk.entryAt place).isNone then
        match ← look wanted step with
        | some entry => disk := disk.put place entry
        | none => pure ()
  return disk

/-- The name of a place, relative to the directory of the run if it is below it. -/
def nameOf (here place : Place) : String :=
  let names := Text.joinWith ['/']
  if here.isPrefixOf place then String.ofList (names (place.drop here.length))
  else String.ofList ('/' :: names place)

/-- Carries out the changes that a run made, directories before what is in them. -/
def carryOut (before after : Disk) : IO Unit := do
  let changes := (before.changes after).mergeSort fun a b => a.1.length ≤ b.1.length
  for (place, entry) in changes do
    let name := nameOf after.here place
    match entry with
    | .directory => IO.FS.createDir name
    | .file (.text content) => IO.FS.writeFile name (String.ofList content)
    | .file _ => pure ()

/-- The environment of the process. -/
def environment : IO Environment := do
  let value (name : String) : IO (Option Text) := do
    return (← IO.getEnv name).map String.toList
  return {
    home := ← value "HOME"
    configHome := ← value "XDG_CONFIG_HOME"
    jdkHome := ← value "JDK_HOME"
    logFilter := ← value "RUST_LOG" }

/-- A short reminder of the switches. -/
def usage : String :=
  "Usage: cew [-c FILE] [--class UNIT]... [--source PATH]... [-o PATH] [--prefix TEXT]\n" ++
  "           [--suffix TEXT] [--unchecked-type TYPE] [--message TEXT] [--jdk-home PATH]\n" ++
  "           [--fail-fast] [-j COUNT] [-v]... [-q]"

/-- Prints what a run reports. -/
def tell (report : Command.Report) : IO Unit := do
  for line in report.log do
    IO.eprintln (String.ofList line.render)
  if let some e := report.error then
    IO.eprintln ("Error: " ++ String.ofList e.summary)
    for cause in e.statements.tail do
      IO.eprintln ("\nCaused by:\n    " ++ String.ofList cause)

/-- The disk that the run of some arguments needs. -/
def diskFor (here : Place) (env : Environment) (arguments : Command.Arguments) : IO Disk := do
  let files := Command.settingsReach env arguments
  let disk ← observe here [] files
  match Command.settings disk env arguments with
  | .error _ => return disk
  | .ok settings =>
    observe here (Command.wantedEntries settings)
      (files ++ Command.sourceReach settings ++ Command.outputReach settings)

end Rethrow.Main

open Rethrow Rethrow.Main in
/-- Runs the command. -/
def main (line : List String) : IO UInt32 := do
  let line := line.map String.toList
  match Command.Arguments.read line with
  | .error .help =>
    IO.println usage
    return 0
  | .error .misuse =>
    IO.eprintln usage
    return Command.misuseCode.toUInt32
  | .ok arguments =>
    let directory := (← IO.getEnv "PWD").getD "/"
    let here := placeOf [] { text := directory.toList }
    let env ← environment
    let disk ← diskFor here env arguments
    let report := Command.run disk env line
    carryOut disk report.disk
    tell report
    return report.code.toUInt32
