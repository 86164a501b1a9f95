import Rethrow.Source

/-!
# Runs of lookups

A chain serves many lookups while the disk changes under it. A run is a list of steps: units are
read, locations join the chain, entries of the disk come and go, and files are written. A change
of the disk reaches the chain through the archives that it has open.
-/

namespace Rethrow

/-- A disk and the chain that looks units up on it. -/
structure Workspace where
  disk : Disk
  chain : Chain
  deriving DecidableEq, Repr

/-- A step of a run of lookups. -/
inductive LookupStep where
  | read (unit : UnitId)
  /-- Adds a location at the end of the chain. -/
  | push (path : Path)
  /-- Puts a new entry below the directory of the run. -/
  | put (names : List Text) (entry : Entry)
  /-- Removes an entry below the directory of the run and all that is in it. -/
  | remove (names : List Text)
  /-- Writes a text into the file at a path, which is made if nothing is there. -/
  | write (path : Path) (content : Text)
  deriving DecidableEq, Repr

/-- What a lookup answers: the text of the unit if a source has it. -/
abbrev Answer := Except ReadFailure (Option Text)

namespace LookupStep

/-- The disk after a step. -/
def change (disk : Disk) : LookupStep → Disk
  | .read _ => disk
  | .push _ => disk
  | .put names entry => disk.install names entry
  | .remove names => disk.remove (disk.here ++ names)
  | .write path content => (disk.writeText path content).toOption.getD disk

/-- What a step means for the file at a place. -/
def fate (disk : Disk) (step : LookupStep) (place : Place) : Fate :=
  match step with
  | .read _ => .same
  | .push _ => .same
  | .put names entry =>
    let target := disk.here ++ names
    if disk.isSettled target entry then .same
    else if place.isPrefixOf target || target.isPrefixOf place then .gone
    else .same
  | .remove names => if (disk.here ++ names).isPrefixOf place then .gone else .same
  | .write path content =>
    match disk.writeText path content with
    | .ok _ => disk.writing path place
    | .error _ => .same

/-- The workspace after a step, and the answer if the step reads a unit. -/
def run (space : Workspace) (step : LookupStep) : Workspace × Option Answer :=
  match step with
  | .read unit =>
    let (chain, answer) := Chain.read space.disk unit space.chain
    ({ space with chain }, some answer)
  | .push path => ({ space with chain := Chain.push space.disk path space.chain }, none)
  | step =>
    ({ disk := step.change space.disk, chain := space.chain.after (step.fate space.disk) }, none)

/-- The workspace after some steps, and the answers of those that read units. -/
def runAll (space : Workspace) : List LookupStep → Workspace × List Answer
  | [] => (space, [])
  | step :: rest =>
    let (space, answer) := step.run space
    let (space, answers) := runAll space rest
    (space, answer.toList ++ answers)

end LookupStep

end Rethrow
