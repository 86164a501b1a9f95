import Rethrow.Failure
import Rethrow.Lookup
import Rethrow.Unit.Layout
import Rethrow.Unit.Reading
import Rethrow.Wrapper.Enhance

/-!
# Batches of units

Each unit of a batch is read from the chain, converted and written below the output
folder. The generated text is complete before anything is written, so a unit that cannot
be read or converted leaves the disk alone.

A batch either attempts every unit and collects the outcomes, or stops at the first
failure. Both are told for one worker, which takes the units in order over one workspace. With
more of them units run beside one another, and neither the order nor what a unit finds of the
files of the others is fixed.
-/

namespace Rethrow

/-- The text of the unchecked variant of a source. -/
def uncheckedSource (options : Options) (unit : UnitId) (source : Text) : Except Failure Text :=
  match CompUnit.read source with
  | .error fault => .error { unit, reason := .malformed fault }
  | .ok tree =>
    let worked := tree.enhance options
    match worked.refusal with
    | some refusal => .error { unit, reason := .refused refusal }
    | none => .ok worked.value.render

/-- What the units of a batch share. -/
structure Job where
  options : Options
  folder : Folder
  deriving DecidableEq, Repr

/-- The outcome of one unit: the identifier of the generated unit, or the failure. -/
abbrev Outcome := Except Failure UnitId

namespace Job

/-- Reads the source of a unit. -/
def read (space : Workspace) (unit : UnitId) : Workspace × Except Failure Text :=
  let (chain, answer) := Chain.read space.disk unit space.chain
  ({ space with chain },
    match answer with
    | .ok (some source) => .ok source
    | .ok none => .error { unit, reason := .sourceMissing }
    | .error e => .error { unit, reason := .unreadable e.location e.cause })

/-- Writes the generated text of a unit. A file that was there is written over, so an archive that
is open in it loses its entries. -/
def write (job : Job) (space : Workspace) (unit : UnitId) (content : Text) :
    Workspace × Outcome :=
  let output := unit.output job.options
  match job.folder.write space.disk output content with
  | (disk, .ok path) => ({ disk, chain := space.chain.after (disk.writing path) }, .ok output)
  | (disk, .error e) => ({ space with disk }, .error { unit, reason := .unwritable e })

/-- Reads, converts and writes one unit. -/
def transform (job : Job) (space : Workspace) (unit : UnitId) : Workspace × Outcome :=
  match Job.read space unit with
  | (space, .error e) => (space, .error e)
  | (space, .ok source) =>
    match uncheckedSource job.options unit source with
    | .error e => (space, .error e)
    | .ok content => job.write space unit content

/-- Attempts every unit in order. -/
def transformAll (job : Job) (space : Workspace) : List UnitId → Workspace × List Outcome
  | [] => (space, [])
  | unit :: rest =>
    let (space, outcome) := job.transform space unit
    let (space, outcomes) := job.transformAll space rest
    (space, outcome :: outcomes)

/-- Transforms units in order until one fails. -/
def transformUntilFailure (job : Job) (space : Workspace) :
    List UnitId → Workspace × Except Failure (List UnitId)
  | [] => (space, .ok [])
  | unit :: rest =>
    match job.transform space unit with
    | (space, .error e) => (space, .error e)
    | (space, .ok output) =>
      let (space, outputs) := job.transformUntilFailure space rest
      (space, outputs.map (output :: ·))

end Job

end Rethrow
