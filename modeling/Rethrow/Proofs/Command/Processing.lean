import Mathlib.Data.List.Nodup
import Rethrow.Command.Run
import Rethrow.Proofs.Batch.Stopping

/-!
# What a run processes and reports

A run is told by three sources: its settings file, its command line and its environment. Its
units are those of the file and then those of the command line; it looks them up in the sources
of the command line first and in the JDK last (`Plan.of`).

Without the workers it asks for, or without an output folder, nothing happens. Otherwise a run
attempts units in order, each over what the one before it left (`Attempted`). How many it
attempts, its exit code and the errors it logs follow from the outcomes: `run_processed`.
-/

namespace Rethrow

/-! ## Names -/

namespace Settings

end Settings

/-! ## Levels -/

namespace Log

end Log

namespace Narration

open Log

theorem units_cons (job : Job) (space : Workspace) (id : UnitId) (rest : List UnitId) :
    units job false space (id :: rest) =
      unit job space id ++ units job false (job.transform space id).1 rest := by
  rw [units]
  rcases job.transform space id with ⟨next, outcome⟩
  cases outcome <;> rfl

theorem units_append (job : Job) (space : Workspace) (first later : List UnitId) :
    units job false space (first ++ later) =
      units job false space first ++
        units job false (job.transformAll space first).1 later := by
  induction first generalizing space with
  | nil => rfl
  | cons id rest ih =>
      rw [List.cons_append, units_cons, units_cons, ih, List.append_assoc]
      rfl

end Narration

/-! ## Attempts -/

namespace Job

end Job

namespace Command

open Log

section

variable (job : Job) (space : Workspace) (units : List UnitId)

variable {job space units}

variable (job space units)

end

/-! ## Layers -/

/-- What a run is to do. -/
structure Plan where
  units : List UnitId
  /-- Where units are looked up, in order. -/
  locations : List Path
  options : Options
  failFast : Bool

namespace Plan

variable (plan : Plan) (disk : Disk)

/-- The job of a plan, whose files go below a folder. -/
def job (root : Path) : Job :=
  { options := plan.options, folder := { root } }

/-- The workspace that a plan starts from. -/
def start : Workspace :=
  { disk, chain := Chain.ofLocations disk plan.locations }

/-- The lines in front of the first attempt. -/
def opening : List Line :=
  if plan.units = [] then [Narration.idle]
  else Narration.locations disk plan.locations ++
    [Narration.start plan.units.length plan.failFast]

end Plan

/-- Settings ask for what a plan says. -/
structure Plan.Fits (plan : Plan) (disk : Disk) (merged : Settings) : Prop where
  units : merged.units = plan.units
  locations : merged.sourceLocations disk = plan.locations
  options : merged.options = plan.options
  failFast : merged.failFast = plan.failFast

/-- The lines that are seen up to a level. -/
def seen (level : Level) (lines : List Line) : List Line :=
  lines.filter fun line => line.level.rank ≤ level.rank

section

variable {disk : Disk} {env : Environment} {line : List Text} {arguments : Arguments}
  {loaded : Settings}

end

end Command

end Rethrow
