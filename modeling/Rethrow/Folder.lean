import Rethrow.Disk.Access
import Rethrow.UnitId

/-!
# Output folders

A generated unit is written below a folder, at the path its identifier gives. Directories
on the way are made as needed.
-/

namespace Rethrow

/-- A text that could not be written. -/
structure WriteFailure where
  /-- The file, or its directory if that could not be made. -/
  path : Path
  cause : DiskError
  deriving DecidableEq, Repr

/-- How a failed write is reported. -/
def WriteFailure.message (failure : WriteFailure) : Text :=
  "cannot write file ".toList ++ failure.path.text

/-- A folder for generated units. -/
structure Folder where
  root : Path
  deriving DecidableEq, Repr

namespace Folder

/-- Where a unit is written. -/
def pathFor (folder : Folder) (unit : UnitId) : Path :=
  folder.root.join unit.relativePath

/-- Makes the directory of a file. -/
def prepare (disk : Disk) (path : Path) : Disk × Except WriteFailure Unit :=
  match path.ancestors.tail with
  | [] => (disk, .ok ())
  | parent :: above =>
    let (disk, made) := disk.makeDirectories (parent :: above)
    (disk, made.mapError fun cause => { path := parent, cause })

/-- Writes a unit: the disk afterwards, and the path of the file. -/
def write (folder : Folder) (disk : Disk) (unit : UnitId) (content : Text) :
    Disk × Except WriteFailure Path :=
  let path := folder.pathFor unit
  match prepare disk path with
  | (disk, .error failure) => (disk, .error failure)
  | (disk, .ok ()) =>
    match disk.writeText path content with
    | .ok written => (written, .ok path)
    | .error cause => (disk, .error { path, cause })

end Folder

end Rethrow
