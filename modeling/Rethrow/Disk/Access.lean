import Rethrow.Disk.Basic

/-!
# Access to a disk by path

A path is followed step by step, and each step needs a directory to start from. A path
that leads through a missing entry is missing; one that leads through a file is refused as
no directory. The entry at the end of the way need not be there: making a directory and
writing a file create it.

Making a directory with all those above it tries the innermost one first and goes up only
as long as something is missing, so nothing is made when a file is in the way.
-/

namespace Rethrow

/-- The place one step away. -/
def Path.Step.follow (place : Place) : Path.Step → Place
  | .stay => place
  | .up => place.dropLast
  | .down name => place ++ [name]

namespace Disk

/-- Demands that a directory is at a place. -/
def demandDirectory (disk : Disk) (place : Place) : Except DiskError Unit :=
  match disk.entryAt place with
  | some .directory => .ok ()
  | some (.file _) => .error .notDirectory
  | none => .error .missing

/-- The place at the end of some steps. -/
def walk (disk : Disk) : Place → List Path.Step → Except DiskError Place
  | place, [] => .ok place
  | place, step :: rest =>
    match disk.demandDirectory place with
    | .ok () => disk.walk (step.follow place) rest
    | .error e => .error e

/-- The place a path leads to. -/
def locate (disk : Disk) (path : Path) : Except DiskError Place :=
  if path.text.isEmpty then .error .missing
  else disk.walk (if path.isAbsolute then [] else disk.here) path.steps

/-- The entry a path leads to. -/
def stat (disk : Disk) (path : Path) : Except DiskError Entry :=
  match disk.locate path with
  | .ok place =>
    match disk.entryAt place with
    | some entry => .ok entry
    | none => .error .missing
  | .error e => .error e

/-- Whether a path leads to an entry. -/
def exists? (disk : Disk) (path : Path) : Bool :=
  match disk.stat path with
  | .ok _ => true
  | .error _ => false

/-- Whether a path leads to a directory. -/
def isDirectory (disk : Disk) (path : Path) : Bool :=
  match disk.stat path with
  | .ok .directory => true
  | _ => false

/-- Whether a path leads to a file. -/
def isFile (disk : Disk) (path : Path) : Bool :=
  match disk.stat path with
  | .ok (.file _) => true
  | _ => false

/-- The text of a file. -/
def readText (disk : Disk) (path : Path) : Except DiskError Text :=
  match disk.stat path with
  | .ok .directory => .error .isDirectory
  | .ok (.file content) =>
    match content.text? with
    | some text => .ok text
    | none => .error .notText
  | .error e => .error e

/-- The disk with a new directory. -/
def makeDirectory (disk : Disk) (path : Path) : Except DiskError Disk :=
  match disk.locate path with
  | .ok place =>
    match disk.entryAt place with
    | some _ => .error .alreadyThere
    | none => .ok (disk.put place .directory)
  | .error e => .error e

/-- What is left of a refusal to make a directory: nothing if one is there already. -/
def settle (disk : Disk) (path : Path) (e : DiskError) : Except DiskError Unit :=
  if disk.isDirectory path then .ok () else .error e

/-- Makes a directory and those above it, as far as they are missing. The paths are those
of `Path.ancestors`. -/
def makeDirectories (disk : Disk) : List Path → Disk × Except DiskError Unit
  | [] => (disk, .ok ())
  | path :: above =>
    match disk.makeDirectory path with
    | .ok made => (made, .ok ())
    | .error .missing =>
      match disk.makeDirectories above with
      | (disk, .ok ()) =>
        match disk.makeDirectory path with
        | .ok made => (made, .ok ())
        | .error e => (disk, disk.settle path e)
      | (disk, .error e) => (disk, .error e)
    | .error e => (disk, disk.settle path e)

/-- The disk with a file of the given text, in place of the file that was there. -/
def writeText (disk : Disk) (path : Path) (content : Text) : Except DiskError Disk :=
  match disk.locate path with
  | .ok place =>
    match disk.entryAt place with
    | some .directory => .error .isDirectory
    | _ => .ok (disk.put place (.file (.text content)))
  | .error e => .error e

end Disk

end Rethrow
