import Rethrow.Archive.Open
import Rethrow.UnitId

/-!
# Sources

A unit is looked up in a chain of sources, in order, and the first answer counts, be it a
text or a failure. A source is a directory or an archive. Which of the two is decided once,
when its location joins the chain.

An archive is opened at its first use and kept open from then on, whatever is put in its place
later. A failed opening leaves the source as it was, so the next lookup tries again.
-/

namespace Rethrow

/-- Where units are looked up. -/
inductive Source where
  | directory (root : Path)
  /-- The archive in a file, and that archive once it is open. -/
  | archive (path : Path) (opened : Option Opened)
  deriving DecidableEq, Repr

/-- A lookup that failed. -/
structure ReadFailure where
  location : Path
  /-- The file or archive entry that was looked for. -/
  entry : Text
  cause : DiskError
  deriving DecidableEq, Repr

/-- How a failed lookup is reported. -/
def ReadFailure.message (failure : ReadFailure) : Text :=
  "cannot read ".toList ++ failure.entry ++ " in ".toList ++ failure.location.text

namespace Source

/-- The location of a source. -/
def location : Source → Path
  | .directory root => root
  | .archive path _ => path

/-- The source at a location: a directory if one is there, otherwise an archive. -/
def ofLocation (disk : Disk) (path : Path) : Source :=
  if disk.isDirectory path then .directory path else .archive path none

/-- The failure of looking up a unit in a source. -/
def failure (source : Source) (unit : UnitId) (cause : DiskError) : ReadFailure :=
  { location := source.location, entry := unit.fileName, cause }

/-- The text of a unit below a directory. A missing file is no failure. -/
def readDirectory (disk : Disk) (root : Path) (unit : UnitId) :
    Except DiskError (Option Text) :=
  match disk.readText (root.join unit.relativePath) with
  | .ok text => .ok (some text)
  | .error .missing => .ok none
  | .error e => .error e

/-- The text of a unit in an archive. A missing entry is no failure. -/
def readArchive (archive : Archive) (unit : UnitId) : Except DiskError (Option Text) :=
  match archive.find? unit.fileName with
  | some (.text content) => .ok (some content)
  | some (.binary _) => .error .notText
  | some .damaged => .error .badArchive
  | none => .ok none

/-- The source with its archive opened, if it is one. -/
def opened (disk : Disk) : Source → Except DiskError Source
  | .archive path none => (disk.openArchive path).map fun file => .archive path (some file)
  | source => .ok source

/-- The text of a unit in a source that is open. -/
def readOpened (disk : Disk) (unit : UnitId) : Source → Except DiskError (Option Text)
  | .directory root => readDirectory disk root unit
  | .archive _ (some file) => readArchive file.archive unit
  | .archive _ none => .error .badArchive

/-- Looks a unit up: the source afterwards, and the text if the source has the unit. -/
def read (disk : Disk) (unit : UnitId) (source : Source) :
    Source × Except ReadFailure (Option Text) :=
  match source.opened disk with
  | .error e => (source, .error (source.failure unit e))
  | .ok ready => (ready, (ready.readOpened disk unit).mapError (source.failure unit))

/-- The source after a change of the disk. -/
def after (change : Place → Fate) : Source → Source
  | .archive path opened => .archive path (opened.map (Opened.after change))
  | .directory root => .directory root

end Source

/-- Sources in the order of lookup. -/
abbrev Chain := List Source

namespace Chain

/-- The chain of some locations. -/
def ofLocations (disk : Disk) (locations : List Path) : Chain :=
  locations.map (Source.ofLocation disk)

/-- The chain with one more location at its end. -/
def push (disk : Disk) (path : Path) (chain : Chain) : Chain :=
  chain ++ [Source.ofLocation disk path]

/-- Looks a unit up in each source until one answers. Sources behind it stay as they
are. -/
def read (disk : Disk) (unit : UnitId) : Chain → Chain × Except ReadFailure (Option Text)
  | [] => ([], .ok none)
  | source :: rest =>
    match source.read disk unit with
    | (source, .ok none) =>
      let (rest, answer) := Chain.read disk unit rest
      (source :: rest, answer)
    | (source, answer) => (source :: rest, answer)

/-- The chain after a change of the disk. -/
def after (change : Place → Fate) (chain : Chain) : Chain :=
  chain.map (Source.after change)

end Chain

/-- The source archives that a JDK may come with, below its home. -/
def jdkArchives : List Path :=
  [{ text := "src.zip".toList }, { text := "lib/src.zip".toList }]

/-- The source archives that are there below the home of a JDK. -/
def jdkSources (disk : Disk) (jdkHome : Path) : List Path :=
  (jdkArchives.map jdkHome.join).filter disk.isFile

end Rethrow
