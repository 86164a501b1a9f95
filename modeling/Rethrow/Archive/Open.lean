import Rethrow.Archive.Zip
import Rethrow.Disk.Access

/-!
# Open archives

An archive that is opened keeps its file and its directory, but no entries: an entry is read from
the file whenever it is asked for. So what becomes of the file decides what the archive still
answers. Removing it or putting another one in its place changes nothing for an archive that has
it open. Writing a text into it does: the directory then leads to bytes that are no entries, so
the names that it has can be found but not read.

A disk knows files by their places alone. An open file is followed by the place where it stands,
and it stands nowhere once it was removed or another one was put there.
-/

namespace Rethrow

/-- The archive that the bytes of a file are. -/
def Content.archive? : Content → Option Archive
  | .text content => Zip.read? content.toBytes fun _ => true
  | .binary _ => none
  | .archive held _ => some held

/-- The two forms of an archive without entries are read alike. -/
example : Content.archive? (.text Archive.endRecord) = some { stored := [] } := by
  decide +kernel

/-- What is found in an archive whose file a text was written into: the text is taken to have no
entry where the directory leads to. Entries without bytes, which lead to nothing, are not told
apart. -/
def Archive.overwritten (archive : Archive) : Archive where
  stored := archive.stored.map fun entry => (entry.1, .damaged)

/-- What a change of the disk means for the file at a place. -/
inductive Fate where
  | same
  /-- A text was written into it. -/
  | overwritten
  /-- It was removed, or something else was put in its place. -/
  | gone
  deriving DecidableEq, Repr

/-- An archive that is open. -/
structure Opened where
  /-- Where its file stands, if it stands anywhere. -/
  place : Option Place
  /-- What is found in the file under the names of its directory. -/
  archive : Archive
  deriving DecidableEq, Repr

namespace Opened

/-- What a change of the disk means for an open archive. -/
def fate (change : Place → Fate) (opened : Opened) : Fate :=
  (opened.place.map change).getD .same

/-- An open archive after a change of the disk. -/
def after (change : Place → Fate) (opened : Opened) : Opened :=
  match opened.fate change with
  | .same => opened
  | .overwritten => { opened with archive := opened.archive.overwritten }
  | .gone => { opened with place := none }

end Opened

namespace Disk

/-- Opens the archive in a file. -/
def openArchive (disk : Disk) (path : Path) : Except DiskError Opened :=
  match disk.stat path with
  | .ok .directory => .error .badArchive
  | .ok (.file content) =>
    match content.archive? with
    | some archive => .ok { place := (disk.locate path).toOption, archive }
    | none => .error .badArchive
  | .error e => .error e

/-- What writing a text into the file at a path means for the file at a place. -/
def writing (disk : Disk) (path : Path) (place : Place) : Fate :=
  if (disk.locate path).toOption = some place then .overwritten else .same

end Disk

end Rethrow
