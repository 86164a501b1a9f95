import Rethrow.Disk.Path

/-!
# Disks

A disk is a value: a finite map from places to entries. A place is the list of names that
lead to it from the root, so two paths mean the same entry exactly when they lead to the
same place. Changing a disk gives a new one, and every rule on runs is a statement about
the disks before and after.

The directory of the run and those above it are always there.

Any text may be a name here. A system refuses some for themselves, those with a null character
in them and those of more than 255 bytes, and it bounds the length of paths; what is said of
disks is said of names and paths that the system takes.
-/

namespace Rethrow

/-- Why the disk refused an access. -/
inductive DiskError where
  /-- Nothing is there. -/
  | missing
  /-- A file stands where the path needs a directory. -/
  | notDirectory
  /-- A directory stands where a file is needed. -/
  | isDirectory
  /-- Something stands where a directory is to be made. -/
  | alreadyThere
  /-- The bytes are not a text in UTF-8. -/
  | notText
  /-- The file is no archive, or an entry of it is damaged. -/
  | badArchive
  deriving DecidableEq, Repr

/-- How a refusal is reported. -/
def DiskError.message : DiskError → Text
  | .missing => "No such file or directory (os error 2)".toList
  | .notDirectory => "Not a directory (os error 20)".toList
  | .isDirectory => "Is a directory (os error 21)".toList
  | .alreadyThere => "File exists (os error 17)".toList
  | .notText => "stream did not contain valid UTF-8".toList
  | .badArchive => "invalid Zip archive".toList

/-- What an archive holds under a name. -/
inductive Stored where
  | text (content : Text)
  /-- Bytes that are not a text. -/
  | binary (bytes : List UInt8)
  /-- Cannot be unpacked. -/
  | damaged
  deriving DecidableEq, Repr

/-- Stored bytes: a text if they are one in UTF-8. -/
def Stored.ofBytes (bytes : List UInt8) : Stored :=
  match Text.ofBytes? bytes with
  | some content => .text content
  | none => .binary bytes

/-- An archive: names with what is stored under them. -/
structure Archive where
  stored : List (Text × Stored)
  deriving DecidableEq, Repr

namespace Archive

/-- What an archive holds under a name; of equal names the last counts. -/
def find? (archive : Archive) (name : Text) : Option Stored :=
  archive.stored.reverse.lookup name

/-- The record that every archive ends with, of one that has no entries. -/
def endRecord : Text :=
  "PK\x05\x06".toList ++ List.replicate 18 '\x00'

/-- The text that the bytes of an archive are if nothing else is known of them: only those
without entries are one. -/
def asText (archive : Archive) : Option Text :=
  if archive.stored.isEmpty then some endRecord else none

end Archive

/-- The content of a file. -/
inductive Content where
  | text (content : Text)
  /-- Bytes that are neither a text nor an archive. -/
  | binary (bytes : List UInt8)
  /-- An archive, and the text that its bytes are, if they are one. -/
  | archive (archive : Archive) (asText : Option Text := archive.asText)
  deriving DecidableEq, Repr

/-- The text that the bytes of a file are. -/
def Content.text? : Content → Option Text
  | .text content => some content
  | .binary _ => none
  | .archive _ asText => asText

/-- The content of a file that is no archive: a text if its bytes are one in UTF-8. -/
def Content.ofBytes (bytes : List UInt8) : Content :=
  match Text.ofBytes? bytes with
  | some content => .text content
  | none => .binary bytes

/-- An entry of a disk. -/
inductive Entry where
  | directory
  | file (content : Content)
  deriving DecidableEq, Repr

/-- A place on a disk: the names that lead to it from the root. -/
abbrev Place := List Text

/-- A disk and the directory of the run on it. -/
structure Disk where
  /-- Where relative paths start. -/
  here : Place := []
  entries : List (Place × Entry) := []
  deriving DecidableEq, Repr

namespace Disk

/-- What stands at a place. -/
def entryAt (disk : Disk) (place : Place) : Option Entry :=
  if place.isPrefixOf disk.here then some .directory else disk.entries.lookup place

/-- The disk with an entry put at a place. -/
def put (disk : Disk) (place : Place) (entry : Entry) : Disk :=
  { disk with entries := (place, entry) :: disk.entries.filter fun old => old.1 ≠ place }

/-- The disk without a place and all that is below it. -/
def remove (disk : Disk) (place : Place) : Disk :=
  { disk with entries := disk.entries.filter fun old => !place.isPrefixOf old.1 }

/-- The disk with directories at the places on the way from `base` along some names. -/
def putWay (disk : Disk) (base : Place) : List Text → Disk
  | [] => disk
  | name :: rest =>
    let place := base ++ [name]
    match disk.entryAt place with
    | some .directory => disk.putWay place rest
    | _ => (disk.put place .directory).putWay place rest

/-- Whether nothing changes when an entry is put at a place: a directory that is put again keeps
what is in it, and the directory of the run stays where it is. -/
def isSettled (disk : Disk) (place : Place) (entry : Entry) : Bool :=
  place = disk.here || (entry = .directory && disk.entryAt place = some .directory)

/-- The disk with an entry below the directory of the run, and directories that lead to it. What is
in the way is removed: files on the way, and what stood at the place with all that was below. -/
def install (disk : Disk) (names : List Text) (entry : Entry) : Disk :=
  let place := disk.here ++ names
  if disk.isSettled place entry then disk
  else ((disk.putWay disk.here names.dropLast).remove place).put place entry

/-- The entries of `after` that `before` does not have: new or changed files and new
directories. -/
def changes (before after : Disk) : List (Place × Entry) :=
  after.entries.filter fun new => before.entryAt new.1 ≠ some new.2

/-- Entries dropped by their place do not matter for a place that is kept. -/
theorem lookup_filter (keep : Place → Bool) {other : Place} (kept : keep other)
    (entries : List (Place × Entry)) :
    (entries.filter fun old => keep old.1).lookup other = entries.lookup other := by
  induction entries with
  | nil => rfl
  | cons head rest ih =>
    obtain ⟨key, entry⟩ := head
    rw [List.filter_cons]
    by_cases same : other = key
    · subst same
      rw [if_pos kept, List.lookup_cons, List.lookup_cons, ih]
    · have differs : (other == key) = false := by simpa using same
      split <;> simp only [List.lookup_cons, differs, ih]

/-- Putting an entry changes no other place. -/
theorem entryAt_put_of_ne (disk : Disk) {place other : Place} (entry : Entry)
    (h : other ≠ place) : (disk.put place entry).entryAt other = disk.entryAt other := by
  have differs : (other == place) = false := by simpa using h
  have kept := lookup_filter (· ≠ place) (by simpa using h) disk.entries
  simp only [entryAt, put, List.lookup_cons, differs, kept]

/-- An entry that is put is there, unless the place leads to the directory of the run. -/
theorem entryAt_put_self (disk : Disk) {place : Place} (entry : Entry)
    (h : place.isPrefixOf disk.here = false) :
    (disk.put place entry).entryAt place = some entry := by
  simp [entryAt, put, h]

end Disk

end Rethrow
