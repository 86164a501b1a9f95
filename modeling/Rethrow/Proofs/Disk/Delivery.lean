import Rethrow.Folder
import Rethrow.Proofs.Disk.Making

/-!
# Delivering a file

A write makes the directory of the file and then the file. If a file is in the way of the
directory, this is known before anything was made; and if the directory had to be made, nothing
can stand in the place of the file itself. Whatever goes wrong, it goes wrong on the disk as
it was.

`obstacle` says what stands in the way of a file, and `Delivery` that a write fails for that
reason alone.
-/

namespace Rethrow

namespace Disk

open Rethrow.Path

variable {disk made : Disk} {place : Place} {path : Path}

/-- What keeps a file from being written to a place: a file in place of its directory or
further up, or a directory in its own place. -/
def obstacle (disk : Disk) (place : Place) : Option DiskError :=
  if disk.HasFile place.dropLast then some .alreadyThere
  else if disk.Blocked place.dropLast then some .notDirectory
  else if disk.entryAt place = some .directory then some .isDirectory
  else none

theorem extends_put_file (vacant : disk.entryAt place ≠ some .directory) (content : Content) :
    Extends (disk.put place (.file content)) disk where
  here := rfl
  directory := by
    intro other found
    rw [entryAt_put disk _ vacant, if_neg, found]
    rintro rfl
    exact vacant found
  file := by
    rintro other ⟨before, found⟩
    rw [HasFile, entryAt_put disk _ vacant]
    split
    · exact ⟨_, rfl⟩
    · exact ⟨_, found⟩

/-- A file in a paved directory. -/
theorem Paved.deliver {name content : Text} (paved : Paved disk made place)
    (found : made.entryAt place = some .directory)
    (vacant : made.entryAt (place ++ [name]) ≠ some .directory) :
    Delivered disk [(place ++ [name], content)]
      (made.put (place ++ [name]) (.file (.text content))) where
  tree := paved.tree.put _ vacant (by simpa using found)
  more := (extends_put_file vacant _).trans paved.extends
  entries other := by
    rw [entryAt_put made _ vacant, paved.entries]
    simp only [overlay, OnWay, List.reverse_singleton, List.lookup_cons, List.lookup_nil,
      List.mem_singleton, exists_eq_left, List.prefix_concat_iff]
    by_cases same : other = place ++ [name]
    · simp [same]
    · simp [same, beq_false_of_ne same]

/-- The path of a file, taken apart: the components in front of the file give its directory. -/
theorem namesFile_apart (disk : Disk) (names : path.NamesFile) :
    ∃ front file, path.steps = front.map Step.ofComponent ++ [.down file] ∧
      disk.startOf path = disk.startAt front ∧ path.text ≠ [] ∧
      path.ancestors.tail = ancestorsOf front.reverse ∧ ∀ part ∈ front, '/' ∉ part := by
  obtain ⟨front, file, parts, down⟩ := names
  have busy : ¬ isIdle file := fun idle => by
    simp [Step.ofComponent_eq_stay.mpr idle] at down
  have named := ne_nil_of_not_idle busy
  have text := text_ne_nil_of_components parts named
  refine ⟨front, file, ?_, ?_, text, ?_, ?_⟩
  · rw [Path.steps, parts, List.map_append, List.map_singleton, down]
  · rw [disk.startOf_eq text, parts, disk.startAt_file front named]
  · rw [ancestors, parts, List.reverse_concat, ancestorsOf_cons busy, List.tail_cons]
  · intro part among
    refine Text.not_mem_of_mem_splitAtChar (t := path.text) ?_
    rw [← Path.components, parts]
    exact List.mem_append_left _ among

theorem placeOf_namesFile (disk : Disk) (names : path.NamesFile) :
    ∃ directory file, disk.placeOf path = directory ++ [file] := by
  obtain ⟨front, file, shape, _⟩ := namesFile_apart disk names
  refine ⟨(front.map Step.ofComponent).foldl Step.follow (disk.startOf path), file, ?_⟩
  rw [placeOf, shape, List.foldl_append, List.foldl_cons, List.foldl_nil, Step.follow]

theorem writeText_vacant {content : Text} (located : disk.locate path = .ok place)
    (vacant : disk.entryAt place ≠ some .directory) :
    disk.writeText path content = .ok (disk.put place (.file (.text content))) := by
  simp only [writeText, located]

/-- A file is found in a directory. -/
theorem Clear.locate_file (tree : disk.IsTree) (names : path.NamesFile)
    (clear : disk.Clear (disk.startOf path) path.steps)
    (found : disk.entryAt (disk.placeOf path).dropLast = some .directory) :
    disk.locate path = .ok (disk.placeOf path) := by
  obtain ⟨front, file, shape, start, named, _⟩ := namesFile_apart disk names
  rw [placeOf, start, shape] at found
  rw [start, shape] at clear
  rw [locate_eq named, placeOf, start, shape, List.foldl_append]
  refine (clear.of_prefix (List.prefix_append ..)).walk_of_directory tree (by simp) ?_ _
  simpa [Step.follow] using found

/-- The directory of a file is made, or a file is in the way. -/
theorem making_parent (tree : disk.IsTree) (names : path.NamesFile)
    (clear : disk.Clear (disk.startOf path) path.steps) :
    Making disk (disk.placeOf path).dropLast (disk.makeDirectories path.ancestors.tail) := by
  obtain ⟨front, file, shape, start, _, above, slashes⟩ := namesFile_apart disk names
  rw [start, shape] at clear
  rw [placeOf, start, shape, above]
  rw [← List.reverse_reverse front] at clear slashes
  have making := making_ancestorsOf tree slashes (clear.of_prefix (List.prefix_append ..))
  simpa [Step.follow] using making

/-- No directory is made for a file whose path leads up out of another one. -/
theorem makeDirectories_parent_of_dead (names : path.NamesFile)
    (dead : disk.Dead (disk.startOf path) path.steps) :
    disk.makeDirectories path.ancestors.tail = (disk, .error .notDirectory) := by
  obtain ⟨front, file, shape, start, _, above, slashes⟩ := namesFile_apart disk names
  rw [start, shape] at dead
  rw [above]
  refine makeDirectories_of_dead (by simpa using slashes) ?_
  rw [List.reverse_reverse]
  exact dead.of_last (by simp)

end Disk

namespace Folder

open Disk Rethrow.Path

variable {disk made : Disk} {path : Path}

theorem prepare_eq (disk : Disk) (path : Path) :
    prepare disk path =
      ((disk.makeDirectories path.ancestors.tail).1,
        (disk.makeDirectories path.ancestors.tail).2.mapError fun cause =>
          { path := path.ancestors.tail.headD path, cause }) := by
  unfold prepare
  split
  · rename_i none
    rw [none]
    rfl
  · rename_i some
    rw [some]
    rfl

/-- The failure to write a file: for want of its directory, unless a directory stands in its
own place. -/
def refusal (path : Path) (cause : DiskError) : WriteFailure where
  path := if cause = .isDirectory then path else path.ancestors.tail.headD path
  cause := cause

/-- What writing a file may answer. -/
inductive Delivery (disk : Disk) (path : Path) (place : Place) (content : Text) :
    Disk × Except WriteFailure Path → Prop where
  | done {made : Disk} (free : disk.obstacle place = none)
      (delivered : Delivered disk [(place, content)] made) :
      Delivery disk path place content (made, .ok path)
  | refused {cause : DiskError} (found : disk.obstacle place = some cause) :
      Delivery disk path place content (disk, .error (refusal path cause))

/-- Once its directory is there, a file is written unless a directory stands in its place. In
that case the directory around it was there before, so nothing had been made. -/
theorem delivery_of_paved {directory : Place} {file content : Text} (tree : disk.IsTree)
    (paved : Paved disk made directory) (free : ¬ disk.Blocked directory)
    (located : made.locate path = .ok (directory ++ [file])) :
    Delivery disk path (directory ++ [file]) content
      (match made.writeText path content with
      | .ok written => (written, .ok path)
      | .error cause => (made, .error { path, cause })) := by
  have below := paved.below file
  have notFile : ¬ disk.HasFile directory := fun file => free file.blocked
  by_cases occupied : disk.entryAt (directory ++ [file]) = some .directory
  · have parent := tree.way_of_directory occupied (List.prefix_append directory [file])
    have untouched : made = disk := paved.same parent
    subst untouched
    have obstacle : made.obstacle (directory ++ [file]) = some .isDirectory := by
      simp [Disk.obstacle, free, notFile, occupied]
    simp only [writeText, located, occupied]
    exact .refused obstacle
  · have vacant : made.entryAt (directory ++ [file]) ≠ some .directory := below ▸ occupied
    simp only [writeText_vacant located vacant]
    refine .done ?_ (paved.deliver (paved.directory free) vacant)
    simp [obstacle, free, notFile, occupied]

/-- Where every `..` on the way is found, a write delivers its file or leaves the disk as it
was. -/
theorem delivery_write (folder : Folder) (unit : UnitId) (content : Text) (tree : disk.IsTree)
    (clear : disk.Clear (disk.startOf (folder.pathFor unit)) (folder.pathFor unit).steps) :
    Delivery disk (folder.pathFor unit) (disk.placeOf (folder.pathFor unit)) content
      (folder.write disk unit content) := by
  have names := unit.namesFile_join folder.root
  rw [← pathFor] at names
  have making := making_parent tree names clear
  simp only [write, prepare_eq]
  generalize folder.pathFor unit = path at *
  generalize disk.makeDirectories path.ancestors.tail = answer at making
  cases making with
  | alreadyThere file => exact .refused (if_pos file)
  | notDirectory blocked other =>
      exact .refused (by rw [obstacle, if_neg other, if_pos blocked])
  | @paved made paved free =>
      have located : made.locate path = .ok (disk.placeOf path) := by
        have clearMade := paved.extends.clear clear
        have found := paved.directory free
        rw [← paved.extends.startOf path] at clearMade
        rw [← paved.extends.placeOf path] at found ⊢
        exact clearMade.locate_file paved.tree names found
      obtain ⟨directory, file, shape⟩ := placeOf_namesFile disk names
      rw [shape] at located ⊢
      rw [shape, List.dropLast_concat] at paved free
      exact delivery_of_paved tree paved free located

/-- A write below a folder whose path leads up out of a file is refused. -/
theorem write_of_dead (folder : Folder) (unit : UnitId) (content : Text)
    (dead : disk.Dead (disk.startOf (folder.pathFor unit)) (folder.pathFor unit).steps) :
    folder.write disk unit content =
      (disk, .error (refusal (folder.pathFor unit) .notDirectory)) := by
  have none := makeDirectories_parent_of_dead (unit.namesFile_join folder.root) dead
  simp only [write, prepare_eq, pathFor, none, Except.mapError]
  rfl

/-- Whether a write succeeds depends on the obstacles alone. -/
theorem write_congr (folder : Folder) {unit : UnitId} (content : Text) (tree : disk.IsTree)
    (madeTree : made.IsTree) (more : Extends made disk) (anchored : disk.Anchored folder.root)
    (level : ['.', '.'] ∉ unit.components)
    (same : made.obstacle (disk.placeOf (folder.pathFor unit)) =
      disk.obstacle (disk.placeOf (folder.pathFor unit))) :
    (folder.write made unit content).2 = (folder.write disk unit content).2 := by
  have way : disk.Anchored (folder.pathFor unit) := anchored.join_unit level
  rcases way.clear_or_dead with clear | dead
  · have before := folder.delivery_write unit content tree clear
    have after := folder.delivery_write unit content madeTree
      (more.startOf (folder.pathFor unit) ▸ more.clear clear)
    rw [more.placeOf] at after
    generalize folder.write disk unit content = first at *
    generalize folder.write made unit content = second at *
    cases before with
    | done free _ =>
        cases after with
        | done _ _ => rfl
        | refused found => simp [same, free] at found
    | refused found =>
        cases after with
        | done free _ => simp [same, found] at free
        | refused again =>
            rw [same, found] at again
            cases again
            rfl
  · rw [folder.write_of_dead unit content dead, folder.write_of_dead unit content
      (more.startOf (folder.pathFor unit) ▸ more.dead dead)]

end Folder

end Rethrow
