import Mathlib.Data.List.Induction
import Mathlib.Data.List.Infix
import Rethrow.Disk.Basic

/-!
# Disks as trees

On a disk every entry stands in a directory, so a place at which something stands has
directories all the way up to it, and below a missing entry nothing is found. A file on the
way blocks all places below it.

Runs only ever add to a disk: directories stay directories and files stay files, as `Extends`
says.
-/

namespace Rethrow.Disk

variable {disk made : Disk} {part place : Place}

/-- Every entry stands in a directory. -/
def IsTree (disk : Disk) : Prop :=
  ∀ old ∈ disk.entries, disk.entryAt old.1.dropLast = some .directory

instance (disk : Disk) : Decidable disk.IsTree :=
  inferInstanceAs (Decidable (∀ old ∈ disk.entries, _))

/-- A file stands at the place. -/
def HasFile (disk : Disk) (place : Place) : Prop :=
  ∃ content, disk.entryAt place = some (.file content)

instance (disk : Disk) (place : Place) : Decidable (disk.HasFile place) :=
  match found : disk.entryAt place with
  | some (.file content) => isTrue ⟨content, found⟩
  | some .directory => isFalse fun ⟨_, file⟩ => by simp [found] at file
  | none => isFalse fun ⟨_, file⟩ => by simp [found] at file

/-- A file stands at the place or on the way to it. -/
def Blocked (disk : Disk) (place : Place) : Prop :=
  ∃ part ∈ place.inits, disk.HasFile part

instance (disk : Disk) (place : Place) : Decidable (disk.Blocked place) :=
  inferInstanceAs (Decidable (∃ part ∈ place.inits, _))

theorem blocked_iff : disk.Blocked place ↔ ∃ part, part <+: place ∧ disk.HasFile part := by
  simp only [Blocked, List.mem_inits]

theorem entryAt_of_prefix_here (inside : place <+: disk.here) :
    disk.entryAt place = some .directory := by
  rw [entryAt, if_pos (List.isPrefixOf_iff_prefix.mpr inside)]

@[simp] theorem entryAt_nil (disk : Disk) : disk.entryAt [] = some .directory :=
  entryAt_of_prefix_here List.nil_prefix

@[simp] theorem entryAt_here (disk : Disk) : disk.entryAt disk.here = some .directory :=
  entryAt_of_prefix_here List.prefix_rfl

/-- What stands at a place that no way to the directory of the run leads through is put
there as it is. -/
theorem entryAt_put (disk : Disk) (entry : Entry) (free : disk.entryAt place ≠ some .directory)
    (other : Place) :
    (disk.put place entry).entryAt other =
      if other = place then some entry else disk.entryAt other := by
  split
  · rename_i same
    subst same
    refine entryAt_put_self disk entry (Bool.eq_false_iff.mpr fun inside => free ?_)
    exact entryAt_of_prefix_here (List.isPrefixOf_iff_prefix.mp inside)
  · rename_i differs
    exact entryAt_put_of_ne disk entry differs

/-- What stands at a place stands in a directory. -/
theorem IsTree.parent (tree : disk.IsTree) (there : disk.entryAt place ≠ none) :
    disk.entryAt place.dropLast = some .directory := by
  by_cases inside : place <+: disk.here
  · exact entryAt_of_prefix_here ((List.dropLast_prefix place).trans inside)
  · rw [entryAt, if_neg (by simpa using inside)] at there
    obtain ⟨entry, found⟩ := Option.ne_none_iff_exists'.mp there
    obtain ⟨before, after, split, _⟩ := List.lookup_eq_some_iff.mp found
    exact tree (place, entry) (by simp [split])

/-- The places on the way to an entry are directories. -/
theorem IsTree.way (tree : disk.IsTree) (there : disk.entryAt place ≠ none)
    (onWay : part <+: place) (proper : part ≠ place) : disk.entryAt part = some .directory := by
  induction place using List.reverseRecOn with
  | nil => exact absurd (List.prefix_nil.mp onWay) proper
  | append_singleton front name ih =>
      have parent : disk.entryAt front = some .directory := by simpa using tree.parent there
      rcases List.prefix_concat_iff.mp onWay with whole | before
      · exact absurd whole proper
      · by_cases same : part = front
        · exact same ▸ parent
        · exact ih (by simp [parent]) before same

theorem IsTree.way_of_directory (tree : disk.IsTree) (found : disk.entryAt place = some .directory)
    (onWay : part <+: place) : disk.entryAt part = some .directory := by
  by_cases same : part = place
  · exact same ▸ found
  · exact tree.way (by simp [found]) onWay same

/-- Below anything but a directory nothing is found. -/
theorem IsTree.missing_below (tree : disk.IsTree) (other : disk.entryAt part ≠ some .directory)
    (onWay : part <+: place) (proper : part ≠ place) : disk.entryAt place = none :=
  Decidable.byContradiction fun there => other (tree.way there onWay proper)

theorem IsTree.not_blocked (tree : disk.IsTree) (found : disk.entryAt place = some .directory) :
    ¬ disk.Blocked place := by
  rw [blocked_iff]
  rintro ⟨part, onWay, content, file⟩
  simp [tree.way_of_directory found onWay] at file

theorem blocked_concat (disk : Disk) (front : Place) (name : Text) :
    disk.Blocked (front ++ [name]) ↔ disk.Blocked front ∨ disk.HasFile (front ++ [name]) := by
  simp only [blocked_iff, List.prefix_concat_iff, or_and_right, exists_or, exists_eq_left]
  exact or_comm

theorem IsTree.missing_below_file (tree : disk.IsTree) (blocked : disk.Blocked place)
    (name : Text) : disk.entryAt (place ++ [name]) = none := by
  obtain ⟨part, onWay, content, file⟩ := blocked_iff.mp blocked
  refine tree.missing_below (by simp [file]) (onWay.trans (List.prefix_append ..)) ?_
  rintro rfl
  exact absurd onWay.length_le (by simp)

theorem not_hasFile_of_none (absent : disk.entryAt place = none) : ¬ disk.HasFile place := by
  rintro ⟨content, file⟩
  simp [absent] at file

theorem HasFile.blocked (file : disk.HasFile place) : disk.Blocked place :=
  blocked_iff.mpr ⟨place, List.prefix_rfl, file⟩

/-- An entry that is put into a directory, and not in place of one, keeps the tree. -/
theorem IsTree.put (tree : disk.IsTree) (entry : Entry)
    (free : disk.entryAt place ≠ some .directory)
    (parent : disk.entryAt place.dropLast = some .directory) : (disk.put place entry).IsTree := by
  have elsewhere (other : Place) (found : disk.entryAt other = some .directory) :
      (disk.put place entry).entryAt other = some .directory := by
    rw [entryAt_put disk entry free, if_neg, found]
    rintro rfl
    exact free found
  intro old among
  rcases List.mem_cons.mp among with rfl | kept
  · exact elsewhere _ parent
  · exact elsewhere _ (tree old (List.mem_filter.mp kept).1)

/-- One disk has what another one has, with other texts at most. -/
structure Extends (made disk : Disk) : Prop where
  here : made.here = disk.here
  directory : ∀ {place}, disk.entryAt place = some .directory →
    made.entryAt place = some .directory
  file : ∀ {place}, disk.HasFile place → made.HasFile place

theorem Extends.refl (disk : Disk) : Extends disk disk :=
  ⟨rfl, id, id⟩

theorem Extends.trans {last : Disk} (later : Extends last made) (first : Extends made disk) :
    Extends last disk where
  here := later.here.trans first.here
  directory found := later.directory (first.directory found)
  file found := later.file (first.file found)

end Rethrow.Disk
