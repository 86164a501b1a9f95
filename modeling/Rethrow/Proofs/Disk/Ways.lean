import Rethrow.Disk.Access
import Rethrow.Proofs.Disk.Overlay
import Rethrow.Proofs.Disk.Paths

/-!
# The ways of paths

The steps of a path lead to one place, `placeOf`, whatever stands on the way. A walk along
the path ends there if it finds directories all the way; otherwise it is refused, and by
what stands on the way to that place alone, as long as every `..` was found (`Clear`). A `..`
that leads out of a missing entry is what makes a difference: the walk fails there, although
nothing is missing on the way to the place. A path without such a step is `Anchored`.

Disks that extend one another agree on what they find, so a path that is anchored once stays
anchored and keeps its answer as long as the entry at its place stays.
-/

namespace Rethrow.Disk

open Rethrow.Path

variable {disk made : Disk} {start place : Place} {steps front : List Step} {path : Path}

/-- Where a path starts. -/
def startOf (disk : Disk) (path : Path) : Place :=
  if path.isAbsolute then [] else disk.here

/-- The place that the steps of a path lead to, whatever stands on the way. -/
def placeOf (disk : Disk) (path : Path) : Place :=
  path.steps.foldl Step.follow (disk.startOf path)

@[simp] theorem entryAt_startOf (disk : Disk) (path : Path) :
    disk.entryAt (disk.startOf path) = some .directory := by
  rw [startOf]
  split <;> simp

theorem locate_eq (named : path.text ≠ []) :
    disk.locate path = disk.walk (disk.startOf path) path.steps := by
  rw [locate, if_neg (by simpa using named), startOf]

/-- Steps that do not go up lead to a place below. -/
theorem prefix_follow (place : Place) (level : .up ∉ steps) :
    place <+: steps.foldl Step.follow place := by
  induction steps generalizing place with
  | nil => exact List.prefix_rfl
  | cons step rest ih =>
      have below := ih (step.follow place) fun up => level (List.mem_cons_of_mem _ up)
      cases step with
      | stay => exact below
      | up => exact absurd List.mem_cons_self level
      | down name => exact (List.prefix_append place [name]).trans below

theorem startOf_join (disk : Disk) (base : Path) (relative : path.isAbsolute = false) :
    disk.startOf (base.join path) = disk.startOf base := by
  rw [startOf, startOf, isAbsolute_join base relative]

theorem placeOf_join (disk : Disk) (base : Path) (relative : path.isAbsolute = false) :
    disk.placeOf (base.join path) = path.steps.foldl Step.follow (disk.placeOf base) := by
  obtain ⟨lead, joined, shape⟩ := steps_join base relative
  rw [placeOf, placeOf, startOf_join disk base relative, joined, List.foldl_append]
  rcases shape with same | more
  · rw [same]
  · rw [more, List.foldl_append]
    rfl

theorem walk_append (disk : Disk) (place : Place) (front rest : List Step) :
    disk.walk place (front ++ rest) =
      match disk.walk place front with
      | .ok reached => disk.walk reached rest
      | .error e => .error e := by
  induction front generalizing place with
  | nil => rfl
  | cons step front ih =>
      simp only [List.cons_append, walk]
      cases disk.demandDirectory place with
      | ok _ => exact ih _
      | error e => rfl

/-- A last step is taken from where a stay there would end. -/
theorem walk_concat (disk : Disk) (place : Place) (front : List Step) (step : Step) :
    disk.walk place (front ++ [step]) = (disk.walk place (front ++ [.stay])).map step.follow := by
  rw [walk_append, walk_append]
  cases disk.walk place front with
  | error e => rfl
  | ok reached =>
      simp only [walk]
      cases disk.demandDirectory reached with
      | ok _ => rfl
      | error e => rfl

theorem walk_eq_ok (found : disk.walk start steps = .ok place) :
    place = steps.foldl Step.follow start := by
  fun_induction walk disk start steps with
  | case1 => simpa using found.symm
  | case2 start step rest _ ih => exact ih found
  | case3 => simp at found

/-- A walk is refused for a missing entry or for a file. -/
theorem walk_eq_error {e : DiskError} (refused : disk.walk start steps = .error e) :
    e = .missing ∨ e = .notDirectory := by
  fun_induction walk disk start steps with
  | case1 => simp at refused
  | case2 start step rest _ ih => exact ih refused
  | case3 start step rest cause because =>
      rw [demandDirectory] at because
      split at because <;> simp_all

/-- Every `..` among the steps is found. -/
def Clear (disk : Disk) (start : Place) (steps : List Step) : Prop :=
  ∀ front, front <+: steps → front.getLast? = some .up →
    ∃ place, disk.walk start front = .ok place

/-- Some `..` among the steps leads out of a file, or through one. -/
def Dead (disk : Disk) (start : Place) (steps : List Step) : Prop :=
  ∃ front, front <+: steps ∧ front.getLast? = some .up ∧
    disk.walk start front = .error .notDirectory

/-- No `..` of a path leads out of a missing entry. -/
def Anchored (disk : Disk) (path : Path) : Prop :=
  ∀ front ∈ path.steps.inits, front.getLast? = some .up →
    disk.walk (disk.startOf path) front ≠ .error .missing

instance (disk : Disk) (path : Path) : Decidable (disk.Anchored path) :=
  inferInstanceAs (Decidable (∀ front ∈ path.steps.inits, _))

theorem Clear.of_prefix (clear : disk.Clear start steps) (first : front <+: steps) :
    disk.Clear start front :=
  fun part inside => clear part (inside.trans first)

theorem Anchored.clear_or_dead (anchored : disk.Anchored path) :
    disk.Clear (disk.startOf path) path.steps ∨ disk.Dead (disk.startOf path) path.steps := by
  refine Classical.or_iff_not_imp_right.mpr fun alive front inside up => ?_
  cases found : disk.walk (disk.startOf path) front with
  | ok place => exact ⟨place, rfl⟩
  | error e =>
      rcases walk_eq_error found with rfl | rfl
      · exact absurd found (anchored front ((List.mem_inits ..).mpr inside) up)
      · exact absurd ⟨front, inside, up, found⟩ alive

theorem Dead.walk (dead : disk.Dead start steps) :
    disk.walk start steps = .error .notDirectory := by
  obtain ⟨front, ⟨rest, rfl⟩, _, refused⟩ := dead
  rw [walk_append, refused]

/-- A path that does not go up on its own keeps the base's anchor. -/
theorem Anchored.join {base : Path} (anchored : disk.Anchored base)
    (relative : path.isAbsolute = false) (level : .up ∉ path.steps) :
    disk.Anchored (base.join path) := by
  obtain ⟨lead, joined, shape⟩ := steps_join base relative
  have inBase : lead <+: base.steps := by
    rcases shape with same | more
    · rw [same]
    · rw [more]
      exact List.prefix_append ..
  intro front inside up
  rw [List.mem_inits, joined] at inside
  rw [startOf_join disk base relative]
  refine anchored front ((List.mem_inits ..).mpr ?_) up
  rcases List.prefix_or_prefix_of_prefix inside (List.prefix_append ..) with early | ⟨late, rfl⟩
  · exact early.trans inBase
  · -- A `..` behind the base would be one of the path's own.
    have within := (List.prefix_append_right_inj _).mp inside
    cases late using List.reverseRecOn with
    | nil => simpa using inBase
    | append_singleton late step =>
        have last : step = .up := by simpa using up
        exact absurd (within.subset (by simp [last])) level

theorem Anchored.join_unit {base : Path} {unit : UnitId} (anchored : disk.Anchored base)
    (level : ['.', '.'] ∉ unit.components) : disk.Anchored (base.join unit.relativePath) := by
  refine anchored.join unit.isAbsolute_relativePath ?_
  rwa [up_mem_steps, unit.components_relativePath]

/-- The file of a unit lies below the directory. -/
theorem placeOf_prefix_join_unit (disk : Disk) (base : Path) {unit : UnitId}
    (level : ['.', '.'] ∉ unit.components) :
    disk.placeOf base <+: disk.placeOf (base.join unit.relativePath) := by
  rw [placeOf_join disk base unit.isAbsolute_relativePath]
  refine prefix_follow _ ?_
  rwa [up_mem_steps, unit.components_relativePath]

/-- What extends a disk repeats its walks, those that end at a missing entry apart. -/
theorem Extends.walk (more : Extends made disk)
    (known : disk.walk start steps ≠ .error .missing) :
    made.walk start steps = disk.walk start steps := by
  fun_induction disk.walk start steps with
  | case1 => rfl
  | case2 start step rest found ih =>
      rw [Disk.walk]
      have directory : disk.entryAt start = some .directory := by
        rw [demandDirectory] at found
        split at found <;> simp_all
      rw [demandDirectory, more.directory directory]
      exact ih known
  | case3 start step rest cause because =>
      rw [demandDirectory] at because
      split at because
      · simp at because
      · rename_i file
        obtain ⟨content, kept⟩ := more.file ⟨_, file⟩
        rw [Disk.walk, demandDirectory, kept]
        simpa using because
      · simp_all

theorem Extends.startOf (more : Extends made disk) (path : Path) :
    made.startOf path = disk.startOf path := by
  rw [Disk.startOf, Disk.startOf, more.here]

theorem Extends.placeOf (more : Extends made disk) (path : Path) :
    made.placeOf path = disk.placeOf path := by
  rw [Disk.placeOf, Disk.placeOf, more.startOf]

theorem Extends.clear (more : Extends made disk) (clear : disk.Clear start steps) :
    made.Clear start steps := by
  intro front inside up
  obtain ⟨place, found⟩ := clear front inside up
  exact ⟨place, (more.walk (by simp [found])).trans found⟩

theorem Extends.dead (more : Extends made disk) (dead : disk.Dead start steps) :
    made.Dead start steps := by
  obtain ⟨front, inside, up, refused⟩ := dead
  exact ⟨front, inside, up, (more.walk (by simp [refused])).trans refused⟩

theorem Extends.anchored (more : Extends made disk) (anchored : disk.Anchored path) :
    made.Anchored path := by
  intro front inside up
  have known := anchored front inside up
  rwa [more.startOf, more.walk known]

/-- What a walk answers that ends with a stay at a place: a directory lets it stay, a file at
the place or on the way refuses it, and otherwise an entry is missing. -/
inductive Standing (disk : Disk) (place : Place) : Except DiskError Place → Prop where
  | inside (found : disk.entryAt place = some .directory) : Standing disk place (.ok place)
  | blocked (file : disk.Blocked place) : Standing disk place (.error .notDirectory)
  | missing (absent : disk.entryAt place = none) (free : ¬ disk.Blocked place) :
      Standing disk place (.error .missing)

theorem standing_of_directory (found : disk.entryAt place = some .directory) :
    Standing disk place (disk.walk place [.stay]) := by
  simpa [walk, demandDirectory, found, Step.follow] using Standing.inside found

theorem standing_below (tree : disk.IsTree) (found : disk.entryAt place = some .directory)
    (name : Text) : Standing disk (place ++ [name]) (disk.walk (place ++ [name]) [.stay]) := by
  have longer := blocked_concat disk place name
  cases entry : disk.entryAt (place ++ [name]) with
  | none =>
      have free : ¬ disk.Blocked (place ++ [name]) := by
        simp [longer, tree.not_blocked found, not_hasFile_of_none entry]
      simpa [walk, demandDirectory, entry] using Standing.missing entry free
  | some there =>
      cases there with
      | directory => exact standing_of_directory entry
      | file content =>
          have blocked := longer.mpr (.inr ⟨content, entry⟩)
          simpa [walk, demandDirectory, entry] using Standing.blocked blocked

/-- What keeps a walk from a place keeps it from all places below. -/
theorem Standing.below {e : DiskError} (tree : disk.IsTree)
    (refused : Standing disk place (.error e)) (name : Text) :
    Standing disk (place ++ [name]) (.error e) := by
  have longer := blocked_concat disk place name
  cases refused with
  | blocked file => exact .blocked (longer.mpr (.inl file))
  | missing absent free =>
      have nothing : disk.entryAt (place ++ [name]) = none :=
        tree.missing_below (by simp [absent]) (List.prefix_append ..) (by simp)
      exact .missing nothing (by simp [longer, free, not_hasFile_of_none nothing])

/-- Where every `..` is found, what stands on the way to the place alone decides on a walk. -/
theorem Clear.standing (tree : disk.IsTree) (base : disk.entryAt start = some .directory)
    (clear : disk.Clear start steps) :
    Standing disk (steps.foldl Step.follow start) (disk.walk start (steps ++ [.stay])) := by
  induction steps using List.reverseRecOn with
  | nil => exact standing_of_directory base
  | append_singleton front step ih =>
      have before := ih (clear.of_prefix (List.prefix_append ..))
      rw [walk_append, walk_concat, List.foldl_append, List.foldl_cons, List.foldl_nil]
      cases answer : disk.walk start (front ++ [.stay]) with
      | ok reached =>
          rw [answer] at before
          cases before with | inside found =>
          cases step with
          | stay => exact standing_of_directory found
          | up =>
              exact standing_of_directory (tree.way_of_directory found (List.dropLast_prefix _))
          | down name => exact standing_below tree found name
      | error e =>
          rw [answer] at before
          cases step with
          | stay => exact before
          | up =>
              obtain ⟨place, passed⟩ := clear (front ++ [.up]) List.prefix_rfl (by simp)
              simp [walk_concat, answer, Except.map] at passed
          | down name => exact before.below tree name

/-- A walk misses an entry only if the place is empty and no file is on the way. -/
theorem Clear.absent (tree : disk.IsTree) (base : disk.entryAt start = some .directory)
    (clear : disk.Clear start steps) (missed : disk.walk start steps = .error .missing) :
    disk.entryAt (steps.foldl Step.follow start) = none ∧
      ¬ disk.Blocked (steps.foldl Step.follow start) := by
  have standing := clear.standing tree base
  rw [walk_append, missed] at standing
  cases standing with | missing absent free =>
  exact ⟨absent, free⟩

/-- An empty place with no file on the way is missing. -/
theorem Clear.stat_missing (tree : disk.IsTree) (named : path.text ≠ [])
    (clear : disk.Clear (disk.startOf path) path.steps)
    (absent : disk.entryAt (disk.placeOf path) = none)
    (free : ¬ disk.Blocked (disk.placeOf path)) : disk.stat path = .error .missing := by
  have standing := clear.standing tree (disk.entryAt_startOf path)
  rw [← placeOf, walk_append] at standing
  rw [stat, locate_eq named]
  cases answer : disk.walk (disk.startOf path) path.steps with
  | ok place =>
      have there : place = disk.placeOf path := walk_eq_ok answer
      simp [there, absent]
  | error e =>
      rw [answer] at standing
      cases standing with
      | blocked file => exact absurd file free
      | missing _ _ => rfl

/-- A path that is anchored leads to what stands at its place, on all disks that extend one
another without a file in the way or a change at the place. -/
theorem Extends.stat (more : Extends made disk) (tree : disk.IsTree) (madeTree : made.IsTree)
    (anchored : disk.Anchored path)
    (same : made.entryAt (disk.placeOf path) = disk.entryAt (disk.placeOf path))
    (free : made.Blocked (disk.placeOf path) → disk.Blocked (disk.placeOf path)) :
    made.stat path = disk.stat path := by
  by_cases named : path.text = []
  · simp [Disk.stat, locate, named]
  by_cases known : disk.walk (disk.startOf path) path.steps = .error .missing
  · -- The walk met every `..`, as it would have ended at a file otherwise.
    have clear : disk.Clear (disk.startOf path) path.steps := by
      rcases anchored.clear_or_dead with clear | dead
      · exact clear
      · simp [dead.walk] at known
    obtain ⟨absent, unblocked⟩ := clear.absent tree (disk.entryAt_startOf path) known
    have missing : made.stat path = .error .missing := by
      refine Clear.stat_missing madeTree named ?_ ?_ ?_
      · exact more.startOf path ▸ more.clear clear
      · rw [more.placeOf, same]
        exact absent
      · rw [more.placeOf]
        exact fun blocked => unblocked (free blocked)
    rw [missing, Disk.stat, locate_eq named, known]
  · rw [Disk.stat, Disk.stat, locate_eq named, locate_eq named, more.startOf, more.walk known]
    cases found : disk.walk (disk.startOf path) path.steps with
    | error e => rfl
    | ok place =>
        have there : place = disk.placeOf path := walk_eq_ok found
        simp only [there, same]

/-- Files that were delivered elsewhere do not matter for a path. -/
theorem Delivered.stat {files : List (Place × Text)} (delivered : Delivered disk files made)
    (tree : disk.IsTree) (anchored : disk.Anchored path)
    (apart : ∀ file ∈ files, ¬ disk.placeOf path <+: file.1 ∧ ¬ file.1 <+: disk.placeOf path) :
    made.stat path = disk.stat path := by
  refine delivered.more.stat tree delivered.tree anchored ?_ ?_
  · rw [delivered.entries, overlay_of_apart fun file among => (apart file among).1]
  · simp only [blocked_iff]
    rintro ⟨part, onWay, found⟩
    rcases delivered.hasFile found with before | ⟨file, among, rfl⟩
    · exact ⟨part, onWay, before⟩
    · exact absurd onWay (apart file among).2

end Rethrow.Disk
