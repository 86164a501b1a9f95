import Rethrow.Proofs.Disk.Ways

/-!
# Making directories

The innermost directory is tried first, and the next one above it only while something is
missing on the way. So a file in the way is met before anything was made, and what is made are
exactly the directories that were missing.

`Making` says what the attempt may answer, and from which state of the disk. The induction is
along the components of a path, taken from its end.
-/

namespace Rethrow.Disk

open Rethrow.Path

variable {disk made : Disk} {start place : Place} {steps front : List Step} {step : Step}
variable {path : Path}

/-- A disk with directories at a place and on the way to it, where nothing was before. -/
structure Paved (disk made : Disk) (place : Place) : Prop where
  here : made.here = disk.here
  tree : made.IsTree
  entries : ∀ other, made.entryAt other =
    if disk.entryAt other = none ∧ other <+: place then some .directory else disk.entryAt other
  same : disk.entryAt place = some .directory → made = disk

theorem Paved.refl (tree : disk.IsTree) (found : disk.entryAt place = some .directory) :
    Paved disk disk place where
  here := rfl
  tree := tree
  entries other := by
    refine (if_neg ?_).symm
    rintro ⟨absent, onWay⟩
    simp [tree.way_of_directory found onWay] at absent
  same _ := rfl

theorem Paved.extends (paved : Paved disk made place) : Extends made disk where
  here := paved.here
  directory found := by rw [paved.entries, if_neg (by simp [found]), found]
  file := by
    rintro other ⟨content, found⟩
    exact ⟨content, by rw [paved.entries, if_neg (by simp [found]), found]⟩

/-- Without a file in the way, the place is a directory afterwards. -/
theorem Paved.directory (paved : Paved disk made place) (free : ¬ disk.Blocked place) :
    made.entryAt place = some .directory := by
  rw [paved.entries]
  cases entry : disk.entryAt place with
  | none => simp
  | some there =>
      cases there with
      | directory => simp
      | file content => exact absurd (HasFile.blocked ⟨content, entry⟩) free

/-- Below the place nothing is made. -/
theorem Paved.below (paved : Paved disk made place) (name : Text) :
    made.entryAt (place ++ [name]) = disk.entryAt (place ++ [name]) := by
  rw [paved.entries, if_neg]
  rintro ⟨_, onWay⟩
  exact absurd onWay.length_le (by simp)

/-- One directory more. -/
theorem Paved.down {name : Text} (paved : Paved disk made place)
    (found : made.entryAt place = some .directory)
    (absent : made.entryAt (place ++ [name]) = none) :
    Paved disk (made.put (place ++ [name]) .directory) (place ++ [name]) := by
  have wasAbsent : disk.entryAt (place ++ [name]) = none := paved.below name ▸ absent
  refine ⟨paved.here, paved.tree.put _ (by simp [absent]) (by simpa using found), ?_, ?_⟩
  · intro other
    rw [entryAt_put made _ (by simp [absent]), paved.entries]
    simp only [List.prefix_concat_iff]
    by_cases same : other = place ++ [name]
    · simp [same, wasAbsent]
    · simp [same]
  · simp [wasAbsent]

/-- What making a directory with those above it may answer. -/
inductive Making (disk : Disk) (place : Place) : Disk × Except DiskError Unit → Prop where
  | paved {made : Disk} (paved : Paved disk made place) (free : ¬ disk.Blocked place) :
      Making disk place (made, .ok ())
  | alreadyThere (file : disk.HasFile place) : Making disk place (disk, .error .alreadyThere)
  | notDirectory (blocked : disk.Blocked place) (other : ¬ disk.HasFile place) :
      Making disk place (disk, .error .notDirectory)

theorem Making.refl (tree : disk.IsTree) (found : disk.entryAt place = some .directory) :
    Making disk place (disk, .ok ()) :=
  .paved (.refl tree found) (tree.not_blocked found)

/-- A last step from a directory is found. -/
theorem Clear.walk_of_directory (tree : disk.IsTree) (base : disk.entryAt start = some .directory)
    (clear : disk.Clear start front)
    (found : disk.entryAt (front.foldl Step.follow start) = some .directory) (step : Step) :
    disk.walk start (front ++ [step]) = .ok (step.follow (front.foldl Step.follow start)) := by
  have standing := clear.standing tree base
  rw [walk_concat]
  cases answer : disk.walk start (front ++ [.stay]) with
  | ok reached =>
      rw [answer] at standing
      cases standing with | inside _ =>
      rfl
  | error e =>
      rw [answer] at standing
      cases standing with
      | blocked file => exact absurd file (tree.not_blocked found)
      | missing absent _ => simp [found] at absent

/-- Making a directory inside one that is there. -/
theorem making_inside {above : List Path} (tree : disk.IsTree)
    (found : disk.entryAt place = some .directory)
    (located : disk.locate path = .ok (step.follow place)) :
    Making disk (step.follow place) (disk.makeDirectories (path :: above)) := by
  rw [makeDirectories, makeDirectory, located]
  cases entry : disk.entryAt (step.follow place) with
  | none =>
      cases step with
      | stay => simp [Step.follow, found] at entry
      | up => simp [Step.follow, tree.way_of_directory found (List.dropLast_prefix _)] at entry
      | down name =>
          have free : ¬ disk.Blocked (place ++ [name]) := by
            rw [Step.follow] at entry
            simp [blocked_concat, tree.not_blocked found, not_hasFile_of_none entry]
          simp only [entry]
          exact .paved ((Paved.refl tree found).down found entry) free
  | some there =>
      simp only [settle, isDirectory, stat, located, entry]
      cases there with
      | directory => exact .refl tree entry
      | file content => exact .alreadyThere ⟨content, entry⟩

/-- Making a directory inside one that has to be made first. -/
theorem making_under {above : List Path} {name : Text} (tree : disk.IsTree)
    (base : disk.entryAt start = some .directory) (clear : disk.Clear start front)
    (located : ∀ other : Disk, other.here = disk.here →
      other.locate path = other.walk start (front ++ [.down name]))
    (missed : disk.locate path = .error .missing)
    (absent : disk.entryAt (front.foldl Step.follow start) = none)
    (free : ¬ disk.Blocked (front.foldl Step.follow start))
    (upper : Making disk (front.foldl Step.follow start) (disk.makeDirectories above)) :
    Making disk (front.foldl Step.follow start ++ [name])
      (disk.makeDirectories (path :: above)) := by
  simp only [makeDirectories, makeDirectory, missed]
  generalize disk.makeDirectories above = answer at upper
  cases upper with
  | alreadyThere file => exact absurd file (not_hasFile_of_none absent)
  | notDirectory blocked _ => exact absurd blocked free
  | @paved made paved _ =>
      have found := paved.directory free
      have reached := (paved.extends.clear clear).walk_of_directory paved.tree
        (paved.extends.directory base) found (.down name)
      have nothing : disk.entryAt (front.foldl Step.follow start ++ [name]) = none :=
        tree.missing_below (by simp [absent]) (List.prefix_append ..) (by simp)
      have stillNothing := (paved.below name).trans nothing
      simp only [located made paved.here, reached, Step.follow, stillNothing]
      refine .paved (paved.down found stillNothing) ?_
      simp [blocked_concat, free, not_hasFile_of_none nothing]

/-- Making a directory that is reached from the one above it by a last step. -/
theorem making_cons {above : List Path} (tree : disk.IsTree)
    (base : disk.entryAt start = some .directory) (clear : disk.Clear start (front ++ [step]))
    (located : ∀ other : Disk, other.here = disk.here →
      other.locate path = other.walk start (front ++ [step]))
    (moves : step = .stay → disk.entryAt (front.foldl Step.follow start) = some .directory)
    (upper : Making disk (front.foldl Step.follow start) (disk.makeDirectories above)) :
    Making disk ((front ++ [step]).foldl Step.follow start)
      (disk.makeDirectories (path :: above)) := by
  have clearFront := clear.of_prefix (List.prefix_append front [step])
  have standing := clearFront.standing tree base
  have way := located disk rfl
  rw [walk_concat] at way
  rw [List.foldl_append, List.foldl_cons, List.foldl_nil]
  cases answer : disk.walk start (front ++ [.stay]) with
  | ok reached =>
      rw [answer] at standing way
      cases standing with | inside found =>
      exact making_inside tree found way
  | error e =>
      rw [answer] at standing way
      -- Only a step down can be refused here.
      cases step with
      | stay =>
          cases standing with
          | blocked file => exact absurd file (tree.not_blocked (moves rfl))
          | missing absent _ => simp [moves rfl] at absent
      | up =>
          obtain ⟨reached, passed⟩ := clear _ List.prefix_rfl (by simp)
          simp [walk_concat, answer, Except.map] at passed
      | down name =>
          cases standing with
          | blocked file =>
              simp only [makeDirectories, makeDirectory, settle, isDirectory, stat, way, Except.map]
              have nothing := tree.missing_below_file file name
              refine .notDirectory ?_ (not_hasFile_of_none nothing)
              exact (blocked_concat disk _ name).mpr (.inl file)
          | missing absent free =>
              exact making_under tree base clearFront located way absent free upper

/-- Where the path of some components starts. -/
def startAt (disk : Disk) (components : List Text) : Place :=
  if components.head? = some [] then [] else disk.here

@[simp] theorem entryAt_startAt (disk : Disk) (components : List Text) :
    disk.entryAt (disk.startAt components) = some .directory := by
  rw [startAt]
  split <;> simp

theorem startAt_concat (disk : Disk) {components : List Text} (some : components ≠ [])
    (last : Text) : disk.startAt (components ++ [last]) = disk.startAt components := by
  cases components with
  | nil => exact absurd rfl some
  | cons first more => rfl

theorem startAt_file (disk : Disk) (components : List Text) {last : Text} (named : last ≠ []) :
    disk.startAt (components ++ [last]) = disk.startAt components := by
  cases components with
  | nil => simp [startAt, named]
  | cons first more => rfl

theorem startOf_eq (disk : Disk) (named : path.text ≠ []) :
    disk.startOf path = disk.startAt path.components := by
  simp only [startOf, startAt, isAbsolute_iff, named, ne_eq, not_false_eq_true, true_and]

theorem text_ne_nil_of_components {components : List Text} {last : Text}
    (parts : path.components = components ++ [last]) (named : last ≠ []) : path.text ≠ [] := by
  intro empty
  rw [Path.components, empty, Text.splitAtChar] at parts
  exact named (by simpa using congrArg List.getLast? parts.symm)

/-- A path whose last component is not empty is followed from where its components start. -/
theorem locate_of_components (disk : Disk) {components : List Text} {last : Text}
    (parts : path.components = components ++ [last]) (named : last ≠ []) :
    disk.locate path = disk.walk (disk.startAt (components ++ [last]))
      (components.map Step.ofComponent ++ [Step.ofComponent last]) := by
  have some := text_ne_nil_of_components parts named
  rw [locate_eq some, startOf_eq disk some, Path.steps, parts, List.map_append]
  rfl

/-- The directories that lead along some components are made, or a file is in the way. -/
theorem making_ancestorsOf {components : List Text} (tree : disk.IsTree)
    (free : ∀ part ∈ components.reverse, '/' ∉ part)
    (clear : disk.Clear (disk.startAt components.reverse)
      (components.reverse.map Step.ofComponent)) :
    Making disk
      ((components.reverse.map Step.ofComponent).foldl Step.follow
        (disk.startAt components.reverse))
      (disk.makeDirectories (ancestorsOf components)) := by
  fun_induction ancestorsOf components with
  | case1 => exact .refl tree (by simp [startAt])
  | case2 head empty =>
      have shape : head = [] := List.isEmpty_iff.mp empty
      subst shape
      exact .refl tree (by simp [startAt, Step.ofComponent, isIdle, Step.follow])
  | case3 head named =>
      have parts : components { text := head } = [] ++ [head] :=
        Text.splitAtChar_of_not_mem (free head (by simp))
      have located (other : Disk) (same : other.here = disk.here) :
          other.locate { text := head } =
            other.walk (disk.startAt [head]) ([] ++ [Step.ofComponent head]) := by
        rw [other.locate_of_components parts (by simpa using named)]
        simp [startAt, same]
      have inside := disk.entryAt_startAt [head]
      have step : disk.Clear (disk.startAt [head]) ([] ++ [Step.ofComponent head]) := clear
      exact making_cons tree inside step located (fun _ => inside) (.refl tree inside)
  | case4 component rest more idle ih =>
      have some : rest.reverse ≠ [] := by simpa using more
      have stays := Step.ofComponent_eq_stay.mpr idle
      rw [List.reverse_cons, startAt_concat disk some, List.map_append] at clear ⊢
      have upper := ih (fun part among => free part (by simp_all))
        (clear.of_prefix (List.prefix_append ..))
      simpa [List.foldl_append, stays, Step.follow] using upper
  | case5 component rest more busy ih =>
      have some : rest.reverse ≠ [] := by simpa using more
      have named := ne_nil_of_not_idle busy
      have parts := components_joinWith (by simp) free
      rw [List.reverse_cons] at parts
      have located (other : Disk) (same : other.here = disk.here) :
          other.locate { text := Text.joinWith ['/'] (rest.reverse ++ [component]) } =
            other.walk (disk.startAt rest.reverse)
              (rest.reverse.map Step.ofComponent ++ [Step.ofComponent component]) := by
        rw [other.locate_of_components parts named, startAt_concat other some, startAt, startAt,
          same]
      rw [List.reverse_cons, startAt_concat disk some, List.map_append] at clear ⊢
      have upper := ih (fun part among => free part (by simp_all))
        (clear.of_prefix (List.prefix_append ..))
      refine making_cons tree (disk.entryAt_startAt _) clear located (fun stays => ?_) upper
      exact absurd (Step.ofComponent_eq_stay.mp stays) busy

/-- A last step other than `..` does not matter for the others. -/
theorem Dead.of_last (dead : disk.Dead start (steps ++ [step])) (other : step ≠ .up) :
    disk.Dead start steps := by
  obtain ⟨front, inside, up, refused⟩ := dead
  rcases List.prefix_concat_iff.mp inside with rfl | before
  · exact absurd (by simpa using up) other
  · exact ⟨front, before, up, refused⟩

theorem makeDirectories_of_refused {above : List Path}
    (refused : disk.locate path = .error .notDirectory) :
    disk.makeDirectories (path :: above) = (disk, .error .notDirectory) := by
  simp [makeDirectories, makeDirectory, settle, isDirectory, stat, refused]

/-- Nothing is made along a path that leads up out of a file. -/
theorem makeDirectories_of_dead {components : List Text}
    (free : ∀ part ∈ components.reverse, '/' ∉ part)
    (dead : disk.Dead (disk.startAt components.reverse)
      (components.reverse.map Step.ofComponent)) :
    disk.makeDirectories (ancestorsOf components) = (disk, .error .notDirectory) := by
  fun_induction ancestorsOf components with
  | case1 =>
      have refused := dead.walk
      simp [walk] at refused
  | case2 head empty =>
      have shape : head = [] := List.isEmpty_iff.mp empty
      subst shape
      have refused := dead.walk
      simp [walk, demandDirectory] at refused
  | case3 head named =>
      have refused := dead.walk
      simp [walk, demandDirectory] at refused
  | case4 component rest more idle ih =>
      have some : rest.reverse ≠ [] := by simpa using more
      rw [List.reverse_cons, startAt_concat disk some, List.map_append, List.map_singleton,
        Step.ofComponent_eq_stay.mpr idle] at dead
      exact ih (fun part among => free part (by simp_all)) (dead.of_last (by simp))
  | case5 component rest more busy ih =>
      have named := ne_nil_of_not_idle busy
      have parts := components_joinWith (by simp) free
      rw [List.reverse_cons] at parts dead ⊢
      apply makeDirectories_of_refused
      rw [disk.locate_of_components parts named, ← List.map_singleton, ← List.map_append]
      exact dead.walk

end Rethrow.Disk
