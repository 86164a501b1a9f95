import Mathlib.Data.List.Forall2
import Rethrow.Batch
import Rethrow.Proofs.Disk.Delivery

/-!
# What a batch does to a disk

A unit either delivers its file, or fails and leaves the disk as it was. A batch is its units
one after another, so the disk afterwards is the disk before with the files of the units that
succeeded, and the directories that lead to them.

This rests on the way to the output folder being one that can be followed: a `..` out of a
missing directory makes that directory, and there it stays when the write fails.
-/

namespace Rethrow

open Disk

/-- A unit that was written is in its file. -/
theorem Folder.path_of_write {folder : Folder} {disk : Disk} {unit : UnitId} {content : Text}
    {path : Path} (done : (folder.write disk unit content).2 = .ok path) :
    path = folder.pathFor unit := by
  simp only [write] at done
  split at done
  · simp at done
  · split at done
    · exact (Except.ok.inj done).symm
    · simp at done

/-- Whether an outcome is about a unit: a success gives the identifier of the unit that is
generated from it, a failure names it. -/
def Outcome.IsOf (options : Options) (unit : UnitId) : Outcome → Prop
  | .ok output => output = unit.output options
  | .error failure => failure.unit = unit

namespace Job

variable {job : Job} {space : Workspace} {unit : UnitId} {units : List UnitId}

/-- The place of the file that a unit is written to. -/
def sink (job : Job) (disk : Disk) (unit : UnitId) : Place :=
  disk.placeOf (job.folder.pathFor (unit.output job.options))

/-- The text that is generated from the source of a unit. -/
def product (job : Job) (space : Workspace) (unit : UnitId) : Except Failure Text :=
  match (Job.read space unit).2 with
  | .ok source => uncheckedSource job.options unit source
  | .error e => .error e

/-- The file that a unit delivers: its place and its text, if the unit succeeds. -/
def delivery (job : Job) (space : Workspace) (unit : UnitId) : Option (Place × Text) :=
  match (job.transform space unit).2, job.product space unit with
  | .ok _, .ok text => some (job.sink space.disk unit, text)
  | _, _ => none

/-- The files that a batch delivers, in order. -/
def deliveries (job : Job) (space : Workspace) : List UnitId → List (Place × Text)
  | [] => []
  | unit :: rest =>
    (job.delivery space unit).toList ++ job.deliveries (job.transform space unit).1 rest

@[simp] theorem read_disk (space : Workspace) (unit : UnitId) :
    (Job.read space unit).1.disk = space.disk := rfl

theorem transform_eq (job : Job) (space : Workspace) (unit : UnitId) :
    job.transform space unit =
      match job.product space unit with
      | .ok content => job.write (Job.read space unit).1 unit content
      | .error e => ((Job.read space unit).1, .error e) := by
  rw [transform, product]
  rcases Job.read space unit with ⟨after, answer⟩
  cases answer with
  | error e => rfl
  | ok source => cases shape : uncheckedSource job.options unit source <;> simp [shape]

/-- The outcome of a write is that of the file. -/
theorem write_outcome (job : Job) (space : Workspace) (unit : UnitId) (content : Text) :
    (job.write space unit content).2 =
      match (job.folder.write space.disk (unit.output job.options) content).2 with
      | .ok _ => .ok (unit.output job.options)
      | .error e => .error { unit, reason := .unwritable e } := by
  rw [write]
  rcases job.folder.write space.disk (unit.output job.options) content with ⟨_, _ | _⟩ <;> rfl

/-- A write is felt by the archives that are open in its file, if it succeeds. -/
theorem write_chain (job : Job) (space : Workspace) (unit : UnitId) (content : Text) :
    let after := (job.write space unit content).1
    after.chain = space.chain ∨ after.chain =
      space.chain.after (after.disk.writing (job.folder.pathFor (unit.output job.options))) := by
  rw [write]
  cases answer : job.folder.write space.disk (unit.output job.options) content with
  | mk made written =>
      cases written with
      | error e => exact .inl rfl
      | ok path =>
          have there : path = _ := Folder.path_of_write (congrArg Prod.snd answer)
          exact .inr (there ▸ rfl)

/-- What one unit of a batch may do. -/
inductive Transformed (job : Job) (space : Workspace) (unit : UnitId) :
    Workspace × Outcome → Prop where
  | failed {after : Workspace} {failure : Failure} (same : after.disk = space.disk) :
      Transformed job space unit (after, .error failure)
  | delivered {after : Workspace} {content : Text} (made : job.product space unit = .ok content)
      (delivered : Delivered space.disk [(job.sink space.disk unit, content)] after.disk) :
      Transformed job space unit (after, .ok (unit.output job.options))

theorem transformed (tree : space.disk.IsTree) (anchored : space.disk.Anchored job.folder.root)
    (level : ['.', '.'] ∉ (unit.output job.options).components) :
    Transformed job space unit (job.transform space unit) := by
  rw [transform_eq]
  cases made : job.product space unit with
  | error failure => exact .failed rfl
  | ok content =>
      have way : space.disk.Anchored (job.folder.pathFor (unit.output job.options)) :=
        anchored.join_unit level
      rcases way.clear_or_dead with clear | dead
      · have delivery := job.folder.delivery_write (unit.output job.options) content tree clear
        simp only [write, read_disk]
        generalize job.folder.write space.disk (unit.output job.options) content = answer at *
        cases delivery with
        | done _ delivered => exact .delivered made delivered
        | refused _ => exact .failed rfl
      · simp only [write, read_disk, job.folder.write_of_dead _ content dead]
        exact .failed rfl

/-- One unit changes the disk by the file it delivers. -/
theorem delivered_transform (tree : space.disk.IsTree)
    (anchored : space.disk.Anchored job.folder.root)
    (level : ['.', '.'] ∉ (unit.output job.options).components) :
    Delivered space.disk (job.delivery space unit).toList (job.transform space unit).1.disk := by
  have step := transformed tree anchored level
  rw [delivery]
  generalize job.transform space unit = answer at step
  cases step with
  | failed same =>
      rw [same]
      exact .refl tree
  | delivered made delivered => simpa [made] using delivered

/-- A batch changes the disk by the files its units deliver. -/
theorem delivered_transformAll (tree : space.disk.IsTree)
    (anchored : space.disk.Anchored job.folder.root)
    (level : ∀ unit ∈ units, ['.', '.'] ∉ (unit.output job.options).components) :
    Delivered space.disk (job.deliveries space units) (job.transformAll space units).1.disk := by
  induction units generalizing space with
  | nil => exact .refl tree
  | cons unit rest ih =>
      have first := delivered_transform tree anchored (level unit List.mem_cons_self)
      have later := ih first.tree (first.more.anchored anchored)
        fun unit among => level unit (List.mem_cons_of_mem _ among)
      exact first.trans later

/-- A failure to generate a text names the unit. -/
theorem unit_of_product {failure : Failure} (failed : job.product space unit = .error failure) :
    failure.unit = unit := by
  rw [product, Job.read] at failed
  split at failed
  · rw [uncheckedSource] at failed
    split at failed
    · cases failed
      rfl
    · simp only at failed
      split at failed <;> cases failed
      rfl
  · rename_i _ _ refused
    cases failed
    simp only at refused
    split at refused <;> cases refused <;> rfl

theorem isOf_transform (job : Job) (space : Workspace) (unit : UnitId) :
    (job.transform space unit).2.IsOf job.options unit := by
  rw [transform_eq]
  cases made : job.product space unit with
  | error failure => exact unit_of_product made
  | ok content =>
      rw [write_outcome]
      split <;> rfl

theorem isOf_transformAll (job : Job) (space : Workspace) (units : List UnitId) :
    List.Forall₂ (Outcome.IsOf job.options) units (job.transformAll space units).2 := by
  induction units generalizing space with
  | nil => exact .nil
  | cons unit rest ih => exact .cons (isOf_transform job space unit) (ih _)

theorem length_transformAll (job : Job) (space : Workspace) (units : List UnitId) :
    (job.transformAll space units).2.length = units.length :=
  (isOf_transformAll job space units).length_eq.symm

theorem transformAll_append (job : Job) (space : Workspace) (first later : List UnitId) :
    (job.transformAll space (first ++ later)).2 =
      (job.transformAll space first).2 ++
        (job.transformAll (job.transformAll space first).1 later).2 := by
  induction first generalizing space with
  | nil => rfl
  | cons unit rest ih => exact congrArg (_ :: ·) (ih _)

theorem transformAll_singleton (job : Job) (space : Workspace) (unit : UnitId) :
    job.transformAll space [unit] =
      ((job.transform space unit).1, [(job.transform space unit).2]) := rfl

/-- A batch of one worker attempts its units in order and gives an outcome for each. At every
place the disk then has the text that was delivered there last, a new directory if a delivered
file lies below, and otherwise what it had; and a unit that fails leaves the disk as it found
it. -/
theorem transformAll_frame (job : Job) (space : Workspace) (units : List UnitId)
    (tree : space.disk.IsTree) (anchored : space.disk.Anchored job.folder.root)
    (level : ∀ unit ∈ units, ['.', '.'] ∉ (unit.output job.options).components) :
    List.Forall₂ (Outcome.IsOf job.options) units (job.transformAll space units).2 ∧
    (∀ place, (job.transformAll space units).1.disk.entryAt place =
      space.disk.overlay (job.deliveries space units) place) ∧
    ∀ before unit after, units = before ++ unit :: after →
      let reached := (job.transformAll space before).1
      let answer := job.transform reached unit
      (job.transformAll space units).2[before.length]? = some answer.2 ∧
      ∀ failure, answer.2 = .error failure → answer.1.disk = reached.disk := by
  refine ⟨isOf_transformAll job space units,
    (delivered_transformAll tree anchored level).entries, ?_⟩
  rintro before unit after rfl
  have earlier : Delivered space.disk (job.deliveries space before) _ :=
    delivered_transformAll tree anchored fun unit among =>
      level unit (List.mem_append_left _ among)
  have step := transformed earlier.tree (earlier.more.anchored anchored) (level unit (by simp))
  refine ⟨?_, ?_⟩
  · rw [transformAll_append, ← length_transformAll job space before,
      List.getElem?_append_right le_rfl, Nat.sub_self]
    rfl
  · generalize job.transform (job.transformAll space before).1 unit = answer at step
    intro failure failed
    cases step with
    | failed same => exact same
    | delivered _ _ => simp at failed

/-- A source, and the text that is generated from it. -/
def small : Text × Text :=
  ("class A\x7b\x7d".toList, "class UncheckedA \x7b\n\x7d\n".toList)

theorem read_small :
    ((CompUnit.read small.1).toOption.map fun tree =>
      ((tree.enhance {}).refusal.isSome, (tree.enhance {}).value.render)) =
        some (false, small.2) := by
  decide +kernel

/-- A unit whose source has a known variant generates its text and writes it. -/
theorem transform_of_read {source text : Text}
    (answer : ((CompUnit.read source).toOption.map fun tree =>
      ((tree.enhance job.options).refusal.isSome, (tree.enhance job.options).value.render)) =
        some (false, text))
    (found : (Job.read space unit).2.toOption = some source) :
    job.product space unit = .ok text ∧
      job.transform space unit = job.write (Job.read space unit).1 unit text := by
  have known : uncheckedSource job.options unit source = .ok text := by
    rw [uncheckedSource]
    cases tree : CompUnit.read source with
    | error fault => simp [tree, Except.toOption] at answer
    | ok tree =>
        simp only [tree, Except.toOption, Option.map_some, Option.some.injEq, Prod.mk.injEq,
          Option.isSome_eq_false_iff, Option.isNone_iff_eq_none] at answer
        simp only [answer]
  have made : job.product space unit = .ok text := by
    rw [product]
    cases read : (Job.read space unit).2 with
    | error e => simp [read, Except.toOption] at found
    | ok held =>
        simp only [read, Except.toOption, Option.some.injEq] at found
        simp only [found, known]
  exact ⟨made, by rw [transform_eq, made]⟩

theorem delivery_of_write {text : Text} {answer : Workspace × Outcome}
    (made : job.product space unit = .ok text) (writes : job.transform space unit = answer) :
    job.delivery space unit =
      if answer.2.isOk then some (job.sink space.disk unit, text) else none := by
  rw [delivery, writes, made]
  cases answer.2 <;> rfl

/-- A workspace in which a file stands where a package directory is to be made. -/
def obstructed : Workspace where
  disk.entries :=
    [(["kept".toList], .directory), (["src".toList], .directory),
      (["src".toList, "A.java".toList], .file (.text small.1)),
      (["src".toList, "p".toList], .directory),
      (["src".toList, "p".toList, "B.java".toList], .file (.text small.1)),
      (["out".toList], .directory), (["out".toList, "p".toList], .file (.text []))]
  chain := [.directory { text := "src".toList }]

/-- A job whose output folder is reached through another directory. -/
def roundabout : Job where
  options := {}
  folder.root.text := "kept/../out".toList

theorem deliveries_obstructed :
    roundabout.deliveries obstructed [⟨"p/B".toList⟩, ⟨"A".toList⟩] =
      [(["out".toList, "UncheckedA.java".toList], small.2)] := by
  obtain ⟨first, fails⟩ := @transform_of_read roundabout obstructed ⟨"p/B".toList⟩ _ _
    read_small (by decide +kernel)
  obtain ⟨second, writes⟩ := @transform_of_read roundabout
    (roundabout.write (Job.read obstructed ⟨"p/B".toList⟩).1 ⟨"p/B".toList⟩ small.2).1
    ⟨"A".toList⟩ _ _ read_small (by decide +kernel)
  rw [deliveries, deliveries, deliveries, delivery_of_write first fails, fails,
    delivery_of_write second writes]
  decide +kernel

/-- Of two units one fails for the file in the way, and the disk has the file of the other one
in the end. -/
theorem transformAll_frame_obstructed :
    (obstructed.disk.IsTree ∧ obstructed.disk.Anchored roundabout.folder.root ∧
      ∀ unit ∈ [⟨"p/B".toList⟩, ⟨"A".toList⟩],
        ['.', '.'] ∉ (UnitId.output roundabout.options unit).components) ∧
    ∀ place, (roundabout.transformAll obstructed
        [⟨"p/B".toList⟩, ⟨"A".toList⟩]).1.disk.entryAt place =
      obstructed.disk.overlay [(["out".toList, "UncheckedA.java".toList], small.2)] place := by
  have tree : obstructed.disk.IsTree := by decide +kernel
  have anchored : obstructed.disk.Anchored roundabout.folder.root := by decide +kernel
  have level : ∀ unit ∈ [⟨"p/B".toList⟩, ⟨"A".toList⟩],
      ['.', '.'] ∉ (UnitId.output roundabout.options unit).components := by
    decide +kernel
  refine ⟨⟨tree, anchored, level⟩, ?_⟩
  rw [← deliveries_obstructed]
  exact (transformAll_frame roundabout obstructed _ tree anchored level).2.1

/-- A workspace whose output folder is to be a file, reached through a directory that is
missing. -/
def unanchored : Workspace where
  disk.entries :=
    [(["f".toList], .file (.text [])), (["src".toList], .directory),
      (["src".toList, "A.java".toList], .file (.text small.1))]
  chain := [.directory { text := "src".toList }]

/-- A job whose output folder is reached through a directory that may be missing. -/
def adrift : Job where
  options := {}
  folder.root.text := "a/../f".toList

/-- Without the anchor a unit that fails can leave a directory behind. -/
theorem transformAll_frame_unanchored :
    unanchored.disk.IsTree ∧ ['.', '.'] ∉ UnitId.components ⟨"A".toList⟩ ∧
    ['.', '.'] ∉ (UnitId.output adrift.options ⟨"A".toList⟩).components ∧
    (adrift.transformAll unanchored [⟨"A".toList⟩]).2.map Except.isOk = [false] ∧
    unanchored.disk.entryAt ["a".toList] = none ∧
    (adrift.transformAll unanchored [⟨"A".toList⟩]).1.disk.entryAt ["a".toList] =
      some .directory := by
  have writes := (@transform_of_read adrift unanchored ⟨"A".toList⟩ _ _ read_small
    (by decide +kernel)).2
  rw [transformAll_singleton, writes]
  decide +kernel

end Job

end Rethrow
