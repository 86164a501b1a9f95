import Rethrow.Proofs.Batch.Frame
import Rethrow.Proofs.Batch.Lookup

/-!
# Independence of the units of a batch

Units share a disk and a chain of sources. Where the sources lie apart from the output folder
and no unit's file lies in the way of another's, a unit reads what it would read if it were
alone, and its write meets what it would meet: deliveries for others change neither. So the
outcomes do not depend on the order of the units, and neither does the disk in the end.

Both need ways that can be followed on the disk the batch starts on: a location that leads
through the output folder and out again is found or not depending on who comes first.
-/

namespace Rethrow.Job

open Disk

variable {job : Job} {disk : Disk} {locations : List Path} {units : List UnitId}
variable {space : Workspace} {unit : UnitId}

/-- The units of a batch are apart: the ways to the sources and to the output folder can be
followed, no source holds the folder or lies in it, and the file of no unit is on the way to
that of another. -/
structure Apart (job : Job) (disk : Disk) (locations : List Path) (units : List UnitId) :
    Prop where
  tree : disk.IsTree
  root : disk.Anchored job.folder.root
  anchored : ∀ location ∈ locations, disk.Anchored location
  level : ∀ unit ∈ units, ['.', '.'] ∉ unit.components ∧
    ['.', '.'] ∉ (unit.output job.options).components
  outside : ∀ location ∈ locations,
    ¬ disk.placeOf location <+: disk.placeOf job.folder.root ∧
      ¬ disk.placeOf job.folder.root <+: disk.placeOf location
  distinct : ∀ unit ∈ units, ∀ other ∈ units, unit ≠ other →
    ¬ job.sink disk unit <+: job.sink disk other

/-- The workspace in which a batch starts. -/
def start (disk : Disk) (locations : List Path) : Workspace :=
  { disk, chain := Chain.ofLocations disk locations }

/-- What the workspace of a batch may have become: some units were delivered, and some
archives opened. -/
structure Reached (job : Job) (disk : Disk) (locations : List Path) (units : List UnitId)
    (space : Workspace) : Prop where
  delivered : ∃ files, Delivered disk files space.disk ∧
    ∀ file ∈ files, ∃ unit ∈ units, file.1 = job.sink disk unit
  chain : List.Forall₂ (Source.Later disk) (Chain.ofLocations disk locations) space.chain

theorem Reached.start (job : Job) (tree : disk.IsTree) (locations : List Path)
    (units : List UnitId) : Reached job disk locations units (start disk locations) where
  delivered := ⟨[], .refl tree, by simp⟩
  chain := by
    refine List.forall₂_same.mpr fun _ _ => .inl rfl

/-- Places below places that are apart are apart. -/
theorem apart_below {source root file sink : Place} (inSource : source <+: file)
    (inRoot : root <+: sink) (apart : ¬ source <+: root ∧ ¬ root <+: source) :
    ¬ file <+: sink ∧ ¬ sink <+: file := by
  constructor
  · intro below
    rcases List.prefix_or_prefix_of_prefix (inSource.trans below) inRoot with first | second
    · exact apart.1 first
    · exact apart.2 second
  · intro below
    rcases List.prefix_or_prefix_of_prefix inSource (inRoot.trans below) with first | second
    · exact apart.1 first
    · exact apart.2 second

theorem Apart.sink_below (apart : job.Apart disk locations units) (among : unit ∈ units) :
    disk.placeOf job.folder.root <+: job.sink disk unit :=
  placeOf_prefix_join_unit disk job.folder.root (apart.level unit among).2

/-- A write of the batch touches the file of no location. -/
theorem Apart.untouched (apart : job.Apart disk locations units) (among : unit ∈ units)
    {made : Disk} (more : Extends made disk) :
    ∀ location ∈ locations,
      made.writing (job.folder.pathFor (unit.output job.options)) (disk.placeOf location) =
        .same := by
  intro location known
  refine writing_of_ne ?_
  rw [more.placeOf]
  intro same
  exact (apart.outside location known).2 (same ▸ apart.sink_below among)

/-- Deliveries of a batch do not tell in what its sources answer. -/
theorem Apart.agrees (apart : job.Apart disk locations units)
    (reached : Reached job disk locations units space) (among : unit ∈ units)
    {source : Source} (inChain : source ∈ Chain.ofLocations disk locations) :
    Source.Agrees space.disk disk unit source := by
  obtain ⟨location, known, rfl⟩ := List.mem_map.mp inChain
  obtain ⟨files, delivered, sinks⟩ := reached.delivered
  have elsewhere (path : Path) (inside : disk.placeOf location <+: disk.placeOf path)
      (file) (isFile : file ∈ files) :
      ¬ disk.placeOf path <+: file.1 ∧ ¬ file.1 <+: disk.placeOf path := by
    obtain ⟨other, isUnit, same⟩ := sinks file isFile
    rw [same]
    exact apart_below inside (apart.sink_below isUnit) (apart.outside location known)
  have place : (Source.ofLocation disk location).location = location := by
    rw [Source.ofLocation]
    split <;> rfl
  have anchored := apart.anchored location known
  have level := (apart.level unit among).1
  constructor
  · exact delivered.more.placeOf _
  · rw [place]
    exact delivered.stat apart.tree anchored (elsewhere location List.prefix_rfl)
  · rw [place]
    exact delivered.stat apart.tree (anchored.join_unit level)
      (elsewhere _ (placeOf_prefix_join_unit disk location level))

/-- A unit generates what it would generate alone, and leaves the chain as it may become. -/
theorem Apart.product (apart : job.Apart disk locations units)
    (reached : Reached job disk locations units space) (among : unit ∈ units) :
    job.product space unit = job.product (start disk locations) unit ∧
      List.Forall₂ (Source.Later disk) (Chain.ofLocations disk locations)
        (Job.read space unit).1.chain := by
  obtain ⟨answer, kept⟩ := Chain.read_later
    (fun source inChain => apart.agrees reached among inChain) reached.chain
  refine ⟨?_, kept⟩
  simp only [Job.product, Job.read, answer]
  rfl

/-- A unit meets the obstacles it would meet alone. -/
theorem Apart.obstacle (apart : job.Apart disk locations units)
    (reached : Reached job disk locations units space) (among : unit ∈ units) :
    space.disk.obstacle (job.sink disk unit) = disk.obstacle (job.sink disk unit) := by
  obtain ⟨files, delivered, sinks⟩ := reached.delivered
  obtain ⟨directory, name, shape⟩ := placeOf_namesFile disk
    ((unit.output job.options).namesFile_join job.folder.root)
  have shape : job.sink disk unit = directory ++ [name] := shape
  have files (part : Place) (onWay : part <+: directory) :
      space.disk.HasFile part ↔ disk.HasFile part := by
    refine ⟨fun found => ?_, delivered.more.file⟩
    rcases delivered.hasFile found with before | ⟨file, isFile, rfl⟩
    · exact before
    · obtain ⟨other, isUnit, same⟩ := sinks file isFile
      rw [same] at onWay
      have differs : other ≠ unit := by
        rintro rfl
        rw [shape] at onWay
        exact absurd onWay.length_le (by simp)
      refine absurd ?_ (apart.distinct other isUnit unit among differs)
      rw [shape]
      exact onWay.trans (List.prefix_append ..)
  have occupied : space.disk.entryAt (job.sink disk unit) = some .directory ↔
      disk.entryAt (job.sink disk unit) = some .directory := by
    refine ⟨fun found => ?_, delivered.more.directory⟩
    rcases delivered.directory found with before | ⟨file, isFile, below, proper⟩
    · exact before
    · obtain ⟨other, isUnit, same⟩ := sinks file isFile
      rw [same] at below proper
      have differs : unit ≠ other := by
        rintro rfl
        exact proper rfl
      exact absurd below (apart.distinct unit among other isUnit differs)
  have blocked : space.disk.Blocked directory ↔ disk.Blocked directory := by
    simp only [blocked_iff]
    exact exists_congr fun part => and_congr_right (files part)
  simp only [Disk.obstacle, shape, List.dropLast_concat, files directory List.prefix_rfl, blocked,
    shape ▸ occupied]

theorem sink_of_delivery {file : Place × Text} (delivers : job.delivery space unit = some file) :
    file.1 = job.sink space.disk unit := by
  rw [delivery] at delivers
  split at delivers
  · cases delivers
    rfl
  · simp at delivers

/-- A unit has the outcome and the delivery it would have alone, and leaves a workspace that
may be reached. -/
theorem Apart.transform (apart : job.Apart disk locations units)
    (reached : Reached job disk locations units space) (among : unit ∈ units) :
    (job.transform space unit).2 = (job.transform (start disk locations) unit).2 ∧
      job.delivery space unit = job.delivery (start disk locations) unit ∧
      Reached job disk locations units (job.transform space unit).1 := by
  obtain ⟨made, chain⟩ := apart.product reached among
  obtain ⟨files, delivered, sinks⟩ := reached.delivered
  have level := (apart.level unit among).2
  have sameSink : job.sink space.disk unit = job.sink disk unit := delivered.more.placeOf _
  have outcome : (job.transform space unit).2 = (job.transform (start disk locations) unit).2 := by
    rw [transform_eq, transform_eq, made]
    cases job.product (start disk locations) unit with
    | error e => rfl
    | ok content =>
        have written := job.folder.write_congr content apart.tree delivered.tree delivered.more
          apart.root level (apart.obstacle reached among)
        simp only [write_outcome, read_disk, written]
        rfl
  have delivery : job.delivery space unit = job.delivery (start disk locations) unit := by
    rw [Job.delivery, Job.delivery, outcome, made, sameSink]
    rfl
  have step := delivered.trans
    (delivered_transform delivered.tree (delivered.more.anchored apart.root) level)
  refine ⟨outcome, delivery, ⟨_, step, fun file isFile => ?_⟩, ?_⟩
  · rcases List.mem_append.mp isFile with earlier | own
    · exact sinks file earlier
    · exact ⟨unit, among, (sink_of_delivery (Option.mem_toList.mp own)).trans sameSink⟩
  · have untouched := apart.untouched among step.more
    rw [transform_eq] at untouched ⊢
    cases made : job.product space unit with
    | error e => exact chain
    | ok content =>
        rw [made] at untouched
        rcases job.write_chain (Job.read space unit).1 unit content with same | felt
        · rw [same]
          exact chain
        · rw [felt, Chain.after_later chain untouched]
          exact chain

/-- In a run of units of the batch, in any order, each does what it would do alone. -/
theorem Apart.transformAll (apart : job.Apart disk locations units) {order : List UnitId}
    (among : ∀ unit ∈ order, unit ∈ units) (reached : Reached job disk locations units space) :
    (job.transformAll space order).2 =
        order.map (fun unit => (job.transform (start disk locations) unit).2) ∧
      job.deliveries space order = order.filterMap (job.delivery (start disk locations)) := by
  induction order generalizing space with
  | nil => exact ⟨rfl, rfl⟩
  | cons unit rest ih =>
      obtain ⟨outcome, delivery, next⟩ := apart.transform reached (among unit List.mem_cons_self)
      obtain ⟨outcomes, deliveries⟩ := ih
        (fun unit later => among unit (List.mem_cons_of_mem _ later)) next
      refine ⟨?_, ?_⟩
      · rw [Job.transformAll, List.map_cons, ← outcome, ← outcomes]
      · rw [Job.deliveries, delivery, deliveries]
        cases alone : job.delivery (Job.start disk locations) unit with
        | none => rw [List.filterMap_cons_none alone]; rfl
        | some file => rw [List.filterMap_cons_some alone]; rfl

/-- So a run delivers what its units would deliver alone. -/
theorem Apart.entries (apart : job.Apart disk locations units) {order : List UnitId}
    (among : ∀ unit ∈ order, unit ∈ units) (place : Place) :
    (job.transformAll (start disk locations) order).1.disk.entryAt place =
      disk.overlay (order.filterMap (job.delivery (start disk locations))) place := by
  have reached := Reached.start job apart.tree locations units
  have delivered : Delivered (start disk locations).disk
      (job.deliveries (start disk locations) order) _ :=
    delivered_transformAll apart.tree apart.root fun unit ordered =>
      (apart.level unit (among unit ordered)).2
  rw [delivered.entries, (apart.transformAll among reached).2]
  rfl

/-- No two units of a batch deliver to one place. -/
theorem Apart.single (apart : job.Apart disk locations units) :
    ∀ file ∈ units.filterMap (job.delivery (start disk locations)),
      ∀ other ∈ units.filterMap (job.delivery (start disk locations)),
        file.1 = other.1 → file = other := by
  intro file isFile other isOther same
  obtain ⟨unit, among, delivers⟩ := List.mem_filterMap.mp isFile
  obtain ⟨another, amongToo, deliversToo⟩ := List.mem_filterMap.mp isOther
  rw [sink_of_delivery delivers, sink_of_delivery deliversToo] at same
  by_cases equal : unit = another
  · subst equal
    simpa [delivers] using deliversToo
  · refine absurd ?_ (apart.distinct unit among another amongToo equal)
    exact same ▸ List.prefix_rfl

/-- Where the units are apart, each has the outcome it would have alone in whatever order one worker
attempts them, and the disk in the end is the same. -/
theorem transformAll_perm (job : Job) (disk : Disk) (locations : List Path)
    (units others : List UnitId) (apart : job.Apart disk locations units)
    (perm : units.Perm others) :
    let outcome (unit : UnitId) := (job.transform (start disk locations) unit).2
    let run := job.transformAll (start disk locations) units
    let other := job.transformAll (start disk locations) others
    run.2 = units.map outcome ∧ other.2 = others.map outcome ∧
      ∀ place, other.1.disk.entryAt place = run.1.disk.entryAt place := by
  intro outcome run other
  have reached := Reached.start job apart.tree locations units
  refine ⟨(apart.transformAll (fun _ => id) reached).1,
    (apart.transformAll (fun _ => perm.mem_iff.mpr) reached).1, fun place => ?_⟩
  calc other.1.disk.entryAt place
      = disk.overlay (others.filterMap (job.delivery (start disk locations))) place :=
        apart.entries (fun _ => perm.mem_iff.mpr) place
    _ = disk.overlay (units.filterMap (job.delivery (start disk locations))) place :=
        (overlay_perm (perm.filterMap _) apart.single).symm
    _ = run.1.disk.entryAt place := (apart.entries (fun _ => id) place).symm

/-- A disk with a source in a directory and one in an archive, and no output folder yet. -/
def twoSources : Disk where
  entries :=
    [(["s".toList], .directory), (["s".toList, "A.java".toList], .file (.text small.1)),
      (["x".toList], .directory),
      (["b.zip".toList], .file (.archive { stored := [("B.java".toList, .text small.1)] }))]

/-- The job with the usual options and output folder. -/
def usual : Job where
  options := {}
  folder.root.text := "out".toList

/-- The locations of the two sources, the archive reached along some way. -/
def locationsBy (way : Text) : List Path :=
  [{ text := "s".toList }, { text := way ++ "b.zip".toList }]

/-- The unit in the directory. -/
def unitA : UnitId where
  text := "A".toList

/-- The unit in the archive. -/
def unitB : UnitId where
  text := "B".toList

/-- Two units may be swapped, although one of them makes the output folder for the other. -/
theorem transformAll_perm_twoSources :
    (usual.Apart twoSources (locationsBy "x/../".toList) [unitA, unitB] ∧
      [unitA, unitB].Perm [unitB, unitA]) ∧
    let space := start twoSources (locationsBy "x/../".toList)
    (usual.transformAll space [unitB, unitA]).2 =
        (usual.transformAll space [unitA, unitB]).2.reverse ∧
      ∀ place, (usual.transformAll space [unitB, unitA]).1.disk.entryAt place =
        (usual.transformAll space [unitA, unitB]).1.disk.entryAt place := by
  have apart : usual.Apart twoSources (locationsBy "x/../".toList) [unitA, unitB] := by
    constructor <;> decide +kernel
  have perm : [unitA, unitB].Perm [unitB, unitA] := .swap ..
  obtain ⟨outcomes, swapped, entries⟩ := transformAll_perm usual twoSources _ _ _ apart perm
  refine ⟨⟨apart, perm⟩, ?_, entries⟩
  rw [outcomes, swapped]
  rfl

theorem transformAll_pair (job : Job) (space : Workspace) (first second : UnitId) :
    (job.transformAll space [first, second]).2 =
      [(job.transform space first).2,
        (job.transform (job.transform space first).1 second).2] := rfl

/-- The workspace of a batch whose archive is reached through the output folder. -/
def detour : Workspace :=
  start twoSources (locationsBy "x/../out/../".toList)

/-- Without the anchor the order matters: a location that leads through the output folder and
out again is found once the folder is there, so the unit in it succeeds behind the other one
and fails in front of it. -/
theorem transformAll_perm_unanchored :
    (twoSources.IsTree ∧
      (∀ location ∈ locationsBy "x/../out/../".toList,
        ¬ twoSources.placeOf location <+: twoSources.placeOf usual.folder.root ∧
          ¬ twoSources.placeOf usual.folder.root <+: twoSources.placeOf location) ∧
      (∀ unit ∈ [unitA, unitB], ∀ part ∈ [['.'], ['.', '.']],
        part ∉ unit.components ∧ part ∉ (unit.output usual.options).components) ∧
      ∀ unit ∈ [unitA, unitB], ∀ other ∈ [unitA, unitB], unit ≠ other →
        ¬ usual.sink twoSources unit <+: usual.sink twoSources other) ∧
    (usual.transformAll detour [unitA, unitB]).2.map Except.isOk = [true, true] ∧
    (usual.transformAll detour [unitB, unitA]).2.map Except.isOk = [false, true] := by
  refine ⟨by decide +kernel, ?_, ?_⟩
  · have first := (@transform_of_read usual detour unitA _ _ read_small (by decide +kernel)).2
    have second := (@transform_of_read usual
      (usual.write (Job.read detour unitA).1 unitA small.2).1 unitB _ _ read_small
      (by decide +kernel)).2
    rw [transformAll_pair, first, second]
    decide +kernel
  · have second := (@transform_of_read usual (usual.transform detour unitB).1 unitA _ _ read_small
      (by decide +kernel)).2
    rw [transformAll_pair, second]
    decide +kernel

end Rethrow.Job
