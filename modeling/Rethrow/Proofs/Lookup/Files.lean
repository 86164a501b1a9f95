import Rethrow.Batch
import Rethrow.Proofs.Archive.Open
import Rethrow.Proofs.Disk.Delivery

/-!
# The files that a chain has open

An open archive is followed by the place of its file. This is sound: what a change of the disk is
said to mean for the files at its places is what it does to them, be it a step of a run of lookups
(`LookupStep.becomes_change`) or a write of a batch (`Folder.becomes_write`). So an archive that
stands somewhere finds there the archive that it was opened as, or a text that was written over
it, in every run of lookups (`LookupStep.stands_runAll`) and in every batch
(`Job.stands_transformAll`).
-/

namespace Rethrow

namespace Disk

variable {disk made last : Disk} {place target : Place} {path : Path} {fate : Place → Fate}
  {content : Text}

/-- A disk becomes another one by a change that means for its files what it is said to mean. -/
def Becomes (disk : Disk) (fate : Place → Fate) (made : Disk) : Prop :=
  ∀ place content, disk.entryAt place = some (.file content) →
    match fate place with
    | .same => made.entryAt place = some (.file content)
    | .overwritten => ∃ text, made.entryAt place = some (.file (.text text))
    | .gone => True

theorem Becomes.refl (disk : Disk) : disk.Becomes (fun _ => .same) disk :=
  fun _ _ found => found

theorem Becomes.trans (first : disk.Becomes (fun _ => .same) made)
    (later : made.Becomes fate last) : disk.Becomes fate last :=
  fun place content found => later place content (first place content found)

theorem entryAt_putWay {base : Place} {names : List Text} (apart : ¬ place <+: base ++ names) :
    (disk.putWay base names).entryAt place = disk.entryAt place := by
  fun_induction putWay disk base names with
  | case1 => rfl
  | case2 disk base name rest next found ih => exact ih (by simpa [next] using apart)
  | case3 disk base name rest next other ih =>
      rw [ih (by simpa [next] using apart)]
      refine entryAt_put_of_ne disk _ ?_
      rintro rfl
      exact apart (by simp [next])

theorem entryAt_remove (apart : ¬ target <+: place) :
    (disk.remove target).entryAt place = disk.entryAt place := by
  have outside : target.isPrefixOf place = false :=
    Bool.eq_false_iff.mpr fun below => apart (List.isPrefixOf_iff_prefix.mp below)
  have kept := lookup_filter (fun old => !target.isPrefixOf old) (by rw [outside]; rfl) disk.entries
  simp only [entryAt, remove, kept]

/-- Putting an entry moves the files on the way to it and below it. -/
theorem becomes_install (disk : Disk) (names : List Text) (entry : Entry) :
    disk.Becomes (LookupStep.fate disk (.put names entry)) (disk.install names entry) := by
  intro place content found
  by_cases settled : disk.isSettled (disk.here ++ names) entry
  · simpa [LookupStep.fate, install, settled] using found
  · by_cases near : place <+: disk.here ++ names ∨ disk.here ++ names <+: place
    · simp [LookupStep.fate, settled, near]
    · obtain ⟨above, below⟩ := not_or.mp near
      simp only [LookupStep.fate, install, settled, Bool.or_eq_true, List.isPrefixOf_iff_prefix,
        near, if_false, Bool.false_eq_true]
      have elsewhere : place ≠ disk.here ++ names := fun same => above (same ▸ List.prefix_rfl)
      have offWay : ¬ place <+: disk.here ++ names.dropLast := fun onWay =>
        above (onWay.trans ((List.prefix_append_right_inj _).mpr (List.dropLast_prefix names)))
      rw [entryAt_put_of_ne _ _ elsewhere, entryAt_remove below, entryAt_putWay offWay, found]

theorem becomes_remove (disk : Disk) (names : List Text) :
    disk.Becomes (LookupStep.fate disk (.remove names)) (disk.remove (disk.here ++ names)) := by
  intro place content found
  by_cases below : disk.here ++ names <+: place
  · simp [LookupStep.fate, below]
  · simp only [LookupStep.fate, List.isPrefixOf_iff_prefix, below, if_false]
    rw [entryAt_remove below, found]

/-- What a write that succeeds has found and made. -/
theorem writeText_eq_ok (written : disk.writeText path content = .ok made) :
    ∃ place, disk.locate path = .ok place ∧ disk.entryAt place ≠ some .directory ∧
      made = disk.put place (.file (.text content)) := by
  rw [writeText] at written
  cases located : disk.locate path with
  | error e => simp [located] at written
  | ok place =>
      simp only [located] at written
      split at written
      · simp at written
      · rename_i vacant
        exact ⟨place, rfl, vacant, (Except.ok.inj written).symm⟩

theorem becomes_writeText (written : disk.writeText path content = .ok made) :
    disk.Becomes (disk.writing path) made := by
  obtain ⟨there, located, vacant, rfl⟩ := writeText_eq_ok written
  intro place held found
  simp only [writing, located, Except.toOption, Option.some.injEq, entryAt_put disk _ vacant]
  by_cases same : there = place
  · simp [same]
  · simpa [same, Ne.symm same] using found

theorem Extends.locate (more : Extends made disk) (known : disk.locate path ≠ .error .missing) :
    made.locate path = disk.locate path := by
  rw [Disk.locate] at known ⊢
  rw [Disk.locate, more.here]
  split
  · rfl
  · rename_i named
    rw [if_neg named] at known
    exact more.walk known

/-- A file is written where it can be found again. -/
theorem writing_of_written (written : disk.writeText path content = .ok made) :
    made.writing path = disk.writing path := by
  obtain ⟨there, located, vacant, rfl⟩ := writeText_eq_ok written
  have known : disk.locate path ≠ .error .missing := by simp [located]
  funext place
  rw [writing, writing, (extends_put_file vacant _).locate known]

theorem becomes_makeDirectory (done : disk.makeDirectory path = .ok made) :
    disk.Becomes (fun _ => .same) made := by
  intro place content found
  rw [makeDirectory] at done
  split at done
  · split at done
    · simp at done
    · rename_i there located _ absent
      cases done
      have elsewhere : place ≠ there := by
        rintro rfl
        simp [absent] at found
      exact (entryAt_put_of_ne disk _ elsewhere).trans found
  · simp at done

theorem becomes_makeDirectories (disk : Disk) (paths : List Path) :
    disk.Becomes (fun _ => .same) (disk.makeDirectories paths).1 := by
  induction paths with
  | nil => exact .refl disk
  | cons path above ih =>
      rw [makeDirectories]
      cases first : disk.makeDirectory path with
      | ok made => exact becomes_makeDirectory first
      | error e =>
          cases e with
          | missing =>
              generalize disk.makeDirectories above = reached at ih
              obtain ⟨upper, _ | _⟩ := reached
              · exact ih
              · simp only
                cases second : upper.makeDirectory path with
                | ok made => exact ih.trans (becomes_makeDirectory second)
                | error e => exact ih
          | _ => exact .refl disk

theorem becomes_prepare (disk : Disk) (path : Path) :
    disk.Becomes (fun _ => .same) (Folder.prepare disk path).1 := by
  rw [Folder.prepare]
  split
  · exact .refl disk
  · exact becomes_makeDirectories disk _

end Disk

/-- The write of a file does to the files of a disk what it is said to mean for them. -/
theorem Folder.becomes_write (folder : Folder) (disk : Disk) (unit : UnitId) (content : Text) :
    match folder.write disk unit content with
    | (made, .ok path) => disk.Becomes (made.writing path) made
    | (made, .error _) => disk.Becomes (fun _ => .same) made := by
  have ready := Disk.becomes_prepare disk (folder.pathFor unit)
  simp only [write]
  generalize prepare disk (folder.pathFor unit) = prepared at ready
  obtain ⟨prepared, _ | _⟩ := prepared
  · exact ready
  · cases written : prepared.writeText (folder.pathFor unit) content with
    | error e => simpa only [written] using ready
    | ok made =>
        have felt := Disk.writing_of_written written
        simp only [written]
        exact ready.trans (felt ▸ Disk.becomes_writeText written)

namespace LookupStep

/-- A step does to the files of a disk what it is said to mean for them. -/
theorem becomes_change (disk : Disk) (step : LookupStep) :
    disk.Becomes (step.fate disk) (step.change disk) := by
  cases step with
  | read unit => exact .refl disk
  | push path => exact .refl disk
  | put names entry => exact disk.becomes_install names entry
  | remove names => exact disk.becomes_remove names
  | write path content =>
      cases written : disk.writeText path content with
      | error e =>
          have felt : (write path content).fate disk = fun _ => .same := by
            funext place
            rw [fate, written]
          rw [felt, change, written]
          exact .refl disk
      | ok made =>
          have felt : (write path content).fate disk = disk.writing path := by
            funext place
            rw [fate, written]
          rw [felt, change, written]
          exact Disk.becomes_writeText written

end LookupStep

/-! ## Where open archives stand -/

/-- An open archive that stands somewhere stands in a file. That is the archive, or a text that
was written over it. -/
def Opened.Stands (disk : Disk) (opened : Opened) : Prop :=
  ∀ place, opened.place = some place → ∃ content, disk.entryAt place = some (.file content) ∧
    (content.archive? = some opened.archive ∨
      (∃ text, content = .text text) ∧ opened.archive.overwritten = opened.archive)

theorem Opened.Stands.after {disk made : Disk} {fate : Place → Fate} {opened : Opened}
    (stands : opened.Stands disk) (becomes : disk.Becomes fate made) :
    (opened.after fate).Stands made := by
  obtain ⟨_ | place, archive⟩ := opened
  · intro place standing
    simp [Opened.after, Opened.fate] at standing
  · obtain ⟨content, found, what⟩ := stands place rfl
    have next := becomes place content found
    rw [Opened.after, Opened.fate, Option.map_some, Option.getD_some]
    cases felt : fate place with
    | gone =>
        intro other standing
        simp at standing
    | same =>
        rintro other ⟨⟩
        rw [felt] at next
        exact ⟨content, next, what⟩
    | overwritten =>
        rintro other ⟨⟩
        rw [felt] at next
        obtain ⟨text, now⟩ := next
        exact ⟨.text text, now, .inr ⟨⟨text, rfl⟩, archive.overwritten_overwritten⟩⟩

theorem Opened.stands_openArchive {disk : Disk} {path : Path} {opened : Opened}
    (opening : disk.openArchive path = .ok opened) : opened.Stands disk := by
  obtain ⟨standing, content, found, reads⟩ := Disk.openArchive_eq_ok opening
  intro place here
  obtain rfl : _ = place := Option.some.inj (standing.symm.trans here)
  exact ⟨content, found, .inl reads⟩

/-- The archive of a source, if it is open, stands. -/
def Source.Stands (disk : Disk) : Source → Prop
  | .archive _ (some opened) => opened.Stands disk
  | _ => True

/-- A source that joins a chain has nothing open. -/
theorem Source.stands_ofLocation (disk : Disk) (path : Path) :
    (Source.ofLocation disk path).Stands disk := by
  rw [ofLocation]
  split <;> trivial

theorem Source.Stands.after {disk made : Disk} {fate : Place → Fate} {source : Source}
    (stands : source.Stands disk) (becomes : disk.Becomes fate made) :
    (source.after fate).Stands made := by
  match source with
  | .directory _ => trivial
  | .archive _ none => trivial
  | .archive _ (some _) => exact Opened.Stands.after stands becomes

/-- A change that is felt by no file changes no source. -/
theorem Source.after_same (source : Source) : source.after (fun _ => .same) = source := by
  have untouched (opened : Opened) : opened.after (fun _ => .same) = opened := by
    refine Opened.after_of_same ?_
    rw [Opened.fate]
    cases opened.place <;> rfl
  cases source with
  | directory root => rfl
  | archive path opened => cases opened <;> simp [after, untouched]

theorem Source.Stands.read {disk : Disk} {source : Source} (stands : source.Stands disk)
    (unit : UnitId) : (source.read disk unit).1.Stands disk := by
  match source with
  | .directory _ => trivial
  | .archive _ (some _) => exact stands
  | .archive path none =>
      simp only [Source.read, Source.opened]
      cases opening : disk.openArchive path with
      | error e => trivial
      | ok opened => exact Opened.stands_openArchive opening

/-- All open archives of a chain stand. -/
def Workspace.Stands (space : Workspace) : Prop :=
  ∀ source ∈ space.chain, source.Stands space.disk

theorem Chain.stands_read {disk : Disk} {chain : Chain} (unit : UnitId)
    (stands : ∀ source ∈ chain, source.Stands disk) :
    ∀ source ∈ (Chain.read disk unit chain).1, source.Stands disk := by
  induction chain with
  | nil => exact stands
  | cons source rest ih =>
      rw [List.forall_mem_cons] at stands
      have first := stands.1.read unit
      rw [Chain.read]
      generalize source.read disk unit = looked at first
      obtain ⟨source, _ | _ | _⟩ := looked
      · exact List.forall_mem_cons.mpr ⟨first, stands.2⟩
      · exact List.forall_mem_cons.mpr ⟨first, ih stands.2⟩
      · exact List.forall_mem_cons.mpr ⟨first, stands.2⟩

theorem Workspace.Stands.after {space : Workspace} {fate : Place → Fate} {made : Disk}
    (stands : space.Stands) (becomes : space.disk.Becomes fate made) :
    Workspace.Stands { disk := made, chain := space.chain.after fate } := by
  intro source among
  obtain ⟨before, known, rfl⟩ := List.mem_map.mp among
  exact (stands before known).after becomes

theorem Workspace.stands_ofLocations (disk : Disk) (locations : List Path) :
    Workspace.Stands { disk, chain := Chain.ofLocations disk locations } := by
  intro source among
  obtain ⟨location, -, rfl⟩ := List.mem_map.mp among
  exact Source.stands_ofLocation disk location

namespace LookupStep

theorem stands_run {space : Workspace} (stands : space.Stands) (step : LookupStep) :
    (step.run space).1.Stands := by
  cases step with
  | read unit => exact Chain.stands_read unit stands
  | push path =>
      intro source among
      rcases List.mem_append.mp among with before | new
      · exact stands source before
      · exact List.mem_singleton.mp new ▸ Source.stands_ofLocation space.disk path
  | put _ _ | remove _ | write _ _ => exact stands.after (becomes_change space.disk _)

/-- In every run of lookups the open archives of a chain stand. -/
theorem stands_runAll {space : Workspace} (stands : space.Stands) (steps : List LookupStep) :
    (runAll space steps).1.Stands := by
  induction steps generalizing space with
  | nil => exact stands
  | cons step rest ih => exact ih (stands_run stands step)

end LookupStep

namespace Job

theorem stands_write (job : Job) {space : Workspace} (stands : space.Stands) (unit : UnitId)
    (content : Text) : (job.write space unit content).1.Stands := by
  have becomes := job.folder.becomes_write space.disk (unit.output job.options) content
  rw [write]
  generalize job.folder.write space.disk (unit.output job.options) content = answer at becomes
  obtain ⟨made, _ | path⟩ := answer
  · intro source among
    exact source.after_same ▸ (stands source among).after becomes
  · exact stands.after becomes

theorem stands_transform (job : Job) {space : Workspace} (stands : space.Stands) (unit : UnitId) :
    (job.transform space unit).1.Stands := by
  have looked : (Job.read space unit).1.Stands := Chain.stands_read unit stands
  rw [transform]
  generalize Job.read space unit = reading at looked
  obtain ⟨space, _ | source⟩ := reading
  · exact looked
  · simp only
    split
    · exact looked
    · exact job.stands_write looked unit _

/-- So they do in every batch. -/
theorem stands_transformAll (job : Job) {space : Workspace} (stands : space.Stands)
    (units : List UnitId) : (job.transformAll space units).1.Stands := by
  induction units generalizing space with
  | nil => exact stands
  | cons unit rest ih => exact ih (job.stands_transform stands unit)

end Job

end Rethrow
