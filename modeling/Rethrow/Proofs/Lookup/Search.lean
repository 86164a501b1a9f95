import Rethrow.Proofs.Disk.Delivery
import Rethrow.Proofs.Disk.Names
import Rethrow.Source

/-!
# Searching a chain

A source that can be read holds a unit, lacks it, or is obstructed: a file stands where the path
of the unit needs a directory, or a directory stands in place of the file. Only a source that
lacks the unit sends the search on. One that is obstructed ends it with a failure, whatever the
sources behind it hold (`Chain.read_search_obstructed`).

So a search finds the first source that holds the unit if nothing in front of it is obstructed,
and `Chain.read_search` tells every answer in this way.
-/

namespace Rethrow

open Rethrow.Path

/-! ## Files below a directory -/

namespace Disk

variable {disk : Disk} {base path : Path} {unit : UnitId}

theorem walk_of_isDirectory (inside : disk.isDirectory base = true) :
    disk.walk (disk.startOf base) base.steps = .ok (disk.placeOf base) ∧
      disk.entryAt (disk.placeOf base) = some .directory := by
  have named : base.text ≠ [] := by
    intro empty
    simp [isDirectory, stat, locate, empty] at inside
  rw [isDirectory, stat, locate_eq named] at inside
  cases answer : disk.walk (disk.startOf base) base.steps with
  | error e => simp [answer] at inside
  | ok place =>
      have there : place = disk.placeOf base := walk_eq_ok answer
      subst there
      refine ⟨rfl, ?_⟩
      rw [answer] at inside
      cases found : disk.entryAt (disk.placeOf base) with
      | none => simp [found] at inside
      | some entry => cases entry <;> simp_all

/-- A way that goes on from a directory starts anew there. -/
theorem walk_join (inside : disk.isDirectory base = true) (relative : path.isAbsolute = false) :
    disk.walk (disk.startOf (base.join path)) (base.join path).steps =
      disk.walk (disk.placeOf base) path.steps := by
  have found := (walk_of_isDirectory inside).1
  obtain ⟨lead, joined, shape⟩ := steps_join base relative
  have reached : disk.walk (disk.startOf base) lead = .ok (disk.placeOf base) := by
    rcases shape with same | more
    · rw [← same]
      exact found
    · rw [more, walk_append] at found
      cases answer : disk.walk (disk.startOf base) lead with
      | error e => simp [answer] at found
      | ok place =>
          simp only [answer, walk] at found
          split at found
          · exact found
          · simp at found
  rw [startOf_join disk base relative, joined, walk_append, reached]

theorem clear_of_level {start : Place} {steps : List Step} (level : .up ∉ steps) :
    disk.Clear start steps :=
  fun _ first up => absurd (first.subset (List.mem_of_getLast? up)) level

/-- What a path leads to that goes down from a directory: a file on the way is refused, and
otherwise it is what stands at the place. -/
theorem stat_join_unit (tree : disk.IsTree) (inside : disk.isDirectory base = true)
    (plain : unit.Plain) :
    disk.stat (base.join unit.relativePath) =
      if disk.Blocked (disk.placeOf base ++ unit.components).dropLast then .error .notDirectory
      else
        match disk.entryAt (disk.placeOf base ++ unit.components) with
        | some entry => .ok entry
        | none => .error .missing := by
  have found := (walk_of_isDirectory inside).2
  have text := (namesFile_apart disk (unit.namesFile_join base)).choose_spec.choose_spec.2.2.1
  obtain ⟨front, file, shape, -⟩ := unit.components_eq
  rw [stat, locate_eq text, walk_join inside unit.isAbsolute_relativePath, plain.steps, shape,
    List.map_append, List.map_singleton, walk_concat, ← List.append_assoc, List.dropLast_concat]
  have level : Step.up ∉ front.map Step.down := by simp
  have standing := (clear_of_level level).standing tree found
  rw [UnitId.foldl_follow_down] at standing
  generalize disk.walk (disk.placeOf base) (front.map Step.down ++ [.stay]) = answer at standing
  cases standing with
  | inside there =>
      rw [if_neg (tree.not_blocked there)]
      rfl
  | blocked file =>
      rw [if_pos file]
      rfl
  | missing absent free =>
      have nothing : disk.entryAt (disk.placeOf base ++ front ++ [file]) = none :=
        tree.missing_below (by simp [absent]) (List.prefix_append ..) (by simp)
      rw [if_neg free, nothing]
      rfl

end Disk

/-! ## What a source has -/

namespace Source

variable {disk : Disk} {unit : UnitId} {text : Text}

/-- What an archive holds: what is found in the file that is open, or would be if it were opened
now. -/
def held (disk : Disk) (path : Path) (opened : Option Opened) : Option Archive :=
  (opened.or (disk.openArchive path).toOption).map Opened.archive

/-- A source that is there, with a text wherever the unit is looked for. -/
def Readable (disk : Disk) (unit : UnitId) : Source → Prop
  | .directory root => disk.isDirectory root = true ∧
      ∀ content, disk.entryAt (disk.placeOf root ++ unit.components) = some (.file content) →
        ∃ text, content.text? = some text
  | .archive path opened => ∃ archive, held disk path opened = some archive ∧
      ∀ stored, archive.find? unit.fileName = some stored → ∃ text, stored = .text text

/-- A source has the text of a unit, in a file or under an entry. -/
def Holds (disk : Disk) (unit : UnitId) (text : Text) : Source → Prop
  | .directory root => ∃ content,
      disk.entryAt (disk.placeOf root ++ unit.components) = some (.file content) ∧
        content.text? = some text
  | .archive path opened => ∃ archive, held disk path opened = some archive ∧
      archive.find? unit.fileName = some (.text text)

/-- A source has nothing in the place of a unit, and no file on the way there. -/
def Lacks (disk : Disk) (unit : UnitId) : Source → Prop
  | .directory root => disk.entryAt (disk.placeOf root ++ unit.components) = none ∧
      ¬ disk.Blocked (disk.placeOf root ++ unit.components).dropLast
  | .archive path opened => ∃ archive, held disk path opened = some archive ∧
      archive.find? unit.fileName = none

/-- A source has a file where a directory is needed, or a directory in the place of a unit. -/
def Obstructed (disk : Disk) (unit : UnitId) (cause : DiskError) : Source → Prop
  | .directory root =>
    (cause = .notDirectory ∧ disk.Blocked (disk.placeOf root ++ unit.components).dropLast) ∨
      (cause = .isDirectory ∧
        disk.entryAt (disk.placeOf root ++ unit.components) = some .directory)
  | .archive _ _ => False

/-- What a source has to tell of a unit: its text, that there is none, or what is in the way. -/
def Tells (disk : Disk) (unit : UnitId) (source : Source) :
    Except ReadFailure (Option Text) → Prop
  | .ok (some text) => source.Holds disk unit text
  | .ok none => source.Lacks disk unit
  | .error failure =>
    ∃ cause, source.Obstructed disk unit cause ∧ failure = source.failure unit cause

/-- A readable source has the unit, or lacks it, or is obstructed. -/
theorem exists_tells {source : Source} (readable : source.Readable disk unit) :
    ∃ answer, source.Tells disk unit answer := by
  match source with
  | .directory root =>
      obtain ⟨-, texts⟩ := readable
      by_cases blocked : disk.Blocked (disk.placeOf root ++ unit.components).dropLast
      · exact ⟨.error _, .notDirectory, .inl ⟨rfl, blocked⟩, rfl⟩
      · match found : disk.entryAt (disk.placeOf root ++ unit.components) with
        | none => exact ⟨.ok none, found, blocked⟩
        | some .directory => exact ⟨.error _, .isDirectory, .inr ⟨rfl, found⟩, rfl⟩
        | some (.file content) =>
            obtain ⟨text, reads⟩ := texts content found
            exact ⟨.ok (some text), content, found, reads⟩
  | .archive path opened =>
      obtain ⟨archive, opening, texts⟩ := readable
      match found : archive.find? unit.fileName with
      | none => exact ⟨.ok none, archive, opening, found⟩
      | some stored =>
          obtain ⟨text, rfl⟩ := texts stored found
          exact ⟨.ok (some text), archive, opening, found⟩

/-- A directory answers from what the path of the unit leads to. -/
theorem read_directory {root : Path} {answer : Except DiskError Entry}
    (stat : disk.stat (root.join unit.relativePath) = answer) :
    ((directory root).read disk unit).2 =
      Except.mapError ((directory root).failure unit)
        (match answer with
        | .ok .directory => .error .isDirectory
        | .ok (.file content) => content.text?.elim (.error .notText) fun text => .ok (some text)
        | .error .missing => .ok none
        | .error cause => .error cause) := by
  simp only [read, opened, readOpened, readDirectory, Disk.readText, stat]
  match answer with
  | .ok .directory => rfl
  | .ok (.file content) => cases reads : content.text? <;> simp [reads]
  | .error cause => cases cause <;> rfl

/-- An archive answers from what it holds. -/
theorem read_archive {path : Path} {opened : Option Opened} {archive : Archive}
    (opening : held disk path opened = some archive) :
    ((Source.archive path opened).read disk unit).2 =
      (readArchive archive unit).mapError ((Source.archive path opened).failure unit) := by
  cases opened with
  | some file =>
      have same : file.archive = archive := by simpa [held] using opening
      subst same
      rfl
  | none =>
      simp only [read, Source.opened]
      cases now : disk.openArchive path with
      | error e => simp [held, now, Except.toOption] at opening
      | ok file =>
          have same : file.archive = archive := by
            simpa [held, now, Except.toOption] using opening
          subst same
          rfl

variable {source : Source}

/-- Nothing below a file is found. -/
theorem not_blocked_of_found (tree : disk.IsTree) {place : Place} {entry : Entry}
    (found : disk.entryAt (place ++ unit.components) = some entry) :
    ¬ disk.Blocked (place ++ unit.components).dropLast := by
  obtain ⟨front, file, shape, -⟩ := unit.components_eq
  rw [shape, ← List.append_assoc] at found ⊢
  rw [List.dropLast_concat]
  intro blocked
  rw [tree.missing_below_file blocked file] at found
  simp at found

theorem read_of_holds (tree : disk.IsTree) (plain : unit.Plain)
    (readable : source.Readable disk unit) (holds : source.Holds disk unit text) :
    (source.read disk unit).2 = .ok (some text) := by
  match source with
  | .directory root =>
      obtain ⟨content, found, reads⟩ := holds
      rw [read_directory (by rw [Disk.stat_join_unit tree readable.1 plain,
        if_neg (not_blocked_of_found tree found), found])]
      simp only [reads, Option.elim_some, Except.mapError]
  | .archive path opened =>
      obtain ⟨archive, opening, found⟩ := holds
      rw [read_archive opening, readArchive, found]
      rfl

theorem read_of_lacks (tree : disk.IsTree) (plain : unit.Plain)
    (readable : source.Readable disk unit) (lacks : source.Lacks disk unit) :
    (source.read disk unit).2 = .ok none := by
  match source with
  | .directory root =>
      obtain ⟨absent, free⟩ := lacks
      rw [read_directory (by rw [Disk.stat_join_unit tree readable.1 plain, if_neg free, absent])]
      rfl
  | .archive path opened =>
      obtain ⟨archive, opening, absent⟩ := lacks
      rw [read_archive opening, readArchive, absent]
      rfl

theorem read_of_obstructed (tree : disk.IsTree) (plain : unit.Plain)
    (readable : source.Readable disk unit) {cause : DiskError}
    (obstructed : source.Obstructed disk unit cause) :
    (source.read disk unit).2 = .error (source.failure unit cause) := by
  match source with
  | .directory root =>
      rcases obstructed with ⟨rfl, blocked⟩ | ⟨rfl, found⟩
      · rw [read_directory (by rw [Disk.stat_join_unit tree readable.1 plain, if_pos blocked])]
        rfl
      · rw [read_directory (by rw [Disk.stat_join_unit tree readable.1 plain,
          if_neg (not_blocked_of_found tree found), found])]
        rfl

theorem read_of_tells (tree : disk.IsTree) (plain : unit.Plain)
    (readable : source.Readable disk unit) {answer : Except ReadFailure (Option Text)}
    (tells : source.Tells disk unit answer) : (source.read disk unit).2 = answer := by
  match answer with
  | .ok (some _) => exact read_of_holds tree plain readable tells
  | .ok none => exact read_of_lacks tree plain readable tells
  | .error _ =>
      obtain ⟨cause, obstructed, rfl⟩ := tells
      exact read_of_obstructed tree plain readable obstructed

/-- A readable source answers what it has to tell. -/
theorem read_eq_iff (tree : disk.IsTree) (plain : unit.Plain)
    (readable : source.Readable disk unit) {answer : Except ReadFailure (Option Text)} :
    (source.read disk unit).2 = answer ↔ source.Tells disk unit answer := by
  refine ⟨fun answered => ?_, read_of_tells tree plain readable⟩
  obtain ⟨told, tells⟩ := exists_tells readable
  rwa [← answered, read_of_tells tree plain readable tells]

end Source

/-! ## The search -/

namespace Chain

open Source

variable {disk : Disk} {unit : UnitId} {chain : Chain}

/-- A chain is silent if all its sources are. -/
theorem read_silent :
    (Chain.read disk unit chain).2 = .ok none ↔
      ∀ source ∈ chain, (source.read disk unit).2 = .ok none := by
  induction chain with
  | nil => simp [Chain.read]
  | cons source rest ih =>
      rw [Chain.read, List.forall_mem_cons, ← ih]
      generalize source.read disk unit = looked
      match looked with
      | (_, .ok none) => simp
      | (_, .ok (some _)) => simp
      | (_, .error _) => simp

/-- The first element with one property behind elements with another one is the head, or it is
found in the tail. -/
theorem exists_split_cons {α : Type} {P Q : α → Prop} {head : α} {tail : List α} :
    (∃ before middle after, head :: tail = before ++ middle :: after ∧
        (∀ other ∈ before, P other) ∧ Q middle) ↔
      Q head ∨ (P head ∧ ∃ before middle after, tail = before ++ middle :: after ∧
        (∀ other ∈ before, P other) ∧ Q middle) := by
  constructor
  · rintro ⟨before, middle, after, split, passed, found⟩
    cases before with
    | nil =>
        obtain ⟨rfl, rfl⟩ := List.cons.inj split
        exact .inl found
    | cons first before =>
        obtain ⟨rfl, rfl⟩ := List.cons.inj split
        rw [List.forall_mem_cons] at passed
        exact .inr ⟨passed.1, before, middle, after, rfl, passed.2, found⟩
  · rintro (found | ⟨first, before, middle, after, rfl, passed, found⟩)
    · exact ⟨[], head, tail, rfl, by simp, found⟩
    · exact ⟨head :: before, middle, after, rfl, List.forall_mem_cons.mpr ⟨first, passed⟩, found⟩

/-- Any other answer is that of the first source that is not silent. -/
theorem read_loud {answer : Except ReadFailure (Option Text)} (loud : answer ≠ .ok none) :
    (Chain.read disk unit chain).2 = answer ↔
      ∃ before source after, chain = before ++ source :: after ∧
        (∀ other ∈ before, (other.read disk unit).2 = .ok none) ∧
          (source.read disk unit).2 = answer := by
  induction chain with
  | nil => simpa [Chain.read] using loud.symm
  | cons source rest ih =>
      rw [exists_split_cons, Chain.read, ← ih]
      generalize source.read disk unit = looked
      match looked with
      | (_, .ok none) => simp [loud.symm]
      | (_, .ok (some _)) => simp
      | (_, .error _) => simp

/-- What the first source that does not lack the unit has decides on the answer. -/
theorem read_first (tree : disk.IsTree) (plain : unit.Plain)
    (readable : ∀ source ∈ chain, source.Readable disk unit)
    {answer : Except ReadFailure (Option Text)} (loud : answer ≠ .ok none) :
    (Chain.read disk unit chain).2 = answer ↔
      ∃ before source after, chain = before ++ source :: after ∧
        (∀ other ∈ before, other.Lacks disk unit) ∧ source.Tells disk unit answer := by
  rw [read_loud loud]
  refine exists₃_congr fun before source after => and_congr_right fun split => ?_
  subst split
  refine and_congr (forall₂_congr fun other among => ?_) ?_
  · exact read_eq_iff tree plain (readable other (List.mem_append_left _ among))
  · exact read_eq_iff tree plain (readable source (by simp))

/-- Every answer of a search in a chain of readable sources, of a unit whose path consists of names
that the system takes. It is the text of the first source that does not lack the unit, if that
source holds it, and a failure if that source is obstructed; and there is none if all sources lack
the unit. -/
theorem read_search (disk : Disk) (unit : UnitId) (chain : Chain) (tree : disk.IsTree)
    (plain : unit.Plain) (readable : ∀ source ∈ chain, source.Readable disk unit) :
    (∀ text, (Chain.read disk unit chain).2 = .ok (some text) ↔
      ∃ before source after, chain = before ++ source :: after ∧
        (∀ other ∈ before, other.Lacks disk unit) ∧ source.Holds disk unit text) ∧
    ((Chain.read disk unit chain).2 = .ok none ↔ ∀ source ∈ chain, source.Lacks disk unit) ∧
    ∀ failure, (Chain.read disk unit chain).2 = .error failure ↔
      ∃ before source after, chain = before ++ source :: after ∧
        (∀ other ∈ before, other.Lacks disk unit) ∧
          ∃ cause, source.Obstructed disk unit cause ∧ failure = source.failure unit cause := by
  refine ⟨fun text => ?_, ?_, fun failure => ?_⟩
  · exact read_first tree plain readable (by simp)
  · rw [read_silent]
    exact forall₂_congr fun source among => read_eq_iff tree plain (readable source among)
  · exact read_first tree plain readable (by simp)

/-- A disk with a unit in one directory. In another a file has the name of its package, in a third
a directory has the name of its file, and an archive lacks it. -/
def crossed : Disk where
  entries :=
    [(["d".toList], .directory), (["d".toList, "a".toList], .file (.text [])),
      (["e".toList], .directory), (["e".toList, "a".toList], .directory),
      (["e".toList, "a".toList, "C.java".toList], .file (.text "class C \x7b\x7d".toList)),
      (["f".toList], .directory), (["f".toList, "a".toList], .directory),
      (["f".toList, "a".toList, "C.java".toList], .directory),
      (["z.zip".toList], .file (.archive { stored := [("C.java".toList, .text [])] }))]

/-- The unit in the package. -/
def packaged : UnitId where
  text := "a/C".toList

/-- The chain of the archive and one, or more, of the directories. -/
def through (directories : List String) : Chain :=
  .archive { text := "z.zip".toList } none ::
    directories.map fun name => .directory { text := name.toList }

/-- What stands in the place of the unit in the directories. -/
theorem entryAt_crossed :
    let below (name : String) :=
      crossed.entryAt (crossed.placeOf { text := name.toList } ++ packaged.components)
    below "d" = none ∧ below "e" = some (.file (.text "class C \x7b\x7d".toList)) ∧
      below "f" = some .directory := by
  decide +kernel

theorem readable_crossed (directories : List String)
    (among : ∀ name ∈ directories, name = "d" ∨ name = "e" ∨ name = "f") :
    ∀ source ∈ through directories, source.Readable crossed packaged := by
  obtain ⟨inFirst, inSecond, inThird⟩ := entryAt_crossed
  refine List.forall_mem_cons.mpr ⟨⟨_, rfl, fun stored found => ?_⟩, ?_⟩
  · have absent : Archive.find? { stored := [("C.java".toList, .text [])] } packaged.fileName =
        none := by decide
    cases absent.symm.trans found
  · intro source listed
    obtain ⟨name, here, rfl⟩ := List.mem_map.mp listed
    rcases among name here with rfl | rfl | rfl
    · exact ⟨by decide +kernel, fun content found => by cases inFirst.symm.trans found⟩
    · refine ⟨by decide +kernel, fun content found => ?_⟩
      cases inSecond.symm.trans found
      exact ⟨_, rfl⟩
    · exact ⟨by decide +kernel, fun content found => by cases inThird.symm.trans found⟩

/-- The unit is found behind a source that lacks it, and an obstructed one behind it does not
matter. -/
theorem read_search_behind :
    (crossed.IsTree ∧ packaged.Plain ∧
      ∀ source ∈ through ["e", "d"], source.Readable crossed packaged) ∧
    (Chain.read crossed packaged (through ["e", "d"])).2 =
      .ok (some "class C \x7b\x7d".toList) := by
  have tree : crossed.IsTree := by decide +kernel
  have plain : packaged.Plain := by decide +kernel
  have readable := readable_crossed ["e", "d"] (by simp)
  refine ⟨⟨tree, plain, readable⟩, ?_⟩
  refine ((read_search crossed packaged _ tree plain readable).1 _).mpr
    ⟨_, _, _, List.singleton_append.symm, ?_, ?_⟩
  · exact List.forall_mem_singleton.mpr ⟨_, rfl, by decide⟩
  · exact ⟨_, entryAt_crossed.2.1, rfl⟩

/-- In front of the directory with the unit, an obstructed one ends the search with a failure. -/
theorem read_search_obstructed :
    (crossed.IsTree ∧ packaged.Plain ∧
      (∀ source ∈ through ["d", "e"], source.Readable crossed packaged) ∧
      (∀ source ∈ through ["f", "e"], source.Readable crossed packaged) ∧
      Source.Holds crossed packaged "class C \x7b\x7d".toList (.directory { text := "e".toList })) ∧
    (Chain.read crossed packaged (through ["d", "e"])).2 =
      .error { location.text := "d".toList, entry := "a/C.java".toList, cause := .notDirectory } ∧
    (Chain.read crossed packaged (through ["f", "e"])).2 =
      .error { location.text := "f".toList, entry := "a/C.java".toList
               cause := .isDirectory } := by
  exact ⟨⟨by decide +kernel, by decide +kernel, readable_crossed _ (by simp),
    readable_crossed _ (by simp), ⟨_, entryAt_crossed.2.1, rfl⟩⟩, by decide +kernel,
    by decide +kernel⟩

end Chain

end Rethrow
