import Mathlib.Data.List.Forall2
import Rethrow.Proofs.Archive.Open
import Rethrow.Source

/-!
# Lookups on a disk that changes elsewhere

A chain opens its archives as they are needed, so which of them are open tells what was looked
up before. It does not tell in the answers: an archive that was opened early holds what it
would hold if it were opened now, as long as the disk answers for the chain's locations as
it did. Nor do changes of the disk that touch no file of the chain's locations.
-/

namespace Rethrow

namespace Source

variable {disk made : Disk} {source later : Source} {unit : UnitId}

/-- A source as it may be after some lookups: untouched, or opened on the disk. -/
def Later (disk : Disk) (source later : Source) : Prop :=
  later = source ∨ source.opened disk = .ok later

/-- Two disks answer alike for a source and for a unit in it. -/
structure Agrees (made disk : Disk) (unit : UnitId) (source : Source) : Prop where
  place : made.placeOf source.location = disk.placeOf source.location
  location : made.stat source.location = disk.stat source.location
  file : made.stat (source.location.join unit.relativePath) =
    disk.stat (source.location.join unit.relativePath)

theorem opened_congr (agrees : Agrees made disk unit source) :
    source.opened made = source.opened disk := by
  match source with
  | .directory _ => rfl
  | .archive _ (some _) => rfl
  | .archive path none =>
      have same : made.openArchive path = disk.openArchive path :=
        Disk.openArchive_congr agrees.place agrees.location
      rw [opened, opened, same]

theorem readOpened_congr (agrees : Agrees made disk unit source) :
    source.readOpened made unit = source.readOpened disk unit := by
  match source with
  | .directory root =>
      have same : made.stat (root.join unit.relativePath) =
          disk.stat (root.join unit.relativePath) := agrees.file
      simp only [readOpened, readDirectory, Disk.readText, same]
  | .archive _ (some _) => rfl
  | .archive _ none => rfl

/-- A source that was opened is open on every disk, and where it was. -/
theorem opened_again (made : Disk) (opening : source.opened disk = .ok later) :
    later.opened made = .ok later ∧ later.location = source.location := by
  match source with
  | .directory _ =>
      cases opening
      exact ⟨rfl, rfl⟩
  | .archive _ (some _) =>
      cases opening
      exact ⟨rfl, rfl⟩
  | .archive path none =>
      rw [opened] at opening
      cases held : disk.openArchive path with
      | error e => simp [held, Except.map] at opening
      | ok archive =>
          simp only [held, Except.map, Except.ok.injEq] at opening
          subst opening
          exact ⟨rfl, rfl⟩

/-- Lookups in between do not tell in the answer of a source. -/
theorem read_later (agrees : Agrees made disk unit source) (held : Later disk source later) :
    (later.read made unit).2 = (source.read disk unit).2 ∧
      Later disk source (later.read made unit).1 := by
  rcases held with rfl | opening
  · rw [read, read, opened_congr agrees]
    cases opening : later.opened disk with
    | error e => exact ⟨rfl, .inl rfl⟩
    | ok ready =>
        have place := (opened_again disk opening).2
        have agreesReady : Agrees made disk unit ready :=
          ⟨place ▸ agrees.place, place ▸ agrees.location, place ▸ agrees.file⟩
        simp only [readOpened_congr agreesReady, true_and]
        exact .inr opening
  · obtain ⟨again, place⟩ := opened_again made opening
    have agreesLater : Agrees made disk unit later :=
      ⟨place ▸ agrees.place, place ▸ agrees.location, place ▸ agrees.file⟩
    simp only [read, again, opening, readOpened_congr agreesLater]
    refine ⟨?_, .inr opening⟩
    congr 1
    funext cause
    simp only [failure, place]

/-- A source is touched by a change only in the file of its location. -/
theorem after_later {location : Path} {change : Place → Fate}
    (held : Later disk (ofLocation disk location) later)
    (untouched : change (disk.placeOf location) = .same) : later.after change = later := by
  rw [ofLocation] at held
  split at held
  · have same : later = .directory location := by
      rcases held with same | opening
      · exact same
      · exact (Except.ok.inj opening).symm
    rw [same, after]
  · rcases held with rfl | opening
    · rfl
    · rw [opened] at opening
      cases found : disk.openArchive location with
      | error e => simp [found, Except.map] at opening
      | ok file =>
          simp only [found, Except.map, Except.ok.injEq] at opening
          subst opening
          have same : file.fate change = .same := by
            rw [Opened.fate, (Disk.openArchive_eq_ok found).1, Option.map_some, untouched,
              Option.getD_some]
          rw [after, Option.map_some, Opened.after_of_same same]

end Source

namespace Chain

open Source

/-- Nor do they in the answer of a chain. -/
theorem read_later {disk made : Disk} {unit : UnitId} {chain later : Chain}
    (agrees : ∀ source ∈ chain, Agrees made disk unit source)
    (held : List.Forall₂ (Later disk) chain later) :
    (Chain.read made unit later).2 = (Chain.read disk unit chain).2 ∧
      List.Forall₂ (Later disk) chain (Chain.read made unit later).1 := by
  induction held with
  | nil => exact ⟨rfl, .nil⟩
  | @cons source now rest laterRest first behind ih =>
      obtain ⟨answer, kept⟩ := Source.read_later (agrees source List.mem_cons_self) first
      obtain ⟨answers, keptRest⟩ := ih fun source among =>
        agrees source (List.mem_cons_of_mem _ among)
      rw [Chain.read, Chain.read]
      generalize now.read made unit = looked at answer kept
      generalize source.read disk unit = expected at answer
      obtain ⟨now, found⟩ := looked
      obtain ⟨_, _⟩ := expected
      subst answer
      match found with
      | .ok none => exact ⟨answers, .cons kept keptRest⟩
      | .ok (some _) => exact ⟨rfl, .cons kept behind⟩
      | .error _ => exact ⟨rfl, .cons kept behind⟩

/-- A chain is touched by a change only in the files of its locations. -/
theorem after_later {disk : Disk} {locations : List Path} {later : Chain} {change : Place → Fate}
    (held : List.Forall₂ (Later disk) (ofLocations disk locations) later)
    (untouched : ∀ location ∈ locations, change (disk.placeOf location) = .same) :
    later.after change = later := by
  rw [ofLocations, List.forall₂_map_left_iff] at held
  induction held with
  | nil => rfl
  | cons first _ ih =>
      rw [List.forall_mem_cons] at untouched
      exact congrArg₂ List.cons (Source.after_later first untouched.1) (ih untouched.2)

end Chain

end Rethrow
