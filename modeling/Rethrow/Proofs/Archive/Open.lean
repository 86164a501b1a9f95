import Rethrow.Archive.Open
import Rethrow.Proofs.Disk.Ways

/-!
# The files of open archives

An archive that was opened by a path stands at the place of that path, and it is touched by what
happens to the file there and by nothing else. Disks that answer alike for the path open the
same.

Of many changes the first that touches the file decides what the archive has from then on
(`Opened.later`): a file that is gone from its place is not written into any more.
-/

namespace Rethrow

namespace Disk

variable {disk made : Disk} {path : Path} {place : Place} {opened : Opened}

theorem place_of_locate (found : disk.locate path = .ok place) : place = disk.placeOf path := by
  rw [locate] at found
  split at found
  · simp at found
  · exact walk_eq_ok found

theorem locate_of_stat {entry : Entry} (found : disk.stat path = .ok entry) :
    disk.locate path = .ok (disk.placeOf path) ∧
      disk.entryAt (disk.placeOf path) = some entry := by
  rw [stat] at found
  cases located : disk.locate path with
  | error e => simp [located] at found
  | ok place =>
      obtain rfl := place_of_locate located
      refine ⟨rfl, ?_⟩
      simp only [located] at found
      split at found
      · rename_i there
        rw [there, Except.ok.inj found]
      · simp at found

/-- What an opening that succeeds has found. -/
theorem openArchive_eq_ok (opening : disk.openArchive path = .ok opened) :
    opened.place = some (disk.placeOf path) ∧ ∃ content,
      disk.entryAt (disk.placeOf path) = some (.file content) ∧
        content.archive? = some opened.archive := by
  rw [openArchive] at opening
  split at opening
  · simp at opening
  · rename_i content found
    obtain ⟨located, there⟩ := locate_of_stat found
    split at opening
    · rename_i archive reads
      cases opening
      exact ⟨by rw [located]; rfl, content, there, reads⟩
    · simp at opening
  · simp at opening

theorem openArchive_congr (place : made.placeOf path = disk.placeOf path)
    (same : made.stat path = disk.stat path) : made.openArchive path = disk.openArchive path := by
  rw [openArchive, openArchive, same]
  cases found : disk.stat path with
  | error e => rfl
  | ok entry =>
      rw [(locate_of_stat found).1, (locate_of_stat (same.trans found)).1, place]

/-- A write is felt at the place of its path alone. -/
theorem writing_of_ne (apart : disk.placeOf path ≠ place) : disk.writing path place = .same := by
  rw [writing, if_neg]
  intro located
  cases answer : disk.locate path with
  | error e => simp [answer, Except.toOption] at located
  | ok found =>
      have here : found = place := by simpa [answer, Except.toOption] using located
      exact apart (place_of_locate answer ▸ here)

end Disk

theorem Archive.overwritten_overwritten (archive : Archive) :
    archive.overwritten.overwritten = archive.overwritten := by
  simp [overwritten]

/-- An open archive after some changes of the disk, oldest first. Unless the first one that
touches its file is a write into it, it has what it had. -/
def Opened.later (changes : List (Place → Fate)) (opened : Opened) : Opened where
  place := if .gone ∈ changes.map opened.fate then none else opened.place
  archive :=
    match (changes.map opened.fate).find? (· ≠ .same) with
    | some .overwritten => opened.archive.overwritten
    | _ => opened.archive

namespace Opened

theorem after_of_same {change : Place → Fate} {opened : Opened}
    (same : opened.fate change = .same) : opened.after change = opened := by
  rw [after, same]

theorem later_nil (opened : Opened) : opened.later [] = opened := by
  simp [later]

/-- An archive whose file is not written into has what it had. -/
theorem archive_later {changes : List (Place → Fate)} {opened : Opened}
    (spared : .overwritten ∉ changes.map opened.fate) :
    (opened.later changes).archive = opened.archive := by
  rw [later]
  cases found : (changes.map opened.fate).find? (· ≠ .same) with
  | none => rfl
  | some first =>
      have among := List.mem_of_find?_eq_some found
      cases first with
      | overwritten => exact absurd among spared
      | same | gone => rfl

/-- A file that is gone is not touched any more. -/
theorem fate_later {changes : List (Place → Fate)} (opened : Opened) (change : Place → Fate) :
    (opened.later changes).fate change =
      if .gone ∈ changes.map opened.fate then .same else opened.fate change := by
  rw [fate, later]
  split <;> rfl

/-- What some changes have made of an open archive is what the last one makes of it after the
others. -/
theorem later_concat (opened : Opened) (changes : List (Place → Fate)) (change : Place → Fate) :
    opened.later (changes ++ [change]) = (opened.later changes).after change := by
  rw [after, fate_later]
  simp only [later, List.map_append, List.map_singleton, List.find?_append, List.mem_append,
    List.mem_singleton]
  generalize changes.map opened.fate = fates
  generalize opened.fate change = last
  by_cases gone : .gone ∈ fates
  · -- Some change before the last one has touched the file, and none counts behind it.
    obtain ⟨first, found⟩ : ∃ first, fates.find? (· ≠ .same) = some first :=
      Option.isSome_iff_exists.mp (List.find?_isSome.mpr ⟨.gone, gone, rfl⟩)
    simp only [gone, found, true_or, if_true, Option.some_or]
  · cases found : fates.find? (· ≠ .same) with
    | none => cases last <;> simp [gone]
    | some first =>
        have touched := List.find?_some found
        have among := List.mem_of_find?_eq_some found
        cases first with
        | same => simp at touched
        | gone => exact absurd among gone
        | overwritten => cases last <;> simp [gone, Archive.overwritten_overwritten]

end Opened

end Rethrow
