import Rethrow.Proofs.Disk.Tree

/-!
# Files delivered to a disk

A file comes with the directories that lead to it, as far as they are missing. `overlay` says
what a disk holds once some files were delivered to it one after another: deliveries add up,
and where they go to different places their order does not matter.
-/

namespace Rethrow.Disk

variable {disk made : Disk} {place : Place} {files : List (Place × Text)}

/-- Some of the files lies at the place or below it. -/
def OnWay (files : List (Place × Text)) (place : Place) : Prop :=
  ∃ file ∈ files, place <+: file.1

instance (files : List (Place × Text)) (place : Place) : Decidable (OnWay files place) :=
  inferInstanceAs (Decidable (∃ file ∈ files, _))

theorem onWay_append (first later : List (Place × Text)) (place : Place) :
    OnWay (first ++ later) place ↔ OnWay first place ∨ OnWay later place := by
  simp only [OnWay, List.mem_append, or_and_right, exists_or]

/-- What stands at a place of a disk once some files were delivered: the text that came
last, a directory if none was there and a file lies below, and otherwise what was there. -/
def overlay (disk : Disk) (files : List (Place × Text)) (place : Place) : Option Entry :=
  match files.reverse.lookup place with
  | some text => some (.file (.text text))
  | none =>
    if disk.entryAt place = none ∧ OnWay files place then some .directory
    else disk.entryAt place

@[simp] theorem overlay_nil (disk : Disk) (place : Place) :
    disk.overlay [] place = disk.entryAt place := by
  simp [overlay, OnWay]

/-- Deliveries on top of others. -/
theorem overlay_append {first later : List (Place × Text)}
    (kept : ∀ place, made.entryAt place = disk.overlay first place) (place : Place) :
    made.overlay later place = disk.overlay (first ++ later) place := by
  have parts : (first ++ later).reverse.lookup place =
      (later.reverse.lookup place).or (first.reverse.lookup place) := by
    rw [List.reverse_append, List.lookup_append]
  simp only [overlay, parts, kept, onWay_append]
  cases later.reverse.lookup place with
  | some text => rfl
  | none =>
      cases first.reverse.lookup place with
      | some text => simp
      | none =>
          by_cases missing : disk.entryAt place = none <;>
            by_cases below : OnWay first place <;> simp [missing, below]

/-- Files that lie elsewhere do not matter for a place. -/
theorem overlay_of_apart (apart : ∀ file ∈ files, ¬ place <+: file.1) :
    disk.overlay files place = disk.entryAt place := by
  have none : files.reverse.lookup place = none := by
    rw [List.lookup_eq_none_iff]
    intro file among
    have differs : place ≠ file.1 := fun same =>
      apart file (List.mem_reverse.mp among) (same ▸ List.prefix_rfl)
    simpa using differs
  rw [overlay, none]
  exact if_neg fun ⟨_, file, among, below⟩ => apart file among below

/-- Files with one text for each place are found by membership. -/
theorem lookup_eq_some_iff_mem
    (single : ∀ file ∈ files, ∀ other ∈ files, file.1 = other.1 → file = other) {text : Text} :
    files.lookup place = some text ↔ (place, text) ∈ files := by
  constructor
  · intro found
    obtain ⟨before, after, split, _⟩ := List.lookup_eq_some_iff.mp found
    simp [split]
  · intro among
    cases found : files.lookup place with
    | none =>
        rw [List.lookup_eq_none_iff] at found
        simpa using found _ among
    | some other =>
        obtain ⟨before, after, split, _⟩ := List.lookup_eq_some_iff.mp found
        have same := single (place, other) (by simp [split]) (place, text) among rfl
        simp_all

/-- The order of deliveries to different places does not matter. -/
theorem overlay_perm {others : List (Place × Text)} (perm : files.Perm others)
    (single : ∀ file ∈ files, ∀ other ∈ files, file.1 = other.1 → file = other) :
    disk.overlay files place = disk.overlay others place := by
  have sameText : files.reverse.lookup place = others.reverse.lookup place := by
    ext text
    rw [lookup_eq_some_iff_mem, lookup_eq_some_iff_mem, List.mem_reverse, List.mem_reverse,
      perm.mem_iff]
    · simpa [perm.mem_iff] using single
    · simpa using single
  have sameWay : OnWay files place ↔ OnWay others place := by
    simp only [OnWay, perm.mem_iff]
  simp only [overlay, sameText, sameWay]

/-- A disk to which some files were delivered, and nothing else was done. -/
structure Delivered (disk : Disk) (files : List (Place × Text)) (made : Disk) : Prop where
  tree : made.IsTree
  more : Extends made disk
  entries : ∀ place, made.entryAt place = disk.overlay files place

theorem Delivered.refl (tree : disk.IsTree) : Delivered disk [] disk :=
  ⟨tree, .refl disk, fun place => (overlay_nil disk place).symm⟩

theorem Delivered.trans {last : Disk} {others : List (Place × Text)}
    (first : Delivered disk files made) (later : Delivered made others last) :
    Delivered disk (files ++ others) last where
  tree := later.tree
  more := later.more.trans first.more
  entries place := (later.entries place).trans (overlay_append first.entries place)

/-- Files are where they were or where they were delivered. -/
theorem Delivered.hasFile (delivered : Delivered disk files made)
    (found : made.HasFile place) : disk.HasFile place ∨ ∃ file ∈ files, file.1 = place := by
  obtain ⟨content, found⟩ := found
  rw [delivered.entries, overlay] at found
  split at found
  · rename_i text held
    obtain ⟨before, after, split, _⟩ := List.lookup_eq_some_iff.mp held
    have among : (place, text) ∈ files.reverse := by simp [split]
    exact .inr ⟨(place, text), List.mem_reverse.mp among, rfl⟩
  · split at found
    · simp at found
    · exact .inl ⟨content, found⟩

/-- Directories are where they were or above a file that was delivered. -/
theorem Delivered.directory (delivered : Delivered disk files made)
    (found : made.entryAt place = some .directory) :
    disk.entryAt place = some .directory ∨
      ∃ file ∈ files, place <+: file.1 ∧ file.1 ≠ place := by
  rw [delivered.entries, overlay] at found
  split at found
  · simp at found
  · rename_i none
    split at found
    · rename_i new
      obtain ⟨_, file, among, below⟩ := new
      refine .inr ⟨file, among, below, ?_⟩
      rintro rfl
      rw [List.lookup_eq_none_iff] at none
      simpa using none file (List.mem_reverse.mpr among)
    · exact .inl found

end Rethrow.Disk
