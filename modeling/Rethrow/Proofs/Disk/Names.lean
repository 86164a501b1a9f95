import Rethrow.Proofs.Disk.Ways

/-!
# Packages and names of units

An identifier is a package path, empty or ended by a slash, and a name without a slash. The path
of the unit below a directory has the components of the package that are not empty, and the name
of the file. Where none of them is a dot or two dots, the path leads down all the way, so the
place of the file is told from the place of the directory.
-/

namespace Rethrow

open Text Rethrow.Path

namespace UnitId

variable {package name : Text} {id : UnitId}

/-- A package path: it is empty or ends in a slash. -/
def IsPackage (package : Text) : Prop :=
  ∀ c, package.getLast? = some c → c = '/'

theorem isPackage_nil : IsPackage [] := by
  simp [IsPackage]

theorem IsPackage.append {package further : Text} (upper : IsPackage package)
    (lower : IsPackage further) : IsPackage (package ++ further) := by
  intro c last
  rw [List.getLast?_append] at last
  cases ended : further.getLast? with
  | none => exact upper c (by simpa [ended] using last)
  | some d => exact lower c (by simpa [ended] using last)

theorem splitLast_of_not_mem (free : '/' ∉ name) : splitLast name = ([], name) := by
  induction name with
  | nil => rfl
  | cons c name ih =>
      simp only [List.mem_cons, not_or] at free
      rw [splitLast, ih free.2]
      simp [Ne.symm free.1]

/-- A text is cut behind its package path. -/
theorem splitLast_append (closed : IsPackage package) (free : '/' ∉ name) :
    splitLast (package ++ name) = (package, name) := by
  induction package with
  | nil => exact splitLast_of_not_mem free
  | cons c package ih =>
      cases package with
      | nil =>
          have slash : c = '/' := closed c rfl
          rw [List.cons_append, List.nil_append, splitLast, splitLast_of_not_mem free]
          simp [slash]
      | cons d package =>
          have rest := ih fun e last => closed e (by simpa using last)
          rw [List.cons_append, splitLast, rest]

theorem splitLast_shape (t : Text) :
    IsPackage (splitLast t).1 ∧ '/' ∉ (splitLast t).2 ∧ (splitLast t).1 ++ (splitLast t).2 = t := by
  induction t with
  | nil => exact ⟨isPackage_nil, by simp [splitLast], rfl⟩
  | cons c t ih =>
      rw [splitLast]
      obtain ⟨closed, free, whole⟩ := ih
      match cut : splitLast t with
      | ([], name) =>
          rw [cut] at free whole
          by_cases slash : c = '/'
          · simp_all [IsPackage]
          · simp_all [IsPackage, Ne.symm slash]
      | (d :: package, name) =>
          rw [cut] at closed free whole
          exact ⟨fun e last => closed e (by simpa using last), free, congrArg (c :: ·) whole⟩

theorem isPackage_packagePath (id : UnitId) : IsPackage id.packagePath :=
  (splitLast_shape id.text).1

theorem not_mem_simpleName (id : UnitId) : '/' ∉ id.simpleName :=
  (splitLast_shape id.text).2.1

theorem packagePath_append_simpleName (id : UnitId) : id.packagePath ++ id.simpleName = id.text :=
  (splitLast_shape id.text).2.2

/-- The components of a package that are not empty. -/
def packages (id : UnitId) : List Text :=
  (splitAtChar '/' id.packagePath).filter fun part => !part.isEmpty

theorem filter_splitAtChar (closed : IsPackage package) (free : '/' ∉ name) (some : name ≠ []) :
    ((splitAtChar '/' (package ++ name)).filter fun part => !part.isEmpty) =
      ((splitAtChar '/' package).filter fun part => !part.isEmpty) ++ [name] := by
  rcases List.eq_nil_or_concat package with rfl | ⟨front, c, rfl⟩
  · simp [splitAtChar_of_not_mem free, splitAtChar, some]
  · have slash : c = '/' := closed c (by simp)
    subst slash
    rw [List.concat_eq_append, List.append_assoc, List.singleton_append, splitAtChar_append_mark,
      splitAtChar_append_mark, splitAtChar_of_not_mem free]
    simp [splitAtChar, some]

/-- The path of a unit leads through its packages to its file. -/
theorem components_eq_packages (id : UnitId) :
    id.components = id.packages ++ [id.simpleName ++ ".java".toList] := by
  rw [components, fileName, ← packagePath_append_simpleName id, List.append_assoc]
  refine filter_splitAtChar id.isPackage_packagePath ?_ (by simp)
  rw [List.mem_append, not_or]
  exact ⟨id.not_mem_simpleName, by decide⟩

/-- No component of the package is a dot or two dots. -/
def Plain (id : UnitId) : Prop :=
  ∀ part ∈ id.packages, part ≠ ['.'] ∧ part ≠ ['.', '.']

instance (id : UnitId) : Decidable id.Plain :=
  inferInstanceAs (Decidable (∀ part ∈ id.packages, _))

/-- The components of a plain unit lead down. -/
theorem Plain.ofComponent (plain : id.Plain) :
    ∀ part ∈ id.components, Step.ofComponent part = .down part := by
  intro part among
  obtain ⟨front, file, shape, down⟩ := id.components_eq
  rw [id.components_eq_packages] at among shape
  rcases List.mem_append.mp among with inPackage | last
  · have shown : part ≠ [] := by simpa using (List.mem_filter.mp inPackage).2
    refine Step.ofComponent_name ?_ (plain part inPackage).2
    simp [isIdle, shown, (plain part inPackage).1]
  · have same : file = id.simpleName ++ ".java".toList := by
      simpa using (congrArg List.getLast? shape).symm
    rw [List.mem_singleton.mp last, ← same]
    exact down

theorem Plain.steps (plain : id.Plain) : id.relativePath.steps = id.components.map .down := by
  rw [Path.steps, components_relativePath]
  exact List.map_congr_left plain.ofComponent

theorem Plain.names (plain : id.Plain) : id.relativePath.names = id.components := by
  rw [Path.names, components_relativePath]
  refine List.filter_eq_self.mpr fun part among => ?_
  have down := plain.ofComponent part among
  simp only [Bool.not_eq_true', Bool.eq_false_iff]
  intro idle
  simp [Step.ofComponent_eq_stay.mpr idle] at down

/-- Steps down lead to the names below a place. -/
theorem foldl_follow_down (place : Place) (names : List Text) :
    (names.map Step.down).foldl Step.follow place = place ++ names := by
  induction names generalizing place with
  | nil => simp
  | cons name more ih => rw [List.map_cons, List.foldl_cons, ih, Step.follow]; simp

/-- The place of a plain unit below a directory. -/
theorem Plain.placeOf_join (plain : id.Plain) (disk : Disk) (base : Path) :
    disk.placeOf (base.join id.relativePath) = disk.placeOf base ++ id.components := by
  rw [disk.placeOf_join base id.isAbsolute_relativePath, plain.steps, foldl_follow_down]

end UnitId

namespace Path

theorem names_join (base : Path) {path : Path} (relative : path.isAbsolute = false) :
    (base.join path).names = base.names ++ path.names := by
  obtain ⟨lead, joined, shape⟩ := components_join base relative
  have stays : isIdle [] = true := rfl
  rcases shape with same | more
  · rw [names, joined, List.filter_append, names, same, names]
  · rw [names, joined, List.filter_append, names, more, names]
    simp [stays]

/-- What is put between a base and a relative path. -/
def separator (base : Path) : Text :=
  if base.text.isEmpty || base.text.getLast? = some '/' then [] else ['/']

/-- Base and relative path stay as they are written. -/
theorem text_join (base : Path) {path : Path} (relative : path.isAbsolute = false) :
    (base.join path).text = base.text ++ base.separator ++ path.text := by
  obtain ⟨text⟩ := base
  unfold join separator
  by_cases empty : text = []
  · simp [empty]
  · by_cases slash : text.getLast? = some '/' <;> simp [relative, empty, slash]

theorem join_inj (base : Path) {path other : Path} (relative : path.isAbsolute = false)
    (alsoRelative : other.isAbsolute = false) :
    base.join path = base.join other ↔ path = other := by
  constructor
  · intro same
    have texts := congrArg Path.text same
    rw [text_join base relative, text_join base alsoRelative, List.append_cancel_left_eq] at texts
    obtain ⟨text⟩ := path
    exact congrArg Path.mk texts
  · exact fun same => same ▸ rfl

end Path

end Rethrow
