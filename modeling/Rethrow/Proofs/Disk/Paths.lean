import Rethrow.Proofs.Text.Lines
import Rethrow.UnitId

/-!
# Components of paths

A path is the text of its components with slashes between them, so joining two paths
appends their components, up to an empty one in between. The path of a unit has no empty
component, starts nowhere near the root and ends in the name of a file.
-/

namespace Rethrow

namespace Text

theorem not_mem_of_mem_splitAtChar {mark : Char} {t piece : Text}
    (among : piece ∈ splitAtChar mark t) : mark ∉ piece := by
  induction t generalizing piece with
  | nil => simp_all [splitAtChar]
  | cons c rest ih =>
      rw [splitAtChar] at among
      split at among
      · rename_i empty
        exact absurd empty (splitAtChar_ne_nil mark rest)
      · rename_i first more shape
        rw [shape] at ih
        split at among
        · rcases List.mem_cons.mp among with rfl | later
          · simp
          · exact ih later
        · rename_i differs
          rcases List.mem_cons.mp among with rfl | later
          · simpa [Ne.symm differs] using ih List.mem_cons_self
          · exact ih (List.mem_cons_of_mem _ later)

/-- A mark separates the pieces in front of it from those behind it. -/
theorem splitAtChar_append_mark (mark : Char) (t rest : Text) :
    splitAtChar mark (t ++ mark :: rest) = splitAtChar mark t ++ splitAtChar mark rest := by
  induction t with
  | nil => exact splitAtChar_append (by simp)
  | cons c t ih =>
      rw [List.cons_append, splitAtChar, ih, splitAtChar]
      cases shape : splitAtChar mark t with
      | nil => exact absurd shape (splitAtChar_ne_nil mark t)
      | cons first more => by_cases same : c = mark <;> simp [same]

/-- Text without the mark belongs to the last piece. -/
theorem splitAtChar_append_free {mark : Char} {ending : Text} (free : mark ∉ ending) (t : Text) :
    ∃ front last, splitAtChar mark (t ++ ending) = front ++ [last ++ ending] := by
  induction t with
  | nil => exact ⟨[], [], by simpa using splitAtChar_of_not_mem free⟩
  | cons c t ih =>
      obtain ⟨front, last, shape⟩ := ih
      rw [List.cons_append, splitAtChar, shape]
      cases front with
      | nil =>
          by_cases same : c = mark
          · exact ⟨[[]], last, by simp [same]⟩
          · exact ⟨[], c :: last, by simp [same]⟩
      | cons first more =>
          by_cases same : c = mark
          · exact ⟨[] :: first :: more, last, by simp [same]⟩
          · exact ⟨(c :: first) :: more, last, by simp [same]⟩

theorem splitAtChar_joinWith {mark : Char} {pieces : List Text} (some : pieces ≠ [])
    (free : ∀ piece ∈ pieces, mark ∉ piece) :
    splitAtChar mark (joinWith [mark] pieces) = pieces := by
  match pieces with
  | [piece] => simpa [joinWith] using splitAtChar_of_not_mem (free piece List.mem_cons_self)
  | first :: second :: more =>
      have rest := splitAtChar_joinWith (List.cons_ne_nil second more)
        fun piece among => free piece (List.mem_cons_of_mem _ among)
      rw [joinWith, List.intercalate_cons_cons, List.append_assoc, List.singleton_append,
        splitAtChar_append (free first List.mem_cons_self)]
      exact congrArg (first :: ·) rest

end Text

namespace Path

open Text

variable {base path : Path} {component : Text}

theorem Step.ofComponent_eq_up : Step.ofComponent component = .up ↔ component = ['.', '.'] := by
  rw [ofComponent]
  split
  · rename_i idle
    constructor
    · simp
    · rintro rfl
      simp [isIdle] at idle
  · split <;> simp_all

theorem Step.ofComponent_eq_stay : Step.ofComponent component = .stay ↔ isIdle component := by
  rw [ofComponent]
  split
  · simp_all
  · split <;> simp_all

/-- A component that neither stays nor goes up goes down. -/
theorem Step.ofComponent_name (busy : isIdle component = false)
    (level : component ≠ ['.', '.']) : Step.ofComponent component = .down component := by
  simp [ofComponent, busy, level]

theorem up_mem_steps : .up ∈ path.steps ↔ ['.', '.'] ∈ path.components := by
  simp [steps, Step.ofComponent_eq_up]

theorem isAbsolute_iff :
    path.isAbsolute = true ↔ path.text ≠ [] ∧ path.components.head? = some [] := by
  obtain ⟨text⟩ := path
  cases text with
  | nil => simp [isAbsolute]
  | cons c rest =>
      simp only [isAbsolute, components, splitAtChar]
      cases shape : splitAtChar '/' rest with
      | nil => exact absurd shape (splitAtChar_ne_nil '/' rest)
      | cons first more => by_cases same : c = '/' <;> simp [same]

theorem components_joinWith {parts : List Text} (some : parts ≠ [])
    (free : ∀ part ∈ parts, '/' ∉ part) :
    components { text := joinWith ['/'] parts } = parts :=
  splitAtChar_joinWith some free

/-- The components of a joined path are those of its parts, up to an empty component at the
end of the base. -/
theorem components_join (base : Path) (relative : path.isAbsolute = false) :
    ∃ lead, (base.join path).components = lead ++ path.components ∧
      (base.components = lead ∨ base.components = lead ++ [[]]) := by
  unfold join
  by_cases empty : base.text = []
  · refine ⟨[], by simp [empty], .inr ?_⟩
    simp [components, empty, splitAtChar]
  · by_cases slash : base.text.getLast? = some '/'
    · obtain ⟨front, shape⟩ := List.getLast?_eq_some_iff.mp slash
      refine ⟨splitAtChar '/' front, ?_, .inr ?_⟩
      · simp [relative, shape, components, splitAtChar_append_mark]
      · simp [components, shape, splitAtChar_append_mark, splitAtChar]
    · exact ⟨base.components, by simp [relative, empty, slash, components,
        splitAtChar_append_mark], .inl rfl⟩

/-- So its steps are those of its parts, up to a stay in between. -/
theorem steps_join (base : Path) (relative : path.isAbsolute = false) :
    ∃ lead, (base.join path).steps = lead ++ path.steps ∧
      (base.steps = lead ∨ base.steps = lead ++ [.stay]) := by
  obtain ⟨lead, joined, shape⟩ := components_join base relative
  refine ⟨lead.map Step.ofComponent, by rw [steps, joined, List.map_append, steps], ?_⟩
  rcases shape with same | more
  · exact .inl (by rw [steps, same])
  · exact .inr (by rw [steps, more, List.map_append]; rfl)

theorem isAbsolute_join (base : Path) (relative : path.isAbsolute = false) :
    (base.join path).isAbsolute = base.isAbsolute := by
  obtain ⟨text⟩ := base
  cases text with
  | nil => simpa [join, isAbsolute] using relative
  | cons c rest =>
      by_cases slash : (c :: rest).getLast? = some '/' <;>
        simp [join, relative, slash] <;> simp [isAbsolute]

theorem ne_nil_of_not_idle (busy : ¬ isIdle component) : component ≠ [] := by
  rintro rfl
  exact busy rfl

/-- The last component of a path leads down to a file. -/
def NamesFile (path : Path) : Prop :=
  ∃ front file, path.components = front ++ [file] ∧ Step.ofComponent file = .down file

/-- Above a component that leads somewhere are the ancestors of what is in front of it. -/
theorem ancestorsOf_cons (busy : ¬ isIdle component) (rest : List Text) :
    ancestorsOf (component :: rest) =
      { text := joinWith ['/'] (component :: rest).reverse } :: ancestorsOf rest := by
  cases rest with
  | nil => simp [ancestorsOf, ne_nil_of_not_idle busy, joinWith]
  | cons next more => simp [ancestorsOf, busy]

end Path

namespace UnitId

open Text Rethrow.Path

theorem components_eq (id : UnitId) :
    ∃ front file, id.components = front ++ [file] ∧ Step.ofComponent file = .down file := by
  obtain ⟨front, stem, shape⟩ :=
    @splitAtChar_append_free '/' ".java".toList (by decide) id.text
  refine ⟨front.filter fun part => !part.isEmpty, stem ++ ".java".toList, ?_, ?_⟩
  · rw [components, fileName, shape]
    simp
  · have long : 5 ≤ (stem ++ ".java".toList).length := by simp
    have other (short : Text) (less : short.length < 5) : stem ++ ".java".toList ≠ short := by
      intro same
      rw [same] at long
      omega
    refine Step.ofComponent_name ?_ (other _ (by decide))
    rw [isIdle, Bool.or_eq_false_iff, List.isEmpty_eq_false_iff, decide_eq_false_iff_not]
    exact ⟨other [] (by decide), other ['.'] (by decide)⟩

theorem components_relativePath (id : UnitId) : id.relativePath.components = id.components := by
  obtain ⟨front, file, shape, _⟩ := id.components_eq
  refine components_joinWith (by simp [shape]) fun part among => ?_
  exact not_mem_of_mem_splitAtChar (List.mem_filter.mp among).1

theorem isAbsolute_relativePath (id : UnitId) : id.relativePath.isAbsolute = false := by
  refine Bool.eq_false_iff.mpr fun absolute => ?_
  have first := (isAbsolute_iff.mp absolute).2
  rw [components_relativePath] at first
  have named := (List.mem_filter.mp (List.mem_of_head? first)).2
  simp at named

/-- The path of a unit below any directory ends in the name of a file. -/
theorem namesFile_join (id : UnitId) (base : Path) : (base.join id.relativePath).NamesFile := by
  obtain ⟨lead, joined, _⟩ := components_join base id.isAbsolute_relativePath
  obtain ⟨front, file, shape, down⟩ := id.components_eq
  refine ⟨lead ++ front, file, ?_, down⟩
  rw [joined, id.components_relativePath, shape, List.append_assoc]

end UnitId

end Rethrow
