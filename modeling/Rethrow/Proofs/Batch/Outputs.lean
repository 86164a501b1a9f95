import Mathlib.Tactic.TFAE
import Rethrow.Folder
import Rethrow.Proofs.Disk.Names
import Rethrow.Wrapper.Rename

/-!
# Outputs of units

The identifier of an output tells its unit, whatever is put around the name: the slash behind
the package is the last one, or the last slash of what is put in front of the name is.

Where nothing with a slash is put around names, an output has the package of its unit and the
name of the generated type, and its file lies below the output folder. Two plain units share a
file exactly when they differ in empty components alone.
-/

namespace Rethrow

/-- Nothing with a slash is put around names. -/
def Options.Flat (options : Options) : Prop :=
  '/' ∉ options.namePrefix ∧ '/' ∉ options.nameSuffix

namespace UnitId

variable {options : Options} {unit other : UnitId}

theorem eq_of_parts (package : unit.packagePath = other.packagePath)
    (name : unit.simpleName = other.simpleName) : unit = other := by
  have texts : unit.text = other.text := by
    rw [← packagePath_append_simpleName, ← packagePath_append_simpleName, package, name]
  cases unit
  exact congrArg UnitId.mk texts

/-- Units of one output are the same. -/
theorem output_injective (options : Options) : Function.Injective (output options) := by
  -- What is put in front of a name is cut behind its own last slash.
  obtain ⟨closed, free, whole⟩ := splitLast_shape options.namePrefix
  generalize splitLast options.namePrefix = parts at closed free whole
  obtain ⟨upper, lower⟩ := parts
  have cut (id : UnitId) : splitLast (id.packagePath ++ options.namePrefix ++ id.simpleName) =
      (id.packagePath ++ upper, lower ++ id.simpleName) := by
    have slashless : '/' ∉ lower ++ id.simpleName := by simp [free, id.not_mem_simpleName]
    have rest := splitLast_append (id.isPackage_packagePath.append closed) slashless
    rw [← rest, ← whole]
    simp only [List.append_assoc]
  intro unit other same
  have texts : unit.packagePath ++ (options.namePrefix ++ unit.simpleName ++ options.nameSuffix) =
      other.packagePath ++ (options.namePrefix ++ other.simpleName ++ options.nameSuffix) :=
    congrArg UnitId.text same
  simp only [← List.append_assoc, List.append_cancel_right_eq] at texts
  have parts := congrArg splitLast texts
  rw [cut, cut, Prod.mk.injEq, List.append_cancel_right_eq, List.append_cancel_left_eq] at parts
  exact eq_of_parts parts.1 parts.2

/-! ## Outputs without further slashes -/

theorem splitLast_output (flat : options.Flat) (unit : UnitId) :
    splitLast (unit.output options).text =
      (unit.packagePath, options.generatedName unit.simpleName) := by
  refine splitLast_append unit.isPackage_packagePath ?_
  simp [Options.generatedName, flat.1, flat.2, unit.not_mem_simpleName]

theorem packagePath_output (flat : options.Flat) (unit : UnitId) :
    (unit.output options).packagePath = unit.packagePath := by
  rw [packagePath, splitLast_output flat]

theorem simpleName_output (flat : options.Flat) (unit : UnitId) :
    (unit.output options).simpleName = options.generatedName unit.simpleName := by
  rw [simpleName, splitLast_output flat]

theorem packages_output (flat : options.Flat) (unit : UnitId) :
    (unit.output options).packages = unit.packages := by
  rw [packages, packages, packagePath_output flat]

theorem components_output (flat : options.Flat) (unit : UnitId) :
    (unit.output options).components =
      unit.packages ++ [options.generatedName unit.simpleName ++ ".java".toList] := by
  rw [components_eq_packages, packages_output flat, simpleName_output flat]

theorem Plain.output (plain : unit.Plain) (flat : options.Flat) : (unit.output options).Plain := by
  rwa [Plain, packages_output flat]

/-- The files of two outputs have the same components only if packages and names agree. -/
theorem components_output_inj (flat : options.Flat) :
    (unit.output options).components = (other.output options).components ↔
      unit.packages = other.packages ∧ unit.simpleName = other.simpleName := by
  rw [components_output flat, components_output flat]
  constructor
  · intro same
    obtain ⟨packages, files⟩ := List.append_inj' same rfl
    refine ⟨packages, ?_⟩
    simpa [Options.generatedName] using files
  · rintro ⟨packages, name⟩
    rw [packages, name]

theorem relativePath_inj :
    unit.relativePath = other.relativePath ↔ unit.components = other.components := by
  constructor
  · intro same
    rw [← components_relativePath, same, components_relativePath]
  · intro same
    rw [relativePath, same, relativePath]

/-- What an output is called and where its file goes. -/
structure IsOutput (options : Options) (folder : Folder) (unit output : UnitId) : Prop where
  package : output.packagePath = unit.packagePath
  name : output.simpleName = options.generatedName unit.simpleName
  /-- A type that is called like the unit is renamed like it. -/
  renamed : ∀ decl : TypeDecl, decl.name = unit.simpleName →
    (decl.rename options).name = output.simpleName
  /-- The file lies below the folder, which stays as it is written. -/
  below : (folder.pathFor output).text =
    folder.root.text ++ folder.root.separator ++ output.relativePath.text
  absolute : (folder.pathFor output).isAbsolute = folder.root.isAbsolute
  file : output.relativePath.components =
    unit.packages ++ [options.generatedName unit.simpleName ++ ".java".toList]

theorem isOutput_output (flat : options.Flat) (folder : Folder) (unit : UnitId) :
    IsOutput options folder unit (unit.output options) where
  package := packagePath_output flat unit
  name := simpleName_output flat unit
  renamed decl same := by rw [simpleName_output flat, ← same, TypeDecl.rename]
  below := folder.root.text_join (isAbsolute_relativePath _)
  absolute := Path.isAbsolute_join folder.root (isAbsolute_relativePath _)
  file := by rw [components_relativePath, components_output flat]

/-- Plain units share a file, as it is written, by its names or by its place, if their packages
and names agree, and in no other case. -/
theorem pathFor_output_tfae (flat : options.Flat) (folder : Folder) (disk : Disk)
    (plain : unit.Plain) (alsoPlain : other.Plain) :
    List.TFAE [folder.pathFor (unit.output options) = folder.pathFor (other.output options),
      (folder.pathFor (unit.output options)).names =
        (folder.pathFor (other.output options)).names,
      disk.placeOf (folder.pathFor (unit.output options)) =
        disk.placeOf (folder.pathFor (other.output options)),
      unit.packages = other.packages ∧ unit.simpleName = other.simpleName] := by
  have agree : (unit.output options).components = (other.output options).components ↔
      unit.packages = other.packages ∧ unit.simpleName = other.simpleName :=
    components_output_inj flat
  tfae_have 1 ↔ 4 := by
    rw [Folder.pathFor, Folder.pathFor, folder.root.join_inj (isAbsolute_relativePath _)
      (isAbsolute_relativePath _), relativePath_inj, agree]
  tfae_have 2 ↔ 4 := by
    rw [Folder.pathFor, Folder.pathFor, folder.root.names_join (isAbsolute_relativePath _),
      folder.root.names_join (isAbsolute_relativePath _), (plain.output flat).names,
      (alsoPlain.output flat).names, List.append_cancel_left_eq, agree]
  tfae_have 3 ↔ 4 := by
    rw [Folder.pathFor, Folder.pathFor, (plain.output flat).placeOf_join,
      (alsoPlain.output flat).placeOf_join, List.append_cancel_left_eq, agree]
  tfae_finish

/-- Outputs stay apart. Whatever the options, two units never have one output. Where nothing with
a slash is put around names, an output is called after its unit as the generated type is, its
file lies below the folder, and two plain units have one file exactly when their packages, empty
components aside, and their names agree. -/
theorem outputs_apart (options : Options) :
    (∀ unit other : UnitId, unit.output options = other.output options → unit = other) ∧
      (options.Flat → ∀ folder : Folder,
        (∀ unit : UnitId, IsOutput options folder unit (unit.output options)) ∧
        ∀ unit other : UnitId, unit.Plain → other.Plain → ∀ disk : Disk,
          List.TFAE [folder.pathFor (unit.output options) = folder.pathFor (other.output options),
            (folder.pathFor (unit.output options)).names =
              (folder.pathFor (other.output options)).names,
            disk.placeOf (folder.pathFor (unit.output options)) =
              disk.placeOf (folder.pathFor (other.output options)),
            unit.packages = other.packages ∧ unit.simpleName = other.simpleName]) := by
  refine ⟨fun unit other same => output_injective options same, fun flat folder => ⟨?_, ?_⟩⟩
  · exact isOutput_output flat folder
  · exact fun unit other plain alsoPlain disk =>
      pathFor_output_tfae flat folder disk plain alsoPlain

/-- Options that put something on either side of a name. -/
def bothEnds : Options where
  namePrefix := "Un".toList
  nameSuffix := "Impl".toList

/-- An absolute identifier and one with a doubled slash share a file; one more package keeps them
from sharing it with a third. -/
theorem outputs_apart_slashes :
    let doubled : UnitId := { text := "a//B".toList }
    let rooted : UnitId := { text := "/a/B".toList }
    let deeper : UnitId := { text := "a/b/B".toList }
    let folder : Folder := { root.text := "/out".toList }
    (bothEnds.Flat ∧ doubled.Plain ∧ rooted.Plain ∧ deeper.Plain) ∧
      doubled.output bothEnds ≠ rooted.output bothEnds ∧
      folder.pathFor (doubled.output bothEnds) = folder.pathFor (rooted.output bothEnds) ∧
      folder.pathFor (doubled.output bothEnds) ≠ folder.pathFor (deeper.output bothEnds) ∧
      (folder.pathFor (rooted.output bothEnds)).text = "/out/a/UnBImpl.java".toList := by
  intro doubled rooted deeper folder
  have flat : bothEnds.Flat := by
    simp [Options.Flat, bothEnds]
  have plain : doubled.Plain ∧ rooted.Plain ∧ deeper.Plain := by decide
  obtain ⟨injective, below⟩ := outputs_apart bothEnds
  obtain ⟨isOutput, shared⟩ := below flat folder
  refine ⟨⟨flat, plain⟩, ?_, ?_, ?_, ?_⟩
  · exact fun same => absurd (injective _ _ same) (by decide)
  · exact ((shared doubled rooted plain.1 plain.2.1 {}).out 0 3).mpr (by decide)
  · exact fun same =>
      absurd (((shared doubled deeper plain.1 plain.2.2 {}).out 0 3).mp same) (by decide)
  · exact (isOutput rooted).below.trans (by decide)

end UnitId

end Rethrow
