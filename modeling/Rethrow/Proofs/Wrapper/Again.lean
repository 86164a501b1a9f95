import Rethrow.Proofs.Wrapper.Image

/-!
# Making the unchecked variant again

The unchecked variant declares no failure that it could still be relieved of: its
constructors declare none, and a method that does has no statements to protect. So a
second run finds nothing to convert and only renames, and two runs add up to one run
under the names of both (`CompUnit.enhance_again`).
-/

namespace Rethrow

/-- The options of one run in place of two: the names of `second` around those of `first`,
and the failures of `first`. -/
def Options.andThen (first second : Options) : Options :=
  { first with
    namePrefix := second.namePrefix ++ first.namePrefix
    nameSuffix := first.nameSuffix ++ second.nameSuffix }

/-! ## What renaming may change -/

/-- A member whose name was taken away if it is a constructor. -/
def Member.nameless : Member → Member
  | .constructor c => .constructor { c with name := [] }
  | member => member

/-- A type without its name and those of its constructors. -/
def TypeDecl.nameless (decl : TypeDecl) : TypeDecl :=
  { decl with name := [], members := decl.members.map Member.nameless }

/-- An item without the names that a run may change. -/
def Item.nameless : Item → Item
  | .typeDecl decl => .typeDecl decl.nameless
  | item => item

/-- A unit without the names of its types and of their constructors. -/
def CompUnit.nameless (unit : CompUnit) : CompUnit :=
  { items := unit.items.map Item.nameless }

/-! ## One member -/

variable (first second : Options)

/-- No method is converted twice: one that was converted declares no failures any more. -/
theorem Procedure.unchecked_again (p : Procedure) :
    (p.unchecked first).unchecked second = p.unchecked first := by
  cases bodyEq : p.body with
  | none => simp [Procedure.unchecked, bodyEq]
  | some body =>
      by_cases kept : p.throws = [] ∨ p.modifiers.isNative = true
      · simp [Procedure.unchecked, bodyEq, kept]
      · simp [Procedure.unchecked, bodyEq, kept]

theorem Constructor.throws_unchecked (typeName : Text) (c : Constructor) :
    (c.unchecked first typeName).throws = [] := rfl

/-- No constructor is converted twice, and one that carries the name of its type follows it
through both runs. -/
theorem Constructor.unchecked_again (c : Constructor) :
    (c.unchecked first c.name).unchecked second (first.generatedName c.name) =
      c.unchecked (first.andThen second) c.name := by
  have names : second.namePrefix ++ (first.namePrefix ++ c.name ++ first.nameSuffix) ++
      second.nameSuffix = second.namePrefix ++ first.namePrefix ++ c.name ++
        (first.nameSuffix ++ second.nameSuffix) := by
    simp only [List.append_assoc]
  simp only [Constructor.unchecked, Options.generatedName, Options.andThen, if_true, names]
  rfl

/-- A second run leaves all of a constructor but its name. -/
theorem Constructor.unchecked_body_again (typeName newName : Text) (c : Constructor) :
    { (c.unchecked first typeName).unchecked second newName with name := [] } =
      { c.unchecked first typeName with name := [] } := rfl

theorem Member.unchecked_again {typeName : Text} {member : Member}
    (named : ∀ c, member = .constructor c → c.name = typeName) :
    (member.unchecked first typeName).unchecked second (first.generatedName typeName) =
      member.unchecked (first.andThen second) typeName := by
  cases member with
  | procedure p =>
      have same : p.unchecked (first.andThen second) = p.unchecked first := rfl
      simp only [Member.unchecked, Procedure.unchecked_again, same]
  | constructor c =>
      obtain rfl := named c rfl
      simp only [Member.unchecked, Constructor.unchecked_again]
  | field text => rfl
  | nested name text => rfl
  | other text => rfl

theorem Member.nameless_unchecked_again (typeName newName : Text) (member : Member) :
    ((member.unchecked first typeName).unchecked second newName).nameless =
      (member.unchecked first typeName).nameless := by
  cases member with
  | procedure p => simp only [Member.unchecked, Procedure.unchecked_again]
  | constructor c => simp only [Member.unchecked, Member.nameless, Constructor.unchecked_body_again]
  | field text => rfl
  | nested name text => rfl
  | other text => rfl

/-! ## Types and units -/

/-- Every constructor of a type carries the type's name. -/
def TypeDecl.OwnNamed (decl : TypeDecl) : Prop :=
  ∀ c ∈ decl.constructors, c.name = decl.name

instance (decl : TypeDecl) : Decidable decl.OwnNamed :=
  inferInstanceAs (Decidable (∀ c ∈ decl.constructors, c.name = decl.name))

theorem TypeDecl.unchecked_again {decl : TypeDecl} (named : decl.OwnNamed) :
    (decl.unchecked first).unchecked second = decl.unchecked (first.andThen second) := by
  have members : (decl.unchecked first).members.map
      (Member.unchecked second (decl.unchecked first).name) =
        decl.members.map (Member.unchecked (first.andThen second) decl.name) := by
    rw [TypeDecl.unchecked, List.map_map]
    refine List.map_congr_left fun member among => ?_
    refine Member.unchecked_again first second fun c same => named c ?_
    rw [TypeDecl.mem_constructors, ← same]
    exact among
  have name : second.namePrefix ++ (decl.unchecked first).name ++ second.nameSuffix =
      (decl.unchecked (first.andThen second)).name := by
    simp only [TypeDecl.unchecked, Options.andThen, List.append_assoc]
  rw [TypeDecl.unchecked, members, name]
  rfl

theorem TypeDecl.nameless_unchecked_again (decl : TypeDecl) :
    ((decl.unchecked first).unchecked second).nameless = (decl.unchecked first).nameless := by
  simp only [TypeDecl.nameless, TypeDecl.unchecked, List.map_map, Function.comp_def,
    Member.nameless_unchecked_again]

/-- No constructor of an unchecked type offends: none declares a failure. -/
theorem TypeDecl.not_offends_unchecked (decl : TypeDecl) :
    ∀ c ∈ (decl.unchecked first).constructors, ¬c.Offends := by
  intro c listed offends
  obtain ⟨member, -, image⟩ := List.mem_map.mp ((TypeDecl.mem_constructors _ c).mp listed)
  cases member with
  | constructor old =>
      obtain rfl := Member.constructor.inj image
      exact offends.1 (old.throws_unchecked first decl.name)
  | procedure p => cases image
  | field text => cases image
  | nested name text => cases image
  | other text => cases image

theorem Item.unchecked_again {item : Item} (named : ∀ decl, item = .typeDecl decl → decl.OwnNamed) :
    (item.unchecked first).unchecked second = item.unchecked (first.andThen second) := by
  cases item with
  | typeDecl decl =>
      simp only [Item.unchecked, TypeDecl.unchecked_again first second (named decl rfl)]
  | packageDecl text => rfl
  | importDecl text => rfl
  | comment text => rfl
  | other text => rfl

theorem Item.nameless_unchecked_again (item : Item) :
    ((item.unchecked first).unchecked second).nameless = (item.unchecked first).nameless := by
  cases item with
  | typeDecl decl => simp only [Item.unchecked, Item.nameless, TypeDecl.nameless_unchecked_again]
  | packageDecl text => rfl
  | importDecl text => rfl
  | comment text => rfl
  | other text => rfl

/-- The types of an unchecked unit are the unchecked types of the unit. -/
theorem Item.typeDecl_unchecked {items : List Item} {decl : TypeDecl}
    (listed : .typeDecl decl ∈ items.map (Item.unchecked first)) :
    ∃ old : TypeDecl, decl = old.unchecked first := by
  obtain ⟨item, -, image⟩ := List.mem_map.mp listed
  cases item with
  | typeDecl old => exact ⟨old, (Item.typeDecl.inj image).symm⟩
  | packageDecl text => cases image
  | importDecl text => cases image
  | comment text => cases image
  | other text => cases image

/-- Running the rewrite again only renames. Whether it succeeds does not depend on the
options; once it has succeeded it succeeds again, changes nothing but the names of types and
constructors, and what both runs leave is what one run under both names leaves. -/
theorem CompUnit.enhance_again (unit : CompUnit) (named : ∀ decl ∈ unit.types, decl.OwnNamed) :
    ((unit.enhance first).refusal = none ↔
        (unit.enhance (first.andThen second)).refusal = none) ∧
      ((unit.enhance first).refusal = none →
        ((unit.enhance first).value.enhance second).refusal = none ∧
          ((unit.enhance first).value.enhance second).value.nameless =
            (unit.enhance first).value.nameless ∧
          ((unit.enhance first).value.enhance second).value =
            (unit.enhance (first.andThen second)).value) := by
  obtain ⟨succeeds, image⟩ := Item.enhanceAll_image first unit.items
  obtain ⟨succeedsBoth, imageBoth⟩ := Item.enhanceAll_image (first.andThen second) unit.items
  refine ⟨succeeds.trans succeedsBoth.symm, fun done => ?_⟩
  have once : unit.enhance first = { value := unit.unchecked first } := by
    simp only [CompUnit.enhance, CompUnit.unchecked, image done, show (Item.enhanceAll first
      unit.items).refusal = none from done]
  have both : (unit.enhance (first.andThen second)).value = unit.unchecked (first.andThen second) :=
    congrArg CompUnit.mk (imageBoth (succeedsBoth.mpr (succeeds.mp done)))
  -- The second run starts from an image, in which no constructor offends.
  obtain ⟨succeedsAgain, imageAgain⟩ :=
    Item.enhanceAll_image second (unit.items.map (Item.unchecked first))
  have doneAgain := succeedsAgain.mpr fun decl listed => by
    obtain ⟨old, rfl⟩ := Item.typeDecl_unchecked first listed
    exact old.not_offends_unchecked first
  have again : ((unit.unchecked first).enhance second).value =
      (unit.unchecked first).unchecked second :=
    congrArg CompUnit.mk (imageAgain doneAgain)
  simp only [once, both, again]
  refine ⟨doneAgain, ?_, ?_⟩
  · simp only [CompUnit.nameless, CompUnit.unchecked, List.map_map, Function.comp_def,
      Item.nameless_unchecked_again]
  · simp only [CompUnit.unchecked, List.map_map, CompUnit.mk.injEq]
    refine List.map_congr_left fun item among => ?_
    exact Item.unchecked_again first second fun decl same =>
      named decl ((CompUnit.mem_types unit decl).mpr (same ▸ among))

/-- A type with members of every kind: a method that is converted, one without a body and a
native one, a constructor that runs something, one that only delegates, and a field. -/
def manyMembers : CompUnit :=
  { items := [
    .importDecl "import a.B;".toList,
    .typeDecl {
      keyword := "class".toList
      name := "A".toList
      members := [
        .procedure {
          doc := some "/** @throws E */".toList
          name := "m".toList
          throws := ["E".toList]
          body := some [.verbatim "f();".toList] },
        .procedure { name := "k".toList, throws := ["E".toList] },
        .procedure {
          modifiers := { keywords := ["native".toList] }
          name := "n".toList
          throws := ["E".toList]
          body := some [] },
        .constructor {
          name := "A".toList
          throws := ["E".toList]
          body := [.comment "// c".toList, .verbatim "g();".toList] },
        .constructor {
          name := "A".toList
          throws := ["E".toList]
          body := [.delegate "super();".toList] },
        .field "int x;".toList] }] }

theorem CompUnit.enhance_again_manyMembers :
    let first : Options := {}
    let second : Options := { namePrefix := "Plain".toList, nameSuffix := "2".toList }
    (manyMembers.enhance first).refusal = none ∧
      ((manyMembers.enhance first).value.enhance second).refusal = none ∧
      ((manyMembers.enhance first).value.enhance second).value =
        (manyMembers.enhance (first.andThen second)).value ∧
      (manyMembers.enhance (first.andThen second)).value.types.map TypeDecl.name =
        ["PlainUncheckedA2".toList] := by
  intro first second
  have done : (manyMembers.enhance first).refusal = none := by decide
  have again := CompUnit.enhance_again first second manyMembers (by decide)
  exact ⟨done, (again.2 done).1, (again.2 done).2.2, by decide⟩

end Rethrow
