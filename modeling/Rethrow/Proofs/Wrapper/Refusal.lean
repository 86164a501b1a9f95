import Rethrow.Batch
import Rethrow.Proofs.Wrapper.Image

/-!
# What a refused rewrite leaves behind

The work on a unit ends at the first constructor that offends, in the order of the text. The
passes over its type have then come to different places: names and methods are done in the
whole type, constructors only up to the one that is refused, and that one has lost its
declared failures but kept its body. `Item.FirstOffence` says where the work ends, and
`CompUnit.enhance_refused` that it ends there and what the unit is then.
-/

namespace Rethrow

/-- The first constructor among some members that offends. -/
structure Member.FirstOffence (members : List Member) where
  early : List Member
  culprit : Constructor
  late : List Member
  split : members = early ++ .constructor culprit :: late
  fine : ∀ c, .constructor c ∈ early → ¬c.Offends
  offends : culprit.Offends

/-- The first type among some items that has a constructor that offends, and the first such
constructor in it. -/
structure Item.FirstOffence (items : List Item) where
  before : List Item
  decl : TypeDecl
  behind : List Item
  split : items = before ++ .typeDecl decl :: behind
  fine : ∀ earlier, .typeDecl earlier ∈ before → ∀ c ∈ earlier.constructors, ¬c.Offends
  within : Member.FirstOffence decl.members

/-- A member of the type `typeName` that the pass over constructors did not come to: a method
has its image, and a constructor only followed the name of its type. -/
def Member.awaiting (options : Options) (typeName : Text) : Member → Member
  | .procedure p => .procedure (p.unchecked options)
  | .constructor c => .constructor (c.renamed options typeName)
  | .field text => .field text
  | .nested name text => .nested name text
  | .other text => .other text

variable (options : Options)

/-- The members of the type `typeName` as they are left when its first offence is met. -/
def Member.FirstOffence.leftover {members : List Member} (offence : Member.FirstOffence members)
    (typeName : Text) : List Member :=
  offence.early.map (Member.unchecked options typeName) ++
    .constructor (offence.culprit.refused options typeName) ::
      offence.late.map (Member.awaiting options typeName)

/-- Some items as they are left when their first offence is met. -/
def Item.FirstOffence.leftover {items : List Item} (offence : Item.FirstOffence items) :
    List Item :=
  let stopped : TypeDecl :=
    { offence.decl with
      name := options.namePrefix ++ offence.decl.name ++ options.nameSuffix
      members := offence.within.leftover options offence.decl.name }
  offence.before.map (Item.unchecked options) ++ .typeDecl stopped :: offence.behind

/-- The refusal of the first constructor that offends, by its new name. -/
def Item.FirstOffence.refusal {items : List Item} (offence : Item.FirstOffence items) :
    DelegationRefusal :=
  { constructorName := (offence.within.culprit.renamed options offence.decl.name).name }

/-! ## Members -/

theorem Member.prepared_eq_awaiting (typeName : Text) (member : Member) :
    member.prepared options typeName = member.awaiting options typeName := by
  cases member with
  | constructor c => exact Member.prepared_constructor options typeName c
  | procedure p =>
      simp only [Member.prepared, Member.rename, Member.convertProcedure,
        Procedure.convert_eq_unchecked, Member.awaiting]
  | field text => rfl
  | nested name text => rfl
  | other text => rfl

/-- One more member in front of the first offence. -/
def Member.FirstOffence.cons {members : List Member} {member : Member}
    (fine : ∀ c, member = .constructor c → ¬c.Offends) (offence : Member.FirstOffence members) :
    Member.FirstOffence (member :: members) :=
  { offence with
    early := member :: offence.early
    split := congrArg (member :: ·) offence.split
    fine := by
      intro c listed
      rcases List.mem_cons.mp listed with same | later
      · exact fine c same.symm
      · exact offence.fine c later }

/-- The pass over constructors is refused at the first one that offends. -/
theorem Member.convertConstructors_refused {typeName : Text} {members : List Member}
    {refusal : DelegationRefusal} :
    let all := Member.convertConstructors options (members.map (Member.prepared options typeName))
    all.refusal = some refusal →
      ∃ offence : Member.FirstOffence members,
        refusal = ⟨(offence.culprit.renamed options typeName).name⟩ ∧
          all.value = offence.leftover options typeName := by
  induction members with
  | nil =>
      intro all refused
      cases refused
  | cons member rest ih =>
      intro all refused
      rcases Member.convertConstructors_prepared_cons options typeName member
          (rest.map (Member.prepared options typeName)) with
        ⟨c, same, offends, stopped⟩ | ⟨fine, goesOn⟩
      · simp only [all, List.map_cons, stopped, Option.some.injEq] at refused ⊢
        refine ⟨⟨[], c, rest, congrArg (· :: rest) same, by simp, offends⟩, refused.symm, ?_⟩
        simp [Member.FirstOffence.leftover, Member.prepared_eq_awaiting]
      · simp only [all, List.map_cons, goesOn] at refused ⊢
        obtain ⟨offence, named, left⟩ := ih refused
        refine ⟨offence.cons fine, named, ?_⟩
        rw [left]
        rfl

/-! ## Items -/

/-- One more item in front of the first offence. -/
def Item.FirstOffence.cons {items : List Item} {item : Item}
    (fine : ∀ decl, item = .typeDecl decl → ∀ c ∈ decl.constructors, ¬c.Offends)
    (offence : Item.FirstOffence items) : Item.FirstOffence (item :: items) :=
  { offence with
    before := item :: offence.before
    split := congrArg (item :: ·) offence.split
    fine := by
      intro decl listed
      rcases List.mem_cons.mp listed with same | later
      · exact fine decl same.symm
      · exact offence.fine decl later }

/-- A type that is refused is left at its first offence. -/
theorem TypeDecl.enhance_stopped {decl : TypeDecl} {refusal : DelegationRefusal}
    (refused : (decl.enhance options).refusal = some refusal) :
    ∃ offence : Member.FirstOffence decl.members,
      refusal = ⟨(offence.culprit.renamed options decl.name).name⟩ ∧
        (decl.enhance options).value =
          { decl with
            name := options.namePrefix ++ decl.name ++ options.nameSuffix
            members := offence.leftover options decl.name } := by
  have passes := TypeDecl.enhance_passes options decl
  rw [passes] at refused ⊢
  obtain ⟨offence, named, left⟩ := Member.convertConstructors_refused options refused
  exact ⟨offence, named, by rw [left]⟩

/-- The work on some items is refused at the first type that has an offence. -/
theorem Item.enhanceAll_refused {items : List Item} {refusal : DelegationRefusal}
    (refused : (Item.enhanceAll options items).refusal = some refusal) :
    ∃ offence : Item.FirstOffence items,
      refusal = offence.refusal options ∧
        (Item.enhanceAll options items).value = offence.leftover options := by
  induction items with
  | nil => cases refused
  | cons item rest ih =>
      cases item with
      | typeDecl decl =>
          obtain ⟨succeeds, image⟩ := decl.enhance_image options
          cases outcome : (decl.enhance options).refusal with
          | some other =>
              simp only [Item.enhanceAll, outcome, Option.some.injEq] at refused ⊢
              obtain ⟨offence, named, left⟩ := TypeDecl.enhance_stopped options outcome
              refine ⟨⟨[], decl, rest, rfl, by simp, offence⟩, refused.symm.trans named, ?_⟩
              rw [left]
              rfl
          | none =>
              simp only [Item.enhanceAll, outcome] at refused ⊢
              obtain ⟨offence, named, left⟩ := ih refused
              refine ⟨offence.cons ?_, named, ?_⟩
              · rintro _ ⟨⟩
                exact succeeds.mp outcome
              · rw [left, image outcome]
                rfl
      | packageDecl text | importDecl text | comment text | other text =>
          obtain ⟨offence, named, left⟩ := ih refused
          exact ⟨offence.cons (by simp), named, congrArg (_ :: ·) left⟩

/-- What a refused rewrite leaves behind. The refusal names, by its new name, the first
constructor of the unit that offends; the types in front of it were converted to the end, its
own type is left as the passes had come to it, and all behind it is as it was. The source of
such a unit has no unchecked variant. -/
theorem CompUnit.enhance_refused (unit : CompUnit) (refusal : DelegationRefusal)
    (refused : (unit.enhance options).refusal = some refusal) :
    ∃ offence : Item.FirstOffence unit.items,
      refusal = offence.refusal options ∧
      (unit.enhance options).value = { items := offence.leftover options } ∧
      (∀ decl, .typeDecl decl ∈ offence.before →
        decl.enhance options = { value := decl.unchecked options }) ∧
      ∀ id source, CompUnit.read source = .ok unit →
        uncheckedSource options id source = .error { unit := id, reason := .refused refusal } := by
  obtain ⟨offence, named, left⟩ := Item.enhanceAll_refused options refused
  refine ⟨offence, named, congrArg CompUnit.mk left, ?_, ?_⟩
  · intro decl listed
    obtain ⟨succeeds, image⟩ := decl.enhance_image options
    have done := succeeds.mpr (offence.fine decl listed)
    rw [← image done, ← done]
  · intro id source parsed
    simp only [uncheckedSource, parsed, refused]

/-- A unit with a type that can be converted and two that cannot. In the second type a
constructor stands in front of the one that offends, and a method and a further constructor
behind it. -/
def twoOffences : CompUnit :=
  { items := [
    .importDecl "import a.B;".toList,
    .typeDecl {
      name := "A".toList
      members := [.procedure { throws := ["E".toList], body := some [] }] },
    .typeDecl {
      name := "B".toList
      members := [
        .constructor {
          name := "B".toList
          throws := ["E".toList]
          body := [.verbatim "f();".toList] },
        .constructor {
          doc := some "/** @throws E */".toList
          name := "B".toList
          throws := ["E".toList]
          body := [.comment "// c".toList, .delegate "super();".toList,
            .verbatim "g();".toList] },
        .procedure { throws := ["E".toList], body := some [] },
        .constructor {
          name := "B".toList
          throws := ["E".toList]
          body := [.verbatim "h();".toList] }] },
    .typeDecl {
      name := "C".toList
      members := [
        .constructor {
          name := "C".toList
          throws := ["E".toList]
          body := [.delegate "this(1);".toList, .verbatim "g();".toList] }] }] }

theorem CompUnit.enhance_refused_twoOffences :
    (twoOffences.enhance {}).refusal = some ⟨"UncheckedB".toList⟩ ∧
      ∃ offence : Item.FirstOffence twoOffences.items,
        offence.refusal {} = ⟨"UncheckedB".toList⟩ ∧
          (twoOffences.enhance {}).value = { items := offence.leftover {} } := by
  have refused : (twoOffences.enhance {}).refusal = some ⟨"UncheckedB".toList⟩ := by decide
  obtain ⟨offence, named, left, -⟩ := CompUnit.enhance_refused {} twoOffences _ refused
  exact ⟨refused, offence, named.symm, left⟩

end Rethrow
