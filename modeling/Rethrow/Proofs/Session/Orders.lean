import Mathlib.Data.List.Induction
import Rethrow.Proofs.Wrapper.Image
import Rethrow.Session

/-!
# Enhancing a type by single steps

The unchecked variant of a type is made of single changes: the type is renamed, and each member
that declares failures and has statements is stripped and wrapped. In a session these are steps
of their own, and a wrap looks neither at the failures nor at the names that the other steps
take away. So the changes that are due may be made in any order: none of them fails, and they
add up to enhancing the type (`Step.runFrom_changes`).
-/

namespace Rethrow

variable (options : Options)

/-! ## Changes of a type -/

/-- A single change of a type; members are given by their index. -/
inductive Change where
  | rename
  | strip (member : Nat)
  | wrap (member : Nat)
  deriving DecidableEq, Repr

/-- Whether a member is converted when its type is enhanced. -/
def Member.isConvertible : Member → Bool
  | .procedure p => p.isConvertible
  | .constructor c => c.isConvertible
  | _ => false

/-- Whether a change is part of enhancing a type: the type is renamed, and the members that
are converted are stripped and wrapped. -/
def Change.isDue (decl : TypeDecl) : Change → Bool
  | .rename => true
  | .strip member => (decl.members[member]?).any Member.isConvertible
  | .wrap member => (decl.members[member]?).any Member.isConvertible

/-- The step of a session that makes a change of the type with the given index. -/
def Change.step (type : Nat) : Change → Step
  | .rename => .rename type options
  | .strip member => .strip type member
  | .wrap member => .wrap type member options

/-- The unit after some steps, with the failures of those that failed. -/
def Step.runFrom (unit : CompUnit) : List Step → CompUnit × List StepFailure
  | [] => (unit, [])
  | step :: rest =>
    let later := Step.runFrom (step.run unit).1 rest
    (later.1, (step.run unit).2.toList ++ later.2)

/-- A member with its body protected, whether or not a delegating call stands in the way. -/
def Member.shield : Member → Member
  | .procedure p => .procedure (p.wrap options)
  | .constructor c => .constructor { c with body := Constructor.shieldedBody options c.body }
  | member => member

/-- A type after a change that nothing stands in the way of. -/
def Change.apply : Change → TypeDecl → TypeDecl
  | .rename => TypeDecl.rename options
  | .strip member => TypeDecl.modifyMember Member.strip member
  | .wrap member => TypeDecl.modifyMember (Member.shield options) member

/-! ## One member -/

/-- A member that is not a constructor which delegates and goes on. -/
def Member.Wrappable : Member → Prop
  | .constructor c =>
    ¬∃ call next later, Stmt.effective c.body = .delegate call :: next :: later
  | _ => True

/-- Wrapping shields a member unless a delegating call stands in the way. -/
theorem Member.wrap_of_wrappable {m : Member} (wrappable : m.Wrappable) :
    m.wrap options = .ok (m.shield options) := by
  cases m with
  | constructor c =>
      change (c.wrap options).map Member.constructor = _
      rw [Constructor.wrap_by_effective]
      split
      · rename_i call next later shape
        exact absurd ⟨call, next, later, shape⟩ wrappable
      · rfl
  | procedure p => rfl
  | field text => rfl
  | nested name text => rfl
  | other text => rfl

theorem Member.wrappable_rename {m : Member} (old new : Text) :
    (m.rename old new).Wrappable ↔ m.Wrappable := by
  cases m with
  | constructor c =>
      unfold Member.rename Member.Wrappable
      dsimp only
      split <;> exact Iff.rfl
  | procedure p => exact Iff.rfl
  | field text => exact Iff.rfl
  | nested name text => exact Iff.rfl
  | other text => exact Iff.rfl

theorem Member.wrappable_strip {m : Member} : m.strip.Wrappable ↔ m.Wrappable := by
  cases m <;> exact Iff.rfl

/-- Stripping changes what is declared and wrapping what is run. -/
theorem Member.strip_shield (m : Member) : (m.shield options).strip = m.strip.shield options := by
  cases m with
  | procedure p =>
      simp only [Member.shield, Member.strip, Procedure.strip, Procedure.wrap]
      split <;> rfl
  | constructor c => rfl
  | field text => rfl
  | nested name text => rfl
  | other text => rfl

theorem Member.rename_shield (old new : Text) (m : Member) :
    (m.shield options).rename old new = (m.rename old new).shield options := by
  cases m with
  | constructor c =>
      simp only [Member.shield, Member.rename]
      split <;> rfl
  | procedure p => rfl
  | field text => rfl
  | nested name text => rfl
  | other text => rfl

theorem Member.rename_strip (old new : Text) (m : Member) :
    m.strip.rename old new = (m.rename old new).strip := by
  cases m with
  | constructor c =>
      simp only [Member.strip, Member.rename, Constructor.strip]
      split <;> rfl
  | procedure p => rfl
  | field text => rfl
  | nested name text => rfl
  | other text => rfl

/-- The image of a member is made of the changes that are due to it. -/
theorem Member.unchecked_eq (typeName : Text) (m : Member) :
    m.unchecked options typeName =
      let renamed := m.rename typeName (options.generatedName typeName)
      if m.isConvertible then renamed.strip.shield options else renamed := by
  cases m with
  | procedure p =>
      simp only [Member.unchecked, Member.isConvertible, Member.rename, Member.strip,
        Member.shield, ← Procedure.convert_eq_unchecked]
      exact apply_ite Member.procedure _ _ _
  | constructor c =>
      have followed : (Member.constructor c).rename typeName (options.generatedName typeName) =
          .constructor (c.renamed options typeName) :=
        Member.prepared_constructor options typeName c
      by_cases declares : c.throws = []
      · simp [Member.unchecked, Constructor.unchecked, Constructor.renamed, Member.isConvertible,
          Constructor.isConvertible, followed, declares]
      · simp [Member.unchecked, Constructor.unchecked, Constructor.renamed, Member.isConvertible,
          Constructor.isConvertible, Member.strip, Constructor.strip, Member.shield, followed,
          declares]
        rfl
  | field text => rfl
  | nested name text => rfl
  | other text => rfl

/-! ## All changes of a type -/

/-- The changes of a list that concern one member, in a fixed order. -/
def Change.image (changes : List Change) (typeName : Text) (index : Nat) (m : Member) : Member :=
  let renamed :=
    if .rename ∈ changes then m.rename typeName (options.generatedName typeName) else m
  let stripped := if .strip index ∈ changes then renamed.strip else renamed
  if .wrap index ∈ changes then stripped.shield options else stripped

variable {options} {changes : List Change} {typeName : Text} {index : Nat} {m : Member}

/-- A further renaming passes the changes that come behind it in the order. -/
theorem Change.image_rename (fresh : .rename ∉ changes) :
    Change.image options (changes ++ [.rename]) typeName index m =
      (Change.image options changes typeName index m).rename typeName
        (options.generatedName typeName) := by
  by_cases stripped : .strip index ∈ changes <;> by_cases wrapped : .wrap index ∈ changes <;>
    simp [Change.image, fresh, stripped, wrapped, Member.rename_shield, Member.rename_strip]

theorem Change.image_strip {member : Nat} (fresh : .strip member ∉ changes) :
    Change.image options (changes ++ [.strip member]) typeName index m =
      if member = index then (Change.image options changes typeName index m).strip
      else Change.image options changes typeName index m := by
  by_cases here : member = index
  · subst here
    by_cases wrapped : .wrap member ∈ changes <;>
      simp [Change.image, fresh, wrapped, Member.strip_shield]
  · simp [Change.image, here, Ne.symm here]

theorem Change.image_wrap {member : Nat} (fresh : .wrap member ∉ changes) :
    Change.image options (changes ++ [.wrap member]) typeName index m =
      if member = index then (Change.image options changes typeName index m).shield options
      else Change.image options changes typeName index m := by
  by_cases here : member = index
  · subst here
    simp [Change.image, fresh]
  · simp [Change.image, here, Ne.symm here]

variable (options)

/-- The changes of a list have the same effect in every order: the type is renamed if this is
among them, and each member has the changes that concern it. -/
theorem Change.foldl_apply (decl : TypeDecl) (once : changes.Nodup) :
    changes.foldl (fun decl change => change.apply options decl) decl =
      { decl with
        name := if .rename ∈ changes then options.generatedName decl.name else decl.name
        members := decl.members.mapIdx (Change.image options changes decl.name) } := by
  induction changes using List.reverseRecOn with
  | nil =>
      have same : decl.members.mapIdx (Change.image options [] decl.name) = decl.members := by
        refine List.ext_getElem? fun i => ?_
        cases listed : decl.members[i]? <;> simp [listed, Change.image]
      simp [same]
  | append_singleton init last ih =>
      rw [List.nodup_append] at once
      obtain ⟨once, -, apart⟩ := once
      have fresh : last ∉ init := fun listed => apart last listed last (by simp) rfl
      rw [List.foldl_append, List.foldl_cons, List.foldl_nil, ih once]
      cases last with
      | rename =>
          simp only [Change.apply, TypeDecl.rename, fresh, if_false]
          congr 1
          · simp
          · refine List.ext_getElem? fun i => ?_
            cases listed : decl.members[i]? <;> simp [listed, Change.image_rename fresh]
      | strip member =>
          simp only [Change.apply, TypeDecl.modifyMember]
          congr 1
          · simp
          · refine List.ext_getElem? fun i => ?_
            cases listed : decl.members[i]? <;>
              simp [listed, List.getElem?_modify, Change.image_strip fresh]
      | wrap member =>
          simp only [Change.apply, TypeDecl.modifyMember]
          congr 1
          · simp
          · refine List.ext_getElem? fun i => ?_
            cases listed : decl.members[i]? <;>
              simp [listed, List.getElem?_modify, Change.image_wrap fresh]

/-! ## Steps of a session -/

theorem CompUnit.types_modifyType (f : TypeDecl → TypeDecl) (type : Nat) (unit : CompUnit) :
    (unit.modifyType f type).types[type]? = (unit.types[type]?).map f := by
  obtain ⟨items⟩ := unit
  unfold CompUnit.modifyType CompUnit.types
  dsimp only
  induction items generalizing type with
  | nil => simp [Item.modifyType]
  | cons item rest ih =>
      cases item with
      | typeDecl decl => cases type <;> simp [Item.modifyType, ih]
      | packageDecl text | importDecl text | comment text | other text =>
          simp [Item.modifyType, ih]

/-- What is made of a type matters only where the type stands. -/
theorem CompUnit.modifyType_congr {f g : TypeDecl → TypeDecl} {type : Nat} {unit : CompUnit}
    {decl : TypeDecl} (found : unit.types[type]? = some decl) (same : f decl = g decl) :
    unit.modifyType f type = unit.modifyType g type := by
  obtain ⟨items⟩ := unit
  unfold CompUnit.modifyType
  rw [CompUnit.mk.injEq]
  unfold CompUnit.types at found
  induction items generalizing type with
  | nil => rfl
  | cons item rest ih =>
      cases item with
      | typeDecl first =>
          cases type with
          | zero =>
              obtain rfl : first = decl := by simpa using found
              simp [Item.modifyType, same]
          | succ type => simpa [Item.modifyType] using ih (by simpa using found)
      | packageDecl text | importDecl text | comment text | other text =>
          simpa [Item.modifyType] using ih (by simpa using found)

theorem CompUnit.modifyType_modifyType (f g : TypeDecl → TypeDecl) (type : Nat)
    (unit : CompUnit) :
    (unit.modifyType f type).modifyType g type = unit.modifyType (fun decl => g (f decl)) type := by
  obtain ⟨items⟩ := unit
  unfold CompUnit.modifyType
  rw [CompUnit.mk.injEq]
  induction items generalizing type with
  | nil => rfl
  | cons item rest ih =>
      cases item with
      | typeDecl decl => cases type <;> simp [Item.modifyType, ih]
      | packageDecl text | importDecl text | comment text | other text =>
          simp [Item.modifyType, ih]

theorem CompUnit.modifyType_self (type : Nat) (unit : CompUnit) :
    unit.modifyType (fun decl => decl) type = unit := by
  obtain ⟨items⟩ := unit
  unfold CompUnit.modifyType
  rw [CompUnit.mk.injEq]
  induction items generalizing type with
  | nil => rfl
  | cons item rest ih =>
      cases item with
      | typeDecl decl => cases type <;> simp [Item.modifyType, ih]
      | packageDecl text | importDecl text | comment text | other text =>
          simp [Item.modifyType, ih]

/-- A change that nothing stands in the way of: what is to be wrapped is there and does not
delegate and go on. -/
def Change.Unhindered (decl : TypeDecl) : Change → Prop
  | .wrap member => ∃ m, decl.members[member]? = some m ∧ m.Wrappable
  | _ => True

/-- One step: an unhindered change is made and does not fail. -/
theorem Change.run_step {unit : CompUnit} {type : Nat} {decl : TypeDecl} {change : Change}
    (found : unit.types[type]? = some decl) (unhindered : change.Unhindered decl) :
    (change.step options type).run unit = (unit.modifyType (change.apply options) type, none) := by
  cases change with
  | rename => rfl
  | strip member => rfl
  | wrap member =>
      obtain ⟨m, listed, wrappable⟩ := unhindered
      have here : unit.member? type member = some m := by
        simp [CompUnit.member?, found, listed]
      simp only [Change.step, Step.run, here, Option.map_some,
        Member.wrap_of_wrappable options wrappable, Prod.mk.injEq, and_true]
      refine CompUnit.modifyType_congr found ?_
      simp only [Change.apply, TypeDecl.modifyMember, TypeDecl.mk.injEq, true_and]
      refine List.ext_getElem? fun i => ?_
      rw [List.getElem?_modify, List.getElem?_modify]
      split
      · rename_i same
        subst same
        rw [listed]
        rfl
      · rfl

/-- A change leaves all other changes unhindered. -/
theorem Change.Unhindered.apply {decl : TypeDecl} {change other : Change}
    (unhindered : other.Unhindered decl) (apart : other ≠ change) :
    other.Unhindered (change.apply options decl) := by
  cases other with
  | rename => trivial
  | strip member => trivial
  | wrap member =>
      obtain ⟨m, listed, wrappable⟩ := unhindered
      cases change with
      | rename =>
          refine ⟨m.rename decl.name (options.generatedName decl.name), ?_, ?_⟩
          · simp [Change.apply, TypeDecl.rename, listed]
          · exact (Member.wrappable_rename _ _).mpr wrappable
      | strip stripped =>
          by_cases same : stripped = member
          · refine ⟨m.strip, ?_, Member.wrappable_strip.mpr wrappable⟩
            simp [Change.apply, TypeDecl.modifyMember, listed, same]
          · refine ⟨m, ?_, wrappable⟩
            simp [Change.apply, TypeDecl.modifyMember, listed, same]
      | wrap wrapped =>
          have same : wrapped ≠ member := fun same => apart (same ▸ rfl)
          refine ⟨m, ?_, wrappable⟩
          simp [Change.apply, TypeDecl.modifyMember, listed, same]

/-- All steps: unhindered changes are made one after the other and none fails. -/
theorem Change.runFrom_steps {unit : CompUnit} {type : Nat} {decl : TypeDecl}
    (found : unit.types[type]? = some decl) (once : changes.Nodup)
    (unhindered : ∀ change ∈ changes, change.Unhindered decl) :
    Step.runFrom unit (changes.map (Change.step options type)) =
      (unit.modifyType
        (fun decl => changes.foldl (fun decl change => change.apply options decl) decl) type,
        []) := by
  induction changes generalizing unit decl with
  | nil => simp [Step.runFrom, CompUnit.modifyType_self]
  | cons change rest ih =>
      rw [List.nodup_cons] at once
      rw [List.forall_mem_cons] at unhindered
      have next : (unit.modifyType (change.apply options) type).types[type]? =
          some (change.apply options decl) := by
        rw [CompUnit.types_modifyType, found, Option.map_some]
      have later := ih next once.2 fun other listed =>
        (unhindered.2 other listed).apply options fun same => once.1 (same ▸ listed)
      simp only [List.map_cons, Step.runFrom, Change.run_step options found unhindered.1, later,
        Option.toList_none, List.nil_append, CompUnit.modifyType_modifyType, List.foldl_cons]

/-! ## The changes that are due -/

/-- What is due can be made if no constructor offends. -/
theorem Change.unhindered_of_isDue {decl : TypeDecl} (fine : ∀ c ∈ decl.constructors, ¬c.Offends)
    {change : Change} (due : change.isDue decl = true) : change.Unhindered decl := by
  cases change with
  | rename => trivial
  | strip member => trivial
  | wrap member =>
      cases listed : decl.members[member]? with
      | none => simp [Change.isDue, listed] at due
      | some m =>
          have converted : m.isConvertible = true := by simpa [Change.isDue, listed] using due
          refine ⟨m, listed, ?_⟩
          cases m with
          | constructor c =>
              have declares : c.throws ≠ [] := by
                simpa [Member.isConvertible, Constructor.isConvertible] using converted
              have among := (decl.mem_constructors c).mpr (List.mem_of_getElem? listed)
              exact fun goesOn => fine c among ⟨declares, goesOn⟩
          | procedure p => trivial
          | field text => trivial
          | nested name text => trivial
          | other text => trivial

/-- The changes that are due make the image of a type. -/
theorem Change.foldl_apply_due {decl : TypeDecl} (once : changes.Nodup)
    (due : ∀ change, change ∈ changes ↔ change.isDue decl = true) :
    changes.foldl (fun decl change => change.apply options decl) decl = decl.unchecked options := by
  rw [Change.foldl_apply options decl once]
  have renames : .rename ∈ changes := (due .rename).mpr rfl
  have members : decl.members.mapIdx (Change.image options changes decl.name) =
      decl.members.map (Member.unchecked options decl.name) := by
    refine List.ext_getElem? fun i => ?_
    cases listed : decl.members[i]? with
    | none => simp [listed]
    | some m =>
        have strips := due (.strip i)
        have wraps := due (.wrap i)
        simp only [Change.isDue, listed, Option.any_some] at strips wraps
        simp only [List.getElem?_mapIdx, List.getElem?_map, listed, Option.map_some,
          Change.image, renames, strips, wraps, Member.unchecked_eq, if_true]
        split <;> rfl
  simp only [renames, members, if_true]
  rfl

/-- Steps on a type commute and add up to enhancing it. Whatever the order in which a session
renames a type without an offending constructor, and strips and wraps each of its members that
declares failures and has statements, all of it once: no step fails, and the type is left as
enhancing it leaves it. -/
theorem Step.runFrom_changes {unit : CompUnit} {type : Nat} {decl : TypeDecl}
    (found : unit.types[type]? = some decl) (fine : ∀ c ∈ decl.constructors, ¬c.Offends)
    {changes : List Change} (once : changes.Nodup)
    (due : ∀ change, change ∈ changes ↔ change.isDue decl = true) :
    (decl.enhance options).refusal = none ∧
      Step.runFrom unit (changes.map (Change.step options type)) =
        (unit.modifyType (fun _ => (decl.enhance options).value) type, []) ∧
      (Step.enhanceType type options).run unit =
        (unit.modifyType (fun _ => (decl.enhance options).value) type, none) := by
  obtain ⟨succeeds, image⟩ := decl.enhance_image options
  have done := succeeds.mpr fine
  have unhindered : ∀ change ∈ changes, change.Unhindered decl := fun change listed =>
    Change.unhindered_of_isDue fine ((due change).mp listed)
  refine ⟨done, ?_, ?_⟩
  · rw [Change.runFrom_steps options found once unhindered, image done]
    exact congrArg (·, []) (CompUnit.modifyType_congr found
      (Change.foldl_apply_due options once due))
  · simp [Step.run, found, done]

/-- A type with a method and two constructors that are converted, one of which only delegates,
a method that is only declared, and a field. -/
def mixedMembers : TypeDecl :=
  { name := "A".toList
    members := [
      .procedure {
        doc := some "/** @throws E */".toList
        throws := ["E".toList]
        body := some [.verbatim "f();".toList] },
      .constructor {
        name := "A".toList
        throws := ["E".toList]
        body := [.comment "// c".toList, .verbatim "g();".toList] },
      .procedure { throws := ["E".toList] },
      .constructor {
        name := "A".toList
        throws := ["E".toList]
        body := [.delegate "super();".toList] },
      .field "int x;".toList] }

/-- Members are wrapped before they are stripped and stripped before they are renamed. -/
theorem Step.runFrom_changes_mixedMembers :
    let unit : CompUnit := { items := [.comment "// c".toList, .typeDecl mixedMembers] }
    let changes : List Change :=
      [.wrap 1, .strip 3, .wrap 0, .rename, .strip 1, .wrap 3, .strip 0]
    Step.runFrom unit (changes.map (Change.step {} 0)) =
        (((Step.enhanceType 0 {}).run unit).1, []) ∧
      ((Step.enhanceType 0 {}).run unit).2 = none := by
  intro unit changes
  have due : ∀ change, change ∈ changes ↔ change.isDue mixedMembers = true := by
    intro change
    cases change with
    | rename => decide
    | strip member | wrap member =>
        rcases member with _ | _ | _ | _ | _ | member
        · decide
        · decide
        · decide
        · decide
        · decide
        · simp [changes, Change.isDue, mixedMembers]
  have fine : ∀ c ∈ mixedMembers.constructors, ¬c.Offends := by
    simp [mixedMembers, TypeDecl.constructors, Constructor.Offends, Stmt.effective,
      Stmt.isComment]
  obtain ⟨-, ran, enhanced⟩ :=
    @Step.runFrom_changes {} unit 0 mixedMembers rfl fine changes (by decide) due
  rw [ran, enhanced]
  exact ⟨rfl, rfl⟩

end Rethrow
