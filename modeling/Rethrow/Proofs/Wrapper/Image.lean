import Rethrow.Wrapper.Enhance

/-!
# The unchecked image of a unit

The unchecked variant of a type is made by three passes over its members, the last of
which stops at the first constructor it refuses. `CompUnit.unchecked` says member by
member what the passes add up to, and `CompUnit.enhance_exact` says that nothing else
happens: the work succeeds exactly when no constructor offends, and then it leaves the
unchecked image behind.
-/

namespace Rethrow

/-! ## Statements that run -/

/-- The statements of a body that are no comments. -/
def Stmt.effective (body : List Stmt) : List Stmt :=
  body.filter fun s => !s.isComment

@[simp] theorem Stmt.effective_nil : Stmt.effective [] = [] := rfl

theorem Stmt.effective_cons (s : Stmt) (rest : List Stmt) :
    Stmt.effective (s :: rest) =
      if s.isComment then Stmt.effective rest else s :: Stmt.effective rest := by
  cases comment : s.isComment <;> simp [Stmt.effective, comment]

/-- Whether something runs is a question of the effective statements alone. -/
theorem Stmt.any_not_comment (body : List Stmt) :
    (body.any fun s => !s.isComment) = !(Stmt.effective body).isEmpty := by
  induction body with
  | nil => rfl
  | cons s rest ih =>
      rw [List.any_cons, ih, Stmt.effective_cons]
      cases s.isComment <;> simp

/-- Passing over the comments in front of a body leaves its first effective statement in
front, or nothing. -/
theorem Stmt.effective_of_dropWhile (body : List Stmt) :
    Stmt.effective body =
      match body.dropWhile Stmt.isComment with
      | [] => []
      | first :: rest => first :: Stmt.effective rest := by
  induction body with
  | nil => rfl
  | cons s rest ih =>
      rw [Stmt.effective_cons, List.dropWhile_cons]
      cases comment : s.isComment with
      | true => simpa using ih
      | false => simp

/-! ## The image -/

/-- A constructor that cannot be protected: it declares failures, delegates with its first
effective statement and goes on after it. -/
def Constructor.Offends (c : Constructor) : Prop :=
  c.throws ≠ [] ∧
    ∃ call next later, Stmt.effective c.body = .delegate call :: next :: later

/-- The body that protects `body`: one `try` around all of it, with one handler that
throws the unchecked failure with the escaped message and the caught failure. -/
def Wrapper.shielded (options : Options) (body : List Stmt) : List Stmt :=
  [.guarded body
    [.clause ["Exception".toList] "e".toList
      [.throw (.create options.uncheckedType
        [.string (Text.escape options.message), .name "e".toList])]]
    none]

/-- A documentation comment after the tags for declared failures were replaced. -/
def Wrapper.plainDoc (doc : Option Text) : Option Text :=
  doc.map (Text.replace "@throws".toList "no longer throws".toList)

/-- The image of a method: one that declares failures, has a body and is not native is
stripped and shielded, and every other one stays. -/
def Procedure.unchecked (options : Options) (p : Procedure) : Procedure :=
  match p.body with
  | none => p
  | some body =>
    if p.throws = [] ∨ p.modifiers.isNative = true then p
    else
      { p with
        doc := Wrapper.plainDoc p.doc
        throws := []
        body := some (Wrapper.shielded options body) }

/-- The body of a converted constructor: one that runs nothing, or a delegating call
alone, stays as it is. -/
def Constructor.shieldedBody (options : Options) (body : List Stmt) : List Stmt :=
  match Stmt.effective body with
  | [] => body
  | [.delegate _] => body
  | _ => Wrapper.shielded options body

/-- The image of a constructor of the type `typeName`: it follows the name of its type,
and one that declares failures is stripped and its body shielded. -/
def Constructor.unchecked (options : Options) (typeName : Text) (c : Constructor) :
    Constructor :=
  { c with
    name :=
      if c.name = typeName then options.namePrefix ++ typeName ++ options.nameSuffix
      else c.name
    doc := if c.throws = [] then c.doc else Wrapper.plainDoc c.doc
    throws := []
    body := if c.throws = [] then c.body else Constructor.shieldedBody options c.body }

/-- A constructor of the type `typeName` that only followed the name of its type. -/
def Constructor.renamed (options : Options) (typeName : Text) (c : Constructor) : Constructor :=
  { c with
    name :=
      if c.name = typeName then options.namePrefix ++ typeName ++ options.nameSuffix
      else c.name }

/-- A constructor of the type `typeName` that was refused: it is renamed and declares no
failures, but its body is not protected. -/
def Constructor.refused (options : Options) (typeName : Text) (c : Constructor) : Constructor :=
  { c.renamed options typeName with
    doc := Wrapper.plainDoc c.doc
    throws := [] }

/-- The image of a member of the type `typeName`. -/
def Member.unchecked (options : Options) (typeName : Text) : Member → Member
  | .procedure p => .procedure (p.unchecked options)
  | .constructor c => .constructor (c.unchecked options typeName)
  | .field text => .field text
  | .nested name text => .nested name text
  | .other text => .other text

/-- The image of a type: its new name, and the images of its members in their order. -/
def TypeDecl.unchecked (options : Options) (decl : TypeDecl) : TypeDecl :=
  { decl with
    name := options.namePrefix ++ decl.name ++ options.nameSuffix
    members := decl.members.map (Member.unchecked options decl.name) }

/-- The image of an item: only types change. -/
def Item.unchecked (options : Options) : Item → Item
  | .typeDecl decl => .typeDecl (decl.unchecked options)
  | item => item

/-- The image of a unit, item by item. -/
def CompUnit.unchecked (options : Options) (unit : CompUnit) : CompUnit :=
  { items := unit.items.map (Item.unchecked options) }

/-! ## One member -/

/-- The pass over methods gives each method its image. -/
theorem Procedure.convert_eq_unchecked (options : Options) (p : Procedure) :
    (if p.isConvertible then p.strip.wrap options else p) = p.unchecked options := by
  unfold Procedure.unchecked
  cases bodyEq : p.body with
  | none => simp [Procedure.isConvertible, Procedure.isBodiless, bodyEq]
  | some body =>
      cases native : p.modifiers.isNative with
      | true => simp [Procedure.isConvertible, Procedure.isBodiless, native]
      | false =>
          by_cases declares : p.throws = []
          · simp [Procedure.isConvertible, declares]
          · simp only [Procedure.isConvertible, Procedure.isBodiless, bodyEq, native]
            simp [declares, Procedure.strip, Procedure.wrap, native, bodyEq]
            exact And.intro rfl rfl

/-- What wrapping a constructor does, by its effective statements. -/
theorem Constructor.wrap_by_effective (options : Options) (c : Constructor) :
    c.wrap options =
      match Stmt.effective c.body with
      | .delegate _ :: _ :: _ => .error ⟨c.name⟩
      | _ => .ok { c with body := Constructor.shieldedBody options c.body } := by
  have front := Stmt.effective_of_dropWhile c.body
  unfold Constructor.wrap Constructor.shieldedBody
  cases dropped : c.body.dropWhile Stmt.isComment with
  | nil => simp only [dropped] at front; simp only [front]
  | cons first rest =>
      simp only [dropped] at front
      simp only [front]
      cases first with
      | delegate call =>
          simp only [Stmt.any_not_comment]
          cases Stmt.effective rest <;> rfl
      | comment _ => rfl
      | guarded _ _ _ => rfl
      | throw _ => rfl
      | verbatim _ => rfl

/-- A constructor that declares failures is refused exactly when it offends, and else it
gets its image, its name apart. -/
theorem Constructor.strip_wrap (options : Options) (c : Constructor)
    (declares : c.throws ≠ []) :
    (c.Offends ∧ c.strip.wrap options = .error ⟨c.name⟩) ∨
      (¬c.Offends ∧ c.strip.wrap options =
        .ok { c with
          doc := Wrapper.plainDoc c.doc
          throws := []
          body := Constructor.shieldedBody options c.body }) := by
  rw [Constructor.wrap_by_effective]
  simp only [Constructor.strip, Constructor.Offends]
  split
  · rename_i call next later shape
    exact .inl ⟨⟨declares, call, next, later, shape⟩, rfl⟩
  · rename_i shape
    refine .inr ⟨?_, rfl⟩
    rintro ⟨_, call, next, later, offending⟩
    exact shape call next later offending

/-! ## The members of a type -/

/-- A member of the type `typeName` as the pass over constructors finds it: renamed, and
converted if it is a method. -/
def Member.prepared (options : Options) (typeName : Text) (member : Member) : Member :=
  (member.rename typeName (options.generatedName typeName)).convertProcedure options

/-- The pass over constructors finds a constructor renamed. -/
theorem Member.prepared_constructor (options : Options) (typeName : Text) (c : Constructor) :
    Member.prepared options typeName (.constructor c) =
      .constructor (c.renamed options typeName) := by
  unfold Member.prepared Member.rename Member.convertProcedure Constructor.renamed
  by_cases own : c.name = typeName <;> simp [own, Options.generatedName]

/-- What the pass over constructors does with one member: it stops at a constructor that
offends, and it gives every other member its image and goes on. -/
theorem Member.convertConstructors_prepared_cons (options : Options) (typeName : Text)
    (member : Member) (later : List Member) :
    let rest := Member.convertConstructors options later
    let all := Member.convertConstructors options (member.prepared options typeName :: later)
    (∃ c, member = .constructor c ∧ c.Offends ∧
        all = { value := .constructor (c.refused options typeName) :: later
                refusal := some ⟨(c.renamed options typeName).name⟩ }) ∨
      ((∀ c, member = .constructor c → ¬c.Offends) ∧
        all = { rest with value := member.unchecked options typeName :: rest.value }) := by
  cases member with
  | constructor c =>
      have sameOffence : (c.renamed options typeName).Offends ↔ c.Offends := Iff.rfl
      simp only [Member.prepared_constructor, Member.convertConstructors]
      by_cases declares : c.throws = []
      · refine .inr ⟨fun _ same offends => offends.1 (by cases same; exact declares), ?_⟩
        simp [Constructor.isConvertible, declares, Member.unchecked, Constructor.unchecked,
          Constructor.renamed]
      · have convertible : (c.renamed options typeName).isConvertible = true := by
          simp [Constructor.renamed, Constructor.isConvertible, declares]
        rw [if_pos convertible]
        rcases (c.renamed options typeName).strip_wrap options declares with
          ⟨offends, refused⟩ | ⟨fine, wrapped⟩
        · refine .inl ⟨c, rfl, sameOffence.mp offends, ?_⟩
          rw [refused]
          rfl
        · refine .inr ⟨fun _ same => by cases same; exact fine, ?_⟩
          rw [wrapped]
          simp [Constructor.renamed, declares, Member.unchecked, Constructor.unchecked]
  | procedure p =>
      refine .inr ⟨by simp, ?_⟩
      simp only [Member.prepared, Member.rename, Member.convertProcedure,
        Member.convertConstructors, Procedure.convert_eq_unchecked, Member.unchecked]
  | field text => exact .inr ⟨by simp, rfl⟩
  | nested name text => exact .inr ⟨by simp, rfl⟩
  | other text => exact .inr ⟨by simp, rfl⟩

/-- The pass over constructors reaches the end of the members exactly when no constructor
among them offends, and then all of them have their images. -/
theorem Member.convertConstructors_prepared (options : Options) (typeName : Text)
    (members : List Member) :
    let all := Member.convertConstructors options (members.map (Member.prepared options typeName))
    (all.refusal = none ↔ ∀ c, .constructor c ∈ members → ¬c.Offends) ∧
      (all.refusal = none → all.value = members.map (Member.unchecked options typeName)) := by
  induction members with
  | nil => simp [Member.convertConstructors]
  | cons member rest ih =>
      obtain ⟨succeeds, image⟩ := ih
      rcases Member.convertConstructors_prepared_cons options typeName member
          (rest.map (Member.prepared options typeName)) with
        ⟨c, same, offends, stopped⟩ | ⟨fine, goesOn⟩
      · have refused : (Member.convertConstructors options
            ((member :: rest).map (Member.prepared options typeName))).refusal ≠ none := by
          rw [List.map_cons, stopped]
          simp
        refine ⟨⟨fun done => absurd done refused, fun none => ?_⟩, fun done => absurd done refused⟩
        exact absurd offends (none c (by simp [same]))
      · rw [List.map_cons, goesOn]
        refine ⟨?_, fun done => by rw [List.map_cons, image done]⟩
        rw [succeeds]
        constructor
        · intro restFine c member
          rcases List.mem_cons.mp member with same | inRest
          · exact fine c same.symm
          · exact restFine c inRest
        · intro allFine c inRest
          exact allFine c (List.mem_cons_of_mem _ inRest)

/-! ## Types and units -/

theorem TypeDecl.mem_constructors (decl : TypeDecl) (c : Constructor) :
    c ∈ decl.constructors ↔ .constructor c ∈ decl.members := by
  unfold TypeDecl.constructors
  rw [List.mem_filterMap]
  constructor
  · rintro ⟨member, found, same⟩
    cases member <;> simp_all
  · intro found
    exact ⟨_, found, rfl⟩

/-- The work on a type: its new name, and the pass over constructors on the members as the
passes in front of it leave them. -/
theorem TypeDecl.enhance_passes (options : Options) (decl : TypeDecl) :
    let converted :=
      Member.convertConstructors options (decl.members.map (Member.prepared options decl.name))
    decl.enhance options =
      { value :=
          { decl with
            name := options.namePrefix ++ decl.name ++ options.nameSuffix
            members := converted.value }
        refusal := converted.refusal } := by
  have passes : (decl.rename options).members.map (Member.convertProcedure options) =
      decl.members.map (Member.prepared options decl.name) := by
    simp [TypeDecl.rename, Member.prepared, Function.comp_def]
  unfold TypeDecl.enhance
  simp only [passes]
  rfl

/-- A type is converted to the end exactly when none of its constructors offends, and then
it has its image. -/
theorem TypeDecl.enhance_image (options : Options) (decl : TypeDecl) :
    ((decl.enhance options).refusal = none ↔ ∀ c ∈ decl.constructors, ¬c.Offends) ∧
      ((decl.enhance options).refusal = none →
        (decl.enhance options).value = decl.unchecked options) := by
  obtain ⟨succeeds, image⟩ :=
    Member.convertConstructors_prepared options decl.name decl.members
  rw [TypeDecl.enhance_passes]
  refine ⟨by simpa only [TypeDecl.mem_constructors] using succeeds, fun done => ?_⟩
  simp only [image done]
  rfl

/-- The items of a unit, type by type: the first type that is refused ends the work. -/
theorem Item.enhanceAll_image (options : Options) (items : List Item) :
    ((Item.enhanceAll options items).refusal = none ↔
        ∀ decl, .typeDecl decl ∈ items → ∀ c ∈ decl.constructors, ¬c.Offends) ∧
      ((Item.enhanceAll options items).refusal = none →
        (Item.enhanceAll options items).value = items.map (Item.unchecked options)) := by
  induction items with
  | nil => simp [Item.enhanceAll]
  | cons item rest ih =>
      obtain ⟨succeeds, image⟩ := ih
      cases item with
      | typeDecl decl =>
          obtain ⟨declSucceeds, declImage⟩ := decl.enhance_image options
          simp only [Item.enhanceAll]
          cases outcome : (decl.enhance options).refusal with
          | some refusal =>
              have offence : ¬∀ c ∈ decl.constructors, ¬c.Offends := by
                rw [← declSucceeds, outcome]
                simp
              refine ⟨⟨by simp, fun fine => ?_⟩, by simp⟩
              exact absurd (fine decl (by simp)) offence
          | none =>
              refine ⟨?_, fun done => ?_⟩
              · simp only [succeeds, List.mem_cons, Item.typeDecl.injEq, forall_eq_or_imp]
                exact ⟨fun fine => ⟨declSucceeds.mp outcome, fine⟩, fun fine => fine.2⟩
              · rw [List.map_cons, ← image done, declImage outcome]
                rfl
      | packageDecl text => exact ⟨by simpa [Item.enhanceAll] using succeeds,
          fun done => congrArg (Item.packageDecl text :: ·) (image done)⟩
      | importDecl text => exact ⟨by simpa [Item.enhanceAll] using succeeds,
          fun done => congrArg (Item.importDecl text :: ·) (image done)⟩
      | comment text => exact ⟨by simpa [Item.enhanceAll] using succeeds,
          fun done => congrArg (Item.comment text :: ·) (image done)⟩
      | other text => exact ⟨by simpa [Item.enhanceAll] using succeeds,
          fun done => congrArg (Item.other text :: ·) (image done)⟩

/-- The exact meaning of the rewrite: it succeeds if and only if no type of the unit has a
constructor that offends, and what it then leaves is the unchecked image of the unit. -/
theorem CompUnit.enhance_exact (options : Options) (unit : CompUnit) :
    ((unit.enhance options).refusal = none ↔
        ∀ decl ∈ unit.types, ∀ c ∈ decl.constructors, ¬c.Offends) ∧
      ((unit.enhance options).refusal = none →
        (unit.enhance options).value = unit.unchecked options) := by
  obtain ⟨succeeds, image⟩ := Item.enhanceAll_image options unit.items
  simp only [CompUnit.mem_types]
  exact ⟨succeeds, fun done => congrArg CompUnit.mk (image done)⟩

end Rethrow
