import Rethrow.Proofs.Reading.Delegation
import Rethrow.Session

/-!
# Delegating calls in a session

Wrapping looks at the first effective statement of a constructor alone. That no delegating call
ever ends up inside a block is therefore a matter of the whole session: reading a source
establishes `CompUnit.CallsLead`, every step keeps it, whether it succeeds or fails halfway, and
so it holds after every run of steps (`Step.callsLead_runAll`).
-/

namespace Rethrow

/-! ## One member -/

/-- A handler holds the calls of the body it protects, and no others. -/
theorem Wrapper.calls_handler (options : Options) (body : List Stmt) :
    (Wrapper.handler options body).calls = Stmt.callsOf body := by
  simp [Wrapper.handler, Wrapper.rethrow, Stmt.tryCatch, Catch.ofType, Stmt.calls, Stmt.callsOf,
    Catch.callsOf, Stmt.finishCalls]

theorem Procedure.callsOf_wrap (options : Options) {p : Procedure}
    (none : Stmt.callsOf (p.body.getD []) = []) :
    Stmt.callsOf ((p.wrap options).body.getD []) = [] := by
  unfold Procedure.wrap
  split
  · exact none
  · cases shape : p.body with
    | none => simp [Stmt.callsOf]
    | some body =>
        rw [shape] at none
        simpa [Stmt.callsOf, Wrapper.calls_handler] using none

/-- A constructor that is wrapped delegates nowhere, since its first effective statement does
not. -/
theorem Constructor.callsLead_wrap {options : Options} {c wrapped : Constructor}
    (lead : Stmt.CallsLead c.body) (done : c.wrap options = .ok wrapped) :
    Stmt.CallsLead wrapped.body := by
  unfold Constructor.wrap at done
  split at done
  · cases done
    exact lead
  · split at done
    · cases done
    · cases done
      exact lead
  · rename_i runs noCall
    cases done
    cases dropped : c.body.dropWhile Stmt.isComment with
    | nil => exact absurd dropped runs
    | cons first rest =>
        have other : first.isDelegate = false := by
          cases first with
          | delegate call => exact absurd dropped (noCall call rest)
          | comment _ => rfl
          | guarded _ _ _ => rfl
          | throw _ => rfl
          | verbatim _ => rfl
        refine Stmt.callsLead_of_callsOf ?_
        simp [Stmt.callsOf, Wrapper.calls_handler, lead.callsOf_eq_nil dropped other]

theorem Member.callsLead_rename {m : Member} (lead : m.CallsLead) (old new : Text) :
    (m.rename old new).CallsLead := by
  cases m with
  | constructor c =>
      unfold Member.rename
      dsimp only
      split <;> exact lead
  | procedure p => exact lead
  | field text => trivial
  | nested name text => trivial
  | other text => trivial

theorem Member.callsLead_strip {m : Member} (lead : m.CallsLead) : m.strip.CallsLead := by
  cases m with
  | procedure p => exact lead
  | constructor c => exact lead
  | field text => trivial
  | nested name text => trivial
  | other text => trivial

theorem Member.callsLead_wrap {options : Options} {m wrapped : Member} (lead : m.CallsLead)
    (done : m.wrap options = .ok wrapped) : wrapped.CallsLead := by
  cases m with
  | procedure p =>
      cases done
      exact p.callsOf_wrap options lead
  | constructor c =>
      change (c.wrap options).map Member.constructor = .ok wrapped at done
      cases made : c.wrap options with
      | error refusal =>
          rw [made] at done
          cases done
      | ok new =>
          rw [made] at done
          cases done
          exact c.callsLead_wrap lead made
  | field text =>
      cases done
      trivial
  | nested name text =>
      cases done
      trivial
  | other text =>
      cases done
      trivial

/-! ## The passes over a type -/

theorem Member.callsLead_convertProcedure (options : Options) {m : Member} (lead : m.CallsLead) :
    (m.convertProcedure options).CallsLead := by
  cases m with
  | procedure p =>
      unfold Member.convertProcedure
      dsimp only
      split
      · exact p.strip.callsOf_wrap options lead
      · exact lead
  | constructor c => exact lead
  | field text => trivial
  | nested name text => trivial
  | other text => trivial

/-- The pass over constructors, also where it stops at one that it refuses. -/
theorem Member.callsLead_convertConstructors (options : Options) {members : List Member}
    (lead : ∀ m ∈ members, m.CallsLead) :
    ∀ m ∈ (Member.convertConstructors options members).value, m.CallsLead := by
  induction members with
  | nil => exact lead
  | cons m rest ih =>
      rw [List.forall_mem_cons] at lead
      have later := ih lead.2
      cases m with
      | constructor c =>
          rw [Member.convertConstructors]
          split
          · split
            · rename_i converted made
              exact List.forall_mem_cons.mpr ⟨c.strip.callsLead_wrap lead.1 made, later⟩
            · exact List.forall_mem_cons.mpr lead
          · exact List.forall_mem_cons.mpr ⟨lead.1, later⟩
      | procedure p => exact List.forall_mem_cons.mpr ⟨lead.1, later⟩
      | field text => exact List.forall_mem_cons.mpr ⟨lead.1, later⟩
      | nested name text => exact List.forall_mem_cons.mpr ⟨lead.1, later⟩
      | other text => exact List.forall_mem_cons.mpr ⟨lead.1, later⟩

theorem TypeDecl.callsLead_rename (options : Options) {decl : TypeDecl} (lead : decl.CallsLead) :
    (decl.rename options).CallsLead := by
  intro m listed
  obtain ⟨old, among, rfl⟩ := List.mem_map.mp listed
  exact Member.callsLead_rename (lead old among) _ _

theorem TypeDecl.callsLead_enhance (options : Options) {decl : TypeDecl} (lead : decl.CallsLead) :
    (decl.enhance options).value.CallsLead := by
  refine Member.callsLead_convertConstructors options ?_
  intro m listed
  obtain ⟨old, among, rfl⟩ := List.mem_map.mp listed
  exact Member.callsLead_convertProcedure options (decl.callsLead_rename options lead old among)

theorem TypeDecl.callsLead_modifyMember {f : Member → Member} {decl : TypeDecl} {index : Nat}
    (lead : decl.CallsLead) (kept : ∀ m, decl.members[index]? = some m → (f m).CallsLead) :
    (decl.modifyMember f index).CallsLead := by
  intro m listed
  obtain ⟨i, inside, rfl⟩ := List.mem_iff_getElem.mp listed
  simp only [TypeDecl.modifyMember, List.length_modify] at inside ⊢
  rw [List.getElem_modify]
  split
  · rename_i here
    subst here
    exact kept _ (List.getElem?_eq_getElem inside)
  · exact lead _ (List.getElem_mem inside)

/-! ## Units -/

/-- A type of a unit in which one type was changed is that one, or as it was. -/
theorem Item.mem_modifyType {f : TypeDecl → TypeDecl} {items : List Item} {index : Nat}
    {decl : TypeDecl} (listed : .typeDecl decl ∈ Item.modifyType f index items) :
    .typeDecl decl ∈ items ∨
      ∃ old, (CompUnit.mk items).types[index]? = some old ∧ decl = f old := by
  induction items generalizing index with
  | nil => simp [Item.modifyType] at listed
  | cons item rest ih =>
      cases item with
      | typeDecl first =>
          cases index with
          | zero =>
              rcases List.mem_cons.mp listed with here | later
              · exact .inr ⟨first, rfl, Item.typeDecl.inj here⟩
              · exact .inl (List.mem_cons_of_mem _ later)
          | succ index =>
              rcases List.mem_cons.mp listed with here | later
              · exact .inl (here ▸ List.mem_cons_self)
              · rcases ih later with old | new
                · exact .inl (List.mem_cons_of_mem _ old)
                · exact .inr new
      | packageDecl text | importDecl text | comment text | other text =>
          rcases List.mem_cons.mp listed with here | later
          · cases here
          · rcases ih later with old | new
            · exact .inl (List.mem_cons_of_mem _ old)
            · exact .inr new

theorem CompUnit.callsLead_modifyType {f : TypeDecl → TypeDecl} {unit : CompUnit} {index : Nat}
    (lead : unit.CallsLead) (kept : ∀ decl, unit.types[index]? = some decl → (f decl).CallsLead) :
    (unit.modifyType f index).CallsLead := by
  intro decl listed
  rcases Item.mem_modifyType ((CompUnit.mem_types _ decl).mp listed) with old | ⟨old, found, rfl⟩
  · exact lead decl ((CompUnit.mem_types _ decl).mpr old)
  · exact kept old found

theorem CompUnit.CallsLead.type {unit : CompUnit} (lead : unit.CallsLead) {index : Nat}
    {decl : TypeDecl} (found : unit.types[index]? = some decl) : decl.CallsLead :=
  lead decl (List.mem_of_getElem? found)

/-- The types of some items, also where the work stops at one that is refused. -/
theorem Item.callsLead_enhanceAll (options : Options) {items : List Item}
    (lead : ∀ decl, .typeDecl decl ∈ items → decl.CallsLead) :
    ∀ decl, .typeDecl decl ∈ (Item.enhanceAll options items).value → decl.CallsLead := by
  induction items with
  | nil => simp [Item.enhanceAll]
  | cons item rest ih =>
      have below := ih fun decl listed => lead decl (List.mem_cons_of_mem _ listed)
      intro decl listed
      cases item with
      | typeDecl first =>
          have here := TypeDecl.callsLead_enhance options (lead first List.mem_cons_self)
          rw [Item.enhanceAll] at listed
          dsimp only at listed
          split at listed
          · rcases List.mem_cons.mp listed with same | later
            · exact Item.typeDecl.inj same ▸ here
            · exact lead decl (List.mem_cons_of_mem _ later)
          · rcases List.mem_cons.mp listed with same | later
            · exact Item.typeDecl.inj same ▸ here
            · exact below decl later
      | packageDecl text | importDecl text | comment text | other text =>
          rcases List.mem_cons.mp listed with same | later
          · cases same
          · exact below decl later

theorem CompUnit.callsLead_enhance (options : Options) {unit : CompUnit} (lead : unit.CallsLead) :
    (unit.enhance options).value.CallsLead := by
  intro decl listed
  refine Item.callsLead_enhanceAll options (fun old among => ?_) decl
    ((CompUnit.mem_types _ decl).mp listed)
  exact lead old ((CompUnit.mem_types _ old).mpr among)

/-! ## Steps and runs -/

/-- What one step keeps. -/
theorem Step.callsLead_run {unit : CompUnit} (lead : unit.CallsLead) (step : Step) :
    (step.run unit).1.CallsLead := by
  cases step with
  | parse source =>
      unfold Step.run
      dsimp only
      split
      · exact CompUnit.callsLead_read? (by assumption)
      · exact lead
  | reparse =>
      unfold Step.run
      dsimp only
      split
      · exact CompUnit.callsLead_read? (by assumption)
      · exact lead
  | rename type options =>
      exact CompUnit.callsLead_modifyType lead fun decl found =>
        decl.callsLead_rename options (lead.type found)
  | strip type member =>
      refine CompUnit.callsLead_modifyType lead fun decl found => ?_
      refine TypeDecl.callsLead_modifyMember (lead.type found) fun m listed => ?_
      exact Member.callsLead_strip (lead.type found m (List.mem_of_getElem? listed))
  | wrap type member options =>
      unfold Step.run
      dsimp only
      split
      · rename_i wrapped result
        obtain ⟨m, listed, done⟩ := Option.map_eq_some_iff.mp result
        obtain ⟨old, found, among⟩ := Option.bind_eq_some_iff.mp listed
        have kept : wrapped.CallsLead :=
          Member.callsLead_wrap (lead.type found m (List.mem_of_getElem? among)) done
        refine CompUnit.callsLead_modifyType lead fun decl found' => ?_
        exact TypeDecl.callsLead_modifyMember (lead.type found') fun _ _ => kept
      · exact lead
      · exact lead
  | enhanceType type options =>
      unfold Step.run
      dsimp only
      split
      · rename_i worked result
        obtain ⟨old, found, rfl⟩ := Option.map_eq_some_iff.mp result
        exact CompUnit.callsLead_modifyType lead fun _ _ =>
          old.callsLead_enhance options (lead.type found)
      · exact lead
  | enhance options => exact unit.callsLead_enhance options lead

/-- A delegating call never ends up inside a block. After any steps, in any order and with any
arguments, the methods of the unit hold no delegating call, neither does any `try`, and in a
constructor such a call has nothing but comments in front of it. -/
theorem Step.callsLead_runAll (steps : List Step) : (Step.runAll steps).CallsLead := by
  have empty : CompUnit.CallsLead {} := nofun
  exact List.foldlRecOn steps _ empty fun unit lead step _ => step.callsLead_run lead

end Rethrow
