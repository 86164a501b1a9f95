import Rethrow.Proofs.Java.Calls
import Rethrow.Proofs.Reading.Containers

/-!
# Delegating calls of a unit

A delegating call has to stay the first statement of its constructor. `CompUnit.CallsLead` says
so of a whole unit: methods hold no such call at any depth, and a statement of a constructor
that holds one is the call itself, with nothing but comments in front of it.

Units that are read have this from the grammar (`CompUnit.callsLead_read?`).
-/

namespace Rethrow

/-! ## Calls at any depth -/

mutual

/-- The delegating calls in a statement, at any depth. -/
def Stmt.calls : Stmt → List Text
  | .comment _ => []
  | .delegate text => [text]
  | .verbatim _ => []
  | .throw _ => []
  | .guarded body catches finish =>
    Stmt.callsOf body ++ Catch.callsOf catches ++ Stmt.finishCalls finish

/-- The delegating calls in some statements. -/
def Stmt.callsOf : List Stmt → List Text
  | [] => []
  | s :: rest => s.calls ++ Stmt.callsOf rest

/-- The delegating calls in a finally block. -/
def Stmt.finishCalls : Option (List Stmt) → List Text
  | none => []
  | some body => Stmt.callsOf body

/-- The delegating calls in catch clauses. -/
def Catch.callsOf : List Catch → List Text
  | [] => []
  | .clause _ _ body :: rest => Stmt.callsOf body ++ Catch.callsOf rest

end

theorem Stmt.callsOf_eq_nil {body : List Stmt} :
    Stmt.callsOf body = [] ↔ ∀ s ∈ body, s.calls = [] := by
  induction body with
  | nil => simp [Stmt.callsOf]
  | cons s rest ih => simp [Stmt.callsOf, ih]

/-- In the body of a constructor: a statement with a delegating call in it is that call, and only
comments stand in front of it. -/
def Stmt.CallsLead (body : List Stmt) : Prop :=
  ∀ before s after, body = before ++ s :: after → s.calls ≠ [] →
    s.isDelegate = true ∧ ∀ c ∈ before, c.isComment = true

/-- Delegating calls in a member: none in a method, and in a constructor at its head only. -/
def Member.CallsLead : Member → Prop
  | .procedure p => Stmt.callsOf (p.body.getD []) = []
  | .constructor c => Stmt.CallsLead c.body
  | .field _ => True
  | .nested _ _ => True
  | .other _ => True

/-- A type whose delegating calls stand at the heads of its constructors. -/
def TypeDecl.CallsLead (decl : TypeDecl) : Prop :=
  ∀ m ∈ decl.members, m.CallsLead

/-- A unit whose delegating calls stand at the heads of constructors. -/
def CompUnit.CallsLead (unit : CompUnit) : Prop :=
  ∀ decl ∈ unit.types, decl.CallsLead

/-! ## Bodies of constructors -/

theorem Stmt.callsLead_of_callsOf {body : List Stmt} (none : Stmt.callsOf body = []) :
    Stmt.CallsLead body := by
  intro before s after split holds
  refine absurd (Stmt.callsOf_eq_nil.mp none s ?_) holds
  rw [split]
  exact List.mem_append_right _ List.mem_cons_self

theorem Stmt.callsLead_comment {body : List Stmt} (text : Text) (lead : Stmt.CallsLead body) :
    Stmt.CallsLead (.comment text :: body) := by
  intro before s after split holds
  cases before with
  | nil =>
      cases split
      exact absurd rfl holds
  | cons first before =>
      cases split
      obtain ⟨isCall, comments⟩ := lead before s after rfl holds
      exact ⟨isCall, List.forall_mem_cons.mpr ⟨rfl, comments⟩⟩

theorem Stmt.callsLead_cons {first : Stmt} {rest : List Stmt}
    (head : first.calls ≠ [] → first.isDelegate = true) (none : Stmt.callsOf rest = []) :
    Stmt.CallsLead (first :: rest) := by
  intro before s after split holds
  cases before with
  | nil =>
      cases split
      exact ⟨head holds, nofun⟩
  | cons other before =>
      cases split
      refine absurd (Stmt.callsOf_eq_nil.mp none s ?_) holds
      exact List.mem_append_right _ List.mem_cons_self

/-- A body whose first effective statement is no delegating call holds none at all. -/
theorem Stmt.CallsLead.callsOf_eq_nil {body rest : List Stmt} {first : Stmt}
    (lead : Stmt.CallsLead body) (dropped : body.dropWhile Stmt.isComment = first :: rest)
    (other : first.isDelegate = false) : Stmt.callsOf body = [] := by
  rw [Stmt.callsOf_eq_nil]
  intro s among
  refine Decidable.byContradiction fun holds => ?_
  obtain ⟨before, after, rfl⟩ := List.append_of_mem among
  obtain ⟨isCall, comments⟩ := lead before s after rfl holds
  have shown : s.isComment = false := by cases s <;> simp_all [Stmt.isDelegate, Stmt.isComment]
  rw [List.dropWhile_append_of_pos comments,
    List.dropWhile_cons_of_neg (by simp [shown])] at dropped
  cases dropped
  rw [isCall] at other
  cases other

/-! ## Reading -/

namespace Reading

open Java

variable {source : Text}

/-- Nodes that are placed, none of which is of a given kind. -/
def Without (rule : Rule) (nodes : List Node) : Prop :=
  ∀ n ∈ nodes, Placed n ∧ n.kind ≠ .rule rule

theorem Without.tail {rule : Rule} {n : Node} {rest : List Node}
    (nodes : Without rule (n :: rest)) : Without rule rest :=
  fun m among => nodes m (List.mem_cons_of_mem _ among)

/-- What is no constructor body has no call among its children. -/
theorem without_calls {n : Node} (placed : Placed n) (other : n.kind ≠ .rule .constructorBody) :
    Without .explicitConstructorCall n.children :=
  fun c among => ⟨placed.inner c among, fun made => other (placed.here.call c among made)⟩

/-- What is no constructor declaration has no constructor body among its children. -/
theorem without_bodies {n : Node} (placed : Placed n)
    (other : n.kind ≠ .rule .constructorDeclaration) : Without .constructorBody n.children :=
  fun c among => ⟨placed.inner c among, fun made => other (placed.here.body c among made)⟩

/-- The delegating calls in the parts of a `try`. -/
def TryParts.calls (parts : TryParts) : List Text :=
  Stmt.callsOf (parts.body.getD []) ++ Catch.callsOf parts.catches ++ Stmt.finishCalls parts.finish

mutual

/-- A node that is no call itself has none in its statement: it takes a `try` apart into bodies
that are no constructor bodies. -/
theorem calls_stmt : ∀ n : Node, Placed n → n.kind ≠ .rule .explicitConstructorCall →
    (stmt source n).calls = []
  | .node kind field start stop children, placed, other => by
      unfold stmt
      dsimp only
      split
      · rfl
      · exact absurd rfl other
      · split <;> rfl
      · split
        · rename_i body catches finish read
          have bodies := without_bodies placed (by simp [Node.kind])
          have none := calls_tryParts children _ bodies read
          simpa [TryParts.calls, Stmt.calls] using none
        · rfl
      · rfl

theorem calls_stmts : ∀ nodes : List Node, Without .explicitConstructorCall nodes →
    Stmt.callsOf (stmts source nodes) = []
  | [], _ => rfl
  | n :: rest, nodes => by
      have below := calls_stmts rest nodes.tail
      obtain ⟨placed, other⟩ := nodes n List.mem_cons_self
      rw [stmts]
      split
      · rw [Stmt.callsOf, calls_stmt n placed other, below, List.append_nil]
      · exact below

theorem calls_tryParts : ∀ (nodes : List Node) (parts : TryParts), Without .constructorBody nodes →
    tryParts? source nodes = some parts → parts.calls = []
  | [], parts, _, read => by
      cases read
      rfl
  | .node kind field start stop children :: rest, parts, nodes, read => by
      obtain ⟨placed, other⟩ := nodes _ List.mem_cons_self
      rw [tryParts?] at read
      split at read
      · exact calls_tryParts rest parts nodes.tail read
      · split at read
        · cases read
        · rename_i below readRest
          have inner := calls_tryParts rest below nodes.tail readRest
          simp only [TryParts.calls, List.append_eq_nil_iff] at inner ⊢
          obtain ⟨⟨noBody, noCatch⟩, noFinish⟩ := inner
          split at read
          · cases read
            exact ⟨⟨calls_stmts children (without_calls placed other), noCatch⟩, noFinish⟩
          · split at read
            · rename_i made
              split at read
              · rename_i types binder body readHeader readBody
                cases read
                have bodies := without_bodies placed (by simp [Node.kind, made])
                have none := calls_bodyOf children body bodies readBody
                exact ⟨⟨noBody, by rw [Catch.callsOf, none, noCatch, List.append_nil]⟩, noFinish⟩
              · cases read
            · split at read
              · rename_i made
                split at read
                · rename_i body readBlock
                  cases read
                  have bodies := without_bodies placed (by simp [Node.kind, made])
                  exact ⟨⟨noBody, noCatch⟩, calls_blockOf children body bodies readBlock⟩
                · cases read
              · cases read

theorem calls_bodyOf : ∀ (nodes : List Node) (body : List Stmt), Without .constructorBody nodes →
    bodyOf? source nodes = some body → Stmt.callsOf body = []
  | [], body, _, read => by simp [bodyOf?] at read
  | .node kind field start stop children :: rest, body, nodes, read => by
      obtain ⟨placed, other⟩ := nodes _ List.mem_cons_self
      rw [bodyOf?] at read
      split at read
      · cases read
        exact calls_stmts children (without_calls placed other)
      · exact calls_bodyOf rest body nodes.tail read

theorem calls_blockOf : ∀ (nodes : List Node) (body : List Stmt), Without .constructorBody nodes →
    blockOf? source nodes = some body → Stmt.callsOf body = []
  | [], body, _, read => by simp [blockOf?] at read
  | .node kind field start stop children :: rest, body, nodes, read => by
      obtain ⟨placed, other⟩ := nodes _ List.mem_cons_self
      rw [blockOf?] at read
      split at read
      · cases read
        exact calls_stmts children (without_calls placed other)
      · exact calls_blockOf rest body nodes.tail read

end

/-- The statement of a call is the call, and every other node has no call in its statement. -/
theorem delegate_of_calls {n : Node} (placed : Placed n) (holds : (stmt source n).calls ≠ []) :
    (stmt source n).isDelegate = true := by
  by_cases call : n.kind = .rule .explicitConstructorCall
  · obtain ⟨kind, field, start, stop, children⟩ := n
    cases call
    rfl
  · exact absurd (calls_stmt n placed call) holds

/-- The statements of a body in which nothing but comments stands in front of a call. -/
theorem callsLead_stmts {nodes : List Node} (placed : ∀ n ∈ nodes, Placed n)
    (first : CallFirst nodes) : Stmt.CallsLead (stmts source nodes) := by
  induction nodes with
  | nil => exact Stmt.callsLead_of_callsOf rfl
  | cons n rest ih =>
      rw [List.forall_mem_cons] at placed
      rw [CallFirst] at first
      rw [stmts]
      by_cases named : n.isNamed = true
      · rw [if_pos named]
        cases comment : n.isComment with
        | true =>
            rw [if_neg (by simp [comment])] at first
            obtain ⟨kind, field, start, stop, children⟩ := n
            cases kind with
            | comment kind => exact Stmt.callsLead_comment _ (ih placed.2 first)
            | _ => simp [Node.isComment, Node.kind] at comment
        | false =>
            rw [if_pos (by simp [named, comment])] at first
            exact Stmt.callsLead_cons (delegate_of_calls placed.1)
              (calls_stmts rest fun c among => ⟨placed.2 c among, first c among⟩)
      · rw [if_neg named]
        rw [if_neg (by simp [named])] at first
        exact ih placed.2 first

/-- The body of a constructor, be it a constructor body or a block. -/
theorem callsLead_body {body : Node} (placed : Placed body) :
    Stmt.CallsLead (stmts source body.children) := by
  by_cases isBody : body.kind = .rule .constructorBody
  · exact callsLead_stmts placed.inner (placed.here.first isBody)
  · exact Stmt.callsLead_of_callsOf (calls_stmts _ (without_calls placed isBody))

theorem callsLead_procedure {n : Node} (placed : Placed n)
    (made : n.isRule .methodDeclaration = true) (doc : Option Text) :
    (procedure source doc n).CallsLead := by
  unfold procedure
  split
  · dsimp only [Member.CallsLead]
    cases found : n.child? .body with
    | none => rfl
    | some body =>
        have kind : n.kind = .rule .methodDeclaration := by simpa [Node.isRule] using made
        have bodies := without_bodies placed (by simp [kind])
        obtain ⟨inner, other⟩ := bodies body (List.mem_of_find?_eq_some found)
        exact calls_stmts _ (without_calls inner other)
  · trivial

theorem callsLead_constructor {n : Node} (placed : Placed n) (doc : Option Text) :
    (constructor source doc n).CallsLead := by
  unfold constructor
  dsimp only
  split
  · rename_i name body _ found
    split
    · exact callsLead_body (placed.inner body (List.mem_of_find?_eq_some found))
    · trivial
  · trivial

theorem callsLead_member {n : Node} (placed : Placed n) (pending : Option Node) :
    (member source (.child pending n)).CallsLead := by
  unfold member
  dsimp only
  split
  · rename_i made
    exact callsLead_procedure placed made _
  · split
    · exact callsLead_constructor placed _
    · split
      · trivial
      · split <;> trivial

theorem callsLead_members {container : Node} (placed : Placed container) :
    ∀ m ∈ members source container, m.CallsLead := by
  intro m listed
  obtain ⟨entry, among, rfl⟩ := List.mem_map.mp listed
  cases entry with
  | loose doc => trivial
  | child pending n =>
      have named := List.mem_filter.mp (child_of_documented among)
      exact callsLead_member (placed.inner n named.1) pending

theorem callsLead_typeDecl {n : Node} (placed : Placed n) (doc : Option Text) :
    (typeDecl source doc n).CallsLead := by
  intro m listed
  unfold typeDecl at listed
  dsimp only at listed
  cases found : n.child? .body with
  | none => simp [found] at listed
  | some body =>
      rw [found] at listed
      have inner := placed.inner body (List.mem_of_find?_eq_some found)
      change m ∈ bodyMembers source body at listed
      unfold bodyMembers at listed
      split at listed
      · split at listed
        · rename_i declarations among
          exact callsLead_members (inner.inner declarations (List.mem_of_find?_eq_some among)) m
            listed
        · cases listed
      · exact callsLead_members inner m listed

theorem callsLead_unit {root : Node} (placed : Placed root) : (unit source root).CallsLead := by
  intro decl listed
  obtain ⟨entry, among, read⟩ := List.mem_map.mp ((CompUnit.mem_types _ decl).mp listed)
  cases entry with
  | loose doc => cases read
  | child pending n =>
      unfold item at read
      dsimp only at read
      split at read
      · cases read
        have named := List.mem_filter.mp (child_of_documented among)
        exact callsLead_typeDecl (placed.inner n named.1) _
      · split at read
        · cases read
        · split at read
          · cases read
          · split at read <;> cases read

end Reading

/-- Every unit that is read has its delegating calls at the heads of its constructors. -/
theorem CompUnit.callsLead_read? {source : Text} {unit : CompUnit}
    (read : CompUnit.read? source = some unit) : unit.CallsLead := by
  obtain ⟨root, tree, rfl⟩ := Option.map_eq_some_iff.mp read
  exact Reading.callsLead_unit (Java.placed_of_readTree? tree)

end Rethrow
