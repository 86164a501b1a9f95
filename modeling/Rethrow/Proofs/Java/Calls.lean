import Rethrow.Proofs.Java.Trail

/-!
# Where constructors call each other

The grammar has the call of another constructor in one place only: right behind the opening
brace of a constructor body, which in turn only a constructor declaration has. `Placed` says so
of every node of a tree, and `placed_of_readTree?` of every tree that is read.

Comments may stand in front of the call, since they are put into the tree at the end.
-/

namespace Rethrow.Grammar.Pattern

theorem leaf_of_next {α : Type} {p : Pattern α} {place : Place α} (listed : place ∈ p.places)
    {value : α} {next : Nat} (step : (value, next) ∈ place.next) : value ∈ p.leaves := by
  -- Whatever the targets are, a step to one of them goes over the leaf of that number.
  have among : ∀ targets : List Nat,
      (value, next) ∈ (targets.eraseDups.filterMap fun i => p.leaves[i]?.map fun v => (v, i + 1)) →
        value ∈ p.leaves := by
    intro targets found
    obtain ⟨i, -, leaf⟩ := List.mem_filterMap.mp found
    obtain ⟨v, here, same⟩ := Option.map_eq_some_iff.mp leaf
    cases same
    exact List.mem_of_getElem? here
  unfold places at listed
  rcases List.mem_cons.mp listed with rfl | later
  · exact among _ step
  · obtain ⟨i, -, rfl⟩ := List.mem_map.mp later
    exact among _ step

end Rethrow.Grammar.Pattern

namespace Rethrow.Java

/-! ## Edges and leaves -/

theorem Rule.ctorIdx_le (rule : Rule) : rule.ctorIdx ≤ Rule.compactConstructor.ctorIdx := by
  cases rule <;> decide

/-- The table of places holds the places of each rule. -/
theorem Rule.spot_eq (rule : Rule) (place : Nat) :
    rule.spot place = rule.spots.getD place { edges := [], final := false } := by
  have bound := Nat.lt_succ_of_le rule.ctorIdx_le
  have found : spotTable.getD rule.ctorIdx #[] = rule.spots := by
    simp [spotTable, Rule.all, bound, Rule.ofNat_ctorIdx]
  rw [Rule.spot, found]

/-- Every edge of a rule goes over one of the leaves of its pattern. -/
theorem Rule.leaf_of_edge {rule : Rule} {place : Nat} {edge : Edge}
    (leaves : edge ∈ (rule.spot place).edges) :
    ∃ leaf ∈ rule.body.leaves, edge.goal = leaf.symbol.goal := by
  rw [Rule.spot_eq, Rule.spots] at leaves
  by_cases inside : place < rule.body.places.length
  · rw [Array.getD_eq_getD_getElem?] at leaves
    simp only [List.getElem?_toArray, List.getElem?_map, List.getElem?_eq_getElem inside,
      Option.map_some, Option.getD_some, List.mem_map] at leaves
    obtain ⟨⟨leaf, next⟩, step, rfl⟩ := leaves
    exact ⟨leaf, Grammar.Pattern.leaf_of_next (List.getElem_mem inside) step, rfl⟩
  · rw [Array.getD_eq_getD_getElem?] at leaves
    simp [List.getElem?_eq_none (Nat.le_of_not_lt inside)] at leaves

/-- Whether a rule has another as a leaf. -/
def Rule.mentions (rule other : Rule) : Bool :=
  rule.body.leaves.any fun leaf => leaf.symbol = .rule other

theorem Rule.mentions_of_edge {rule inner : Rule} {place : Nat} {edge : Edge}
    (leaves : edge ∈ (rule.spot place).edges) (goal : edge.goal = .rule inner) :
    rule.mentions inner = true := by
  obtain ⟨⟨symbol, field⟩, among, same⟩ := Rule.leaf_of_edge leaves
  rw [Rule.mentions, List.any_eq_true]
  refine ⟨_, among, ?_⟩
  cases symbol with
  | token terminal => simp [Symbol.goal, goal] at same
  | rule r => simpa [Symbol.goal, goal] using same.symm

theorem Rule.mentions_call {rule : Rule} (leaf : rule.mentions .explicitConstructorCall = true) :
    rule = .constructorBody := by
  cases rule <;> first | rfl | exact absurd leaf (by decide)

theorem Rule.mentions_body {rule : Rule} (leaf : rule.mentions .constructorBody = true) :
    rule = .constructorDeclaration := by
  cases rule <;> first | rfl | exact absurd leaf (by decide)

/-! ## The one who has a child -/

theorem Node.kind_inPart (part : Option Field) (n : Node) : (n.inPart part).kind = n.kind := by
  cases n
  rfl

theorem Column.kind_lexemeNode_ne (kind : Option Terminal) (field : Option Field) (start stop : Nat)
    (rule : Rule) : (Column.lexemeNode kind field start stop).kind ≠ .rule rule := by
  unfold Column.lexemeNode
  dsimp only [Node.kind]
  split <;> simp

/-- If one rule alone mentions `target`, and that rule is not hidden, then no other rule has a
child made by `target`: what a hidden rule hands on are its own children. -/
theorem Trail.owner_of_child {owner target : Rule} (visible : owner.isHidden = false)
    (only : ∀ rule : Rule, rule.mentions target = true → rule = owner) {rule : Rule} {place : Nat}
    {children : List Node} (trail : Trail rule place children) :
    ∀ c ∈ children, c.kind = .rule target → rule = owner := by
  induction trail with
  | start rule => simp
  | lexeme before leaves goal start stop ih =>
      intro c among made
      rcases List.mem_append.mp among with old | new
      · exact ih c old made
      · rw [List.mem_singleton.mp new] at made
        exact absurd made (Column.kind_lexemeNode_ne _ _ _ _ _)
  | @cross rule inner place last children nodes edge before leaves goal across ends ihBefore ihIn =>
      intro c among made
      rcases List.mem_append.mp among with old | new
      · exact ihBefore c old made
      · unfold Rule.standIn at new
        split at new
        · rename_i handsOn
          obtain ⟨n, listed, rfl⟩ := List.mem_map.mp new
          rw [Node.kind_inPart] at made
          rw [ihIn n listed made, visible] at handsOn
          cases handsOn
        · rw [List.mem_singleton.mp new] at made
          cases made
          exact only rule (Rule.mentions_of_edge leaves goal)

theorem Trail.body_of_call {rule : Rule} {place : Nat} {children : List Node}
    (trail : Trail rule place children) :
    ∀ c ∈ children, c.kind = .rule .explicitConstructorCall → rule = .constructorBody :=
  trail.owner_of_child rfl fun _ => Rule.mentions_call

theorem Trail.declaration_of_body {rule : Rule} {place : Nat} {children : List Node}
    (trail : Trail rule place children) :
    ∀ c ∈ children, c.kind = .rule .constructorBody → rule = .constructorDeclaration :=
  trail.owner_of_child rfl fun _ => Rule.mentions_body

/-! ## The head of a constructor body -/

/-- No call stands behind a node that is more than a token or a comment. -/
def CallFirst : List Node → Prop
  | [] => True
  | n :: rest =>
    if n.isNamed && !n.isComment then ∀ c ∈ rest, c.kind ≠ .rule .explicitConstructorCall
    else CallFirst rest

theorem callFirst_append {front back : List Node} (first : CallFirst front)
    (none : ∀ c ∈ back, c.kind ≠ .rule .explicitConstructorCall) : CallFirst (front ++ back) := by
  induction front with
  | nil =>
      induction back with
      | nil => trivial
      | cons n rest ih =>
          rw [List.forall_mem_cons] at none
          rw [List.nil_append, CallFirst]
          split
          · exact none.2
          · exact ih none.2
  | cons n rest ih =>
      rw [List.cons_append, CallFirst]
      rw [CallFirst] at first
      split
      · rename_i shown
        rw [if_pos shown] at first
        exact List.forall_mem_append.mpr ⟨first, none⟩
      · rename_i idle
        rw [if_neg idle] at first
        exact ih first

theorem callFirst_tokens {tokens : List Node} (idle : ∀ c ∈ tokens, c.kind = .token) (n : Node) :
    CallFirst (tokens ++ [n]) := by
  induction tokens with
  | nil =>
      rw [List.nil_append, CallFirst]
      split
      · simp
      · trivial
  | cons t rest ih =>
      rw [List.forall_mem_cons] at idle
      rw [List.cons_append, CallFirst, if_neg (by simp [Node.isNamed, idle.1])]
      exact ih idle.2

/-- The places of a constructor body: the edge over a call leaves the place behind the opening
brace. -/
theorem Rule.edges_constructorBody (place : Nat) :
    ∀ edge ∈ (Rule.constructorBody.spot place).edges,
      (edge.goal = .rule .explicitConstructorCall → place = 1) ∧ edge.next ≠ 0 ∧
        (edge.next = 1 →
          place = 0 ∧ edge.goal = .token (Terminal.sign "\x7b".toList).code none) := by
  rw [Rule.spot_eq]
  match place with
  | 0 => decide
  | 1 => decide
  | 2 => decide
  | 3 => decide
  | 4 => decide
  | n + 5 =>
      have size : Rule.constructorBody.spots.size = 5 := by decide
      have beyond : Rule.constructorBody.spots[n + 5]? = none :=
        Array.getElem?_eq_none (by omega)
      simp [Array.getD_eq_getD_getElem?, beyond]

/-- What the children of a constructor body are like on the way: none at the start, and behind
the brace the brace alone. -/
theorem Trail.callFirst {rule : Rule} {place : Nat} {children : List Node}
    (trail : Trail rule place children) (isBody : rule = .constructorBody) :
    CallFirst children ∧ (place = 0 → children = []) ∧
      (place = 1 → ∀ c ∈ children, c.kind = .token) := by
  induction trail with
  | start rule => exact ⟨trivial, fun _ => rfl, nofun⟩
  | @lexeme rule place children edge code kind before leaves goal start stop ih =>
      subst isBody
      obtain ⟨-, moves, opens⟩ := Rule.edges_constructorBody place edge leaves
      obtain ⟨first, atStart, -⟩ := ih rfl
      refine ⟨callFirst_append first ?_, fun next => absurd next moves, fun next => ?_⟩
      · intro c among
        rw [List.mem_singleton.mp among]
        exact Column.kind_lexemeNode_ne _ _ _ _ _
      · obtain ⟨here, brace⟩ := opens next
        rw [goal] at brace
        cases brace
        rw [atStart here]
        simp [Column.lexemeNode, Node.kind]
  | @cross rule inner place last children nodes edge before leaves goal across ends ihBefore _ =>
      subst isBody
      obtain ⟨behindBrace, moves, opens⟩ := Rule.edges_constructorBody place edge leaves
      obtain ⟨first, -, braced⟩ := ihBefore rfl
      refine ⟨?_, fun next => absurd next moves, fun next => ?_⟩
      · by_cases call : inner = .explicitConstructorCall
        · subst call
          exact callFirst_tokens (braced (behindBrace goal)) _
        · refine callFirst_append first fun c among made => ?_
          unfold Rule.standIn at among
          split at among
          · rename_i handsOn
            obtain ⟨n, listed, rfl⟩ := List.mem_map.mp among
            rw [Node.kind_inPart] at made
            rw [across.body_of_call n listed made] at handsOn
            cases handsOn
          · rw [List.mem_singleton.mp among] at made
            exact call (Kind.rule.inj made)
      · exact absurd ((opens next).2.symm.trans goal) (by simp)

/-! ## Every node of a tree -/

/-- The children of a node of some kind, as far as calls of constructors go. -/
structure CallsPlaced (kind : Kind) (children : List Node) : Prop where
  body : ∀ c ∈ children, c.kind = .rule .constructorBody → kind = .rule .constructorDeclaration
  call : ∀ c ∈ children, c.kind = .rule .explicitConstructorCall → kind = .rule .constructorBody
  first : kind = .rule .constructorBody → CallFirst children

/-- A node below which every call of a constructor stands at the head of a constructor body, and
every constructor body in a constructor declaration. -/
inductive Placed : Node → Prop where
  | node {kind : Kind} {field : Option Field} {start stop : Nat} {children : List Node}
      (here : CallsPlaced kind children) (below : ∀ c ∈ children, Placed c) :
      Placed (.node kind field start stop children)

theorem Placed.here {n : Node} (placed : Placed n) : CallsPlaced n.kind n.children := by
  cases placed
  assumption

theorem Placed.inner {n : Node} (placed : Placed n) : ∀ c ∈ n.children, Placed c := by
  cases placed
  assumption

theorem placed_leaf (kind : Kind) (field : Option Field) (start stop : Nat) :
    Placed (.node kind field start stop []) :=
  .node ⟨nofun, nofun, fun _ => trivial⟩ nofun

theorem Placed.inPart {n : Node} (placed : Placed n) (part : Option Field) :
    Placed (n.inPart part) := by
  cases placed with
  | node here below => exact .node here below

theorem Trail.callsPlaced {rule : Rule} {place : Nat} {children : List Node}
    (trail : Trail rule place children) : CallsPlaced (.rule rule) children where
  body c among made := congrArg Kind.rule (trail.declaration_of_body c among made)
  call c among made := congrArg Kind.rule (trail.body_of_call c among made)
  first isBody := (trail.callFirst (Kind.rule.inj isBody)).1

/-- All that a trail goes over is placed. -/
theorem Trail.placed {rule : Rule} {place : Nat} {children : List Node}
    (trail : Trail rule place children) : ∀ c ∈ children, Placed c := by
  induction trail with
  | start rule => simp
  | lexeme before leaves goal start stop ih =>
      refine List.forall_mem_append.mpr ⟨ih, ?_⟩
      intro c among
      rw [List.mem_singleton.mp among]
      exact placed_leaf _ _ _ _
  | cross before leaves goal across ends ihBefore ihIn =>
      refine List.forall_mem_append.mpr ⟨ihBefore, ?_⟩
      intro c among
      unfold Rule.standIn at among
      split at among
      · obtain ⟨n, listed, rfl⟩ := List.mem_map.mp among
        exact (ihIn n listed).inPart _
      · rw [List.mem_singleton.mp among]
        exact .node across.callsPlaced ihIn

/-! ## Comments -/

theorem Node.kind_insert (comment n : Node) : (Node.insert comment n).kind = n.kind := by
  cases n
  rw [Node.insert]
  rfl

/-- A node among which a comment was put is the comment, or of the kind of one that was there. -/
theorem Node.kind_of_insertAmong {comment c : Node} {nodes : List Node}
    (among : c ∈ Node.insertAmong comment nodes) : c = comment ∨ ∃ n ∈ nodes, c.kind = n.kind := by
  induction nodes with
  | nil => exact .inl (by simpa [Node.insertAmong] using among)
  | cons n rest ih =>
      rw [Node.insertAmong] at among
      split at among
      · rcases List.mem_cons.mp among with rfl | old
        · exact .inl rfl
        · exact .inr ⟨c, old, rfl⟩
      · split at among
        · rcases List.mem_cons.mp among with rfl | old
          · exact .inr ⟨n, List.mem_cons_self, Node.kind_insert comment n⟩
          · exact .inr ⟨c, List.mem_cons_of_mem _ old, rfl⟩
        · rcases List.mem_cons.mp among with rfl | later
          · exact .inr ⟨c, List.mem_cons_self, rfl⟩
          · rcases ih later with same | ⟨m, old, same⟩
            · exact .inl same
            · exact .inr ⟨m, List.mem_cons_of_mem _ old, same⟩

theorem callFirst_insertAmong {comment : Node} (isComment : comment.isComment = true)
    {nodes : List Node} (first : CallFirst nodes) : CallFirst (Node.insertAmong comment nodes) := by
  have plain : comment.kind ≠ .rule .explicitConstructorCall := by
    intro made
    simp [Node.isComment, made] at isComment
  induction nodes with
  | nil =>
      rw [Node.insertAmong, CallFirst, if_neg (by simp [isComment])]
      trivial
  | cons n rest ih =>
      rw [Node.insertAmong]
      split
      · rw [CallFirst, if_neg (by simp [isComment])]
        exact first
      · rw [CallFirst] at first
        split
        · rw [CallFirst, Node.isNamed, Node.isComment, Node.kind_insert]
          exact first
        · rw [CallFirst]
          split
          · rename_i shown
            rw [if_pos shown] at first
            intro c among
            rcases Node.kind_of_insertAmong among with rfl | ⟨m, old, same⟩
            · exact plain
            · exact same ▸ first m old
          · rename_i idle
            rw [if_neg idle] at first
            exact ih first

theorem CallsPlaced.insertAmong {comment : Node} (isComment : comment.isComment = true)
    {kind : Kind} {children : List Node} (here : CallsPlaced kind children) :
    CallsPlaced kind (Node.insertAmong comment children) := by
  have plain : ∀ rule, comment.kind ≠ .rule rule := by
    intro rule made
    simp [Node.isComment, made] at isComment
  refine ⟨fun c among made => ?_, fun c among made => ?_, fun isBody =>
    callFirst_insertAmong isComment (here.first isBody)⟩
  · rcases Node.kind_of_insertAmong among with rfl | ⟨n, old, same⟩
    · exact absurd made (plain _)
    · exact here.body n old (same ▸ made)
  · rcases Node.kind_of_insertAmong among with rfl | ⟨n, old, same⟩
    · exact absurd made (plain _)
    · exact here.call n old (same ▸ made)

mutual

theorem placed_insert {comment : Node} (isComment : comment.isComment = true)
    (leaf : Placed comment) : ∀ n : Node, Placed n → Placed (Node.insert comment n)
  | .node kind field start stop children, placed => by
      rw [Node.insert]
      exact .node (placed.here.insertAmong isComment)
        (placed_insertAmong isComment leaf children placed.inner)

theorem placed_insertAmong {comment : Node} (isComment : comment.isComment = true)
    (leaf : Placed comment) : ∀ nodes : List Node, (∀ c ∈ nodes, Placed c) →
      ∀ c ∈ Node.insertAmong comment nodes, Placed c
  | [], _ => by simpa [Node.insertAmong] using leaf
  | n :: rest, placed => by
      rw [List.forall_mem_cons] at placed
      rw [Node.insertAmong]
      split
      · exact List.forall_mem_cons.mpr ⟨leaf, List.forall_mem_cons.mpr placed⟩
      · split
        · exact List.forall_mem_cons.mpr ⟨placed_insert isComment leaf n placed.1, placed.2⟩
        · exact List.forall_mem_cons.mpr
            ⟨placed.1, placed_insertAmong isComment leaf rest placed.2⟩

end

theorem Node.comment_of_commentsBetween {lexemes : List (Nat × Nat)} {offset : Nat} {rest : Text}
    {n : Node} (among : n ∈ Node.commentsBetween offset rest lexemes) :
    ∃ kind start stop, n = .node (.comment kind) none start stop [] := by
  have made : ∀ comments, n ∈ Node.commentsBetween.nodesOf comments →
      ∃ kind start stop, n = .node (.comment kind) none start stop [] := by
    intro comments found
    obtain ⟨⟨kind, start, stop⟩, -, rfl⟩ := List.mem_map.mp found
    exact ⟨kind, start, stop, rfl⟩
  induction lexemes generalizing offset rest with
  | nil => exact made _ among
  | cons lexeme more ih =>
      rcases List.mem_append.mp among with here | later
      · exact made _ here
      · exact ih later

theorem Placed.withComments {root : Node} (placed : Placed root) (source : Text) :
    Placed (root.withComments source) := by
  unfold Node.withComments
  refine List.foldlRecOn _ _ placed fun tree placedTree comment among => ?_
  obtain ⟨kind, start, stop, rfl⟩ := Node.comment_of_commentsBetween among
  exact placed_insert rfl (placed_leaf _ _ _ _) tree placedTree

/-- In every tree that is read, constructors are called at the head of constructor bodies
only. -/
theorem placed_of_readTree? {source : Text} {root : Node} (read : readTree? source = some root) :
    Placed root := by
  obtain ⟨bare, ⟨place, children, trail, -, rfl⟩, rfl⟩ := grown_of_readTree? read
  exact Placed.withComments (.node trail.callsPlaced trail.placed) source

end Rethrow.Java
