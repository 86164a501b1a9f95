import Rethrow.Proofs.Reading.Statements

/-!
# The comments of declarations

What a declaration has in front of its name is its modifiers and the comments behind them,
which are passed over, and then a text that is kept. Behind the name of a method or
constructor only the parameters, dimensions, declared failures and the body are looked for:
comments between them are lost, and so are those among the declared failures.

A documentation comment that is the first named child of a declaration is taken for its
documentation if there is none in front of the declaration, and kept where it stands too:
`Entry.echo`.
-/

namespace Rethrow.Reading

open Java Lexical

variable {source : Text}

/-! ## Heads -/

/-- The modifiers and comments that a declaration starts with. -/
def lead (n : Node) : List Node :=
  n.children.takeWhile fun c => c.isRule .modifiers || c.isComment

/-- The comments that a declaration loses in front of its keyword or type. -/
def strayInLead (n : Node) : List Node :=
  (lead n).flatMap fun c => if c.isComment then [c] else c.children.filter Node.isComment

theorem plain_of_isName {n : Node} (name : isName n = true) :
    n.isComment = false ∧ n.isRule .modifiers = false := by
  obtain ⟨kind, field, start, stop, children⟩ := n
  cases kind <;> simp_all [isName, Node.isComment, Node.kind, Node.isRule]

/-- A declaration has its name behind its modifiers and the comments that follow them. -/
theorem Headed.split {n : Node} (headed : Headed n) :
    ∃ middle name, n.child? .name = some name ∧ name.field = some .name ∧ isName name = true ∧
      n.children = lead n ++ (middle ++ name :: behindName n) := by
  have some_ := headed.name
  cases found : n.child? .name with
  | none => simp [found] at some_
  | some name =>
      rw [found, Option.any_some] at some_
      obtain ⟨part, upper, lower, shape, others⟩ := List.find?_eq_some_iff_append.mp found
      have part' : name.field = some .name := by simpa using part
      obtain ⟨plain, noModifiers⟩ := plain_of_isName some_
      have behind : behindName n = lower := by
        rw [behindName, shape, List.dropWhile_append_of_pos (by simpa using others)]
        simp [part']
      have front : lead n = upper.takeWhile fun c => c.isRule .modifiers || c.isComment := by
        rw [lead, shape, List.takeWhile_append]
        split
        · rename_i all
          rw [List.takeWhile_cons_of_neg (by simp [plain, noModifiers]), List.append_nil]
          exact ((List.takeWhile_prefix _).eq_of_length all).symm
        · rfl
      refine ⟨upper.dropWhile fun c => c.isRule .modifiers || c.isComment, name, rfl, part', some_,
        ?_⟩
      rw [front, behind, ← List.append_assoc, List.takeWhile_append_dropWhile, shape]

/-- Annotations are kept with their comments; those between modifiers are lost. -/
theorem accounts_modifierNode {m : Node} (opened : Opened source m) :
    Accounts (Layout.modifierPieces
        { annotations := (m.namedChildren.filter fun c => !c.isComment).map (collapsed source)
          keywords := (m.children.filter fun c => !c.isNamed).map (textOf source) })
      (noted source m) ((m.children.filter Node.isComment).flatMap (noted source)) := by
  have annotations : Accounts
      ((m.namedChildren.filter fun c => !c.isComment).map fun c => Piece.free (collapsed source c))
      ((m.namedChildren.filter fun c => !c.isComment).flatMap (noted source)) [] :=
    Accounts.map fun c among =>
      (opened.children c (List.mem_filter.mp (List.mem_filter.mp among).1).1).accounts_free
  have keywords : Accounts
      ((m.children.filter fun c => !c.isNamed).map fun c => Piece.whole (textOf source c))
      ((m.children.filter fun c => !c.isNamed).flatMap (noted source)) [] := by
    refine Accounts.map fun c among => ?_
    obtain ⟨listed, token⟩ := List.mem_filter.mp among
    refine (opened.children c listed).accounts_text ?_
    have kind : c.kind = .token := by simpa [Node.isNamed] using token
    simp [Node.isComment, kind]
  rw [flatMap_noted_tokens (fun c among => opened.children c (List.mem_filter.mp among).1)
    (fun c among => by simpa using (List.mem_filter.mp among).2)] at keywords
  have same : (m.namedChildren.filter fun c => !c.isComment) = parts m.children := by
    simp [parts, Node.namedChildren, List.filter_filter, Bool.and_comm]
  have both := annotations.append keywords
  rw [Layout.modifierPieces, List.map_map, List.map_map]
  refine both.rebalance fun c => ?_
  rw [opened.noted_eq, count_parts opened.children, same]
  simp

theorem lead_of_plain {nodes : List Node} (none : ∀ c ∈ nodes, c.isRule .modifiers = false) :
    (nodes.takeWhile fun c => c.isRule .modifiers || c.isComment).flatMap
        (fun c => if c.isComment then [c] else c.children.filter Node.isComment) =
      nodes.takeWhile fun c => c.isRule .modifiers || c.isComment := by
  induction nodes with
  | nil => rfl
  | cons n rest ih =>
      rw [List.forall_mem_cons] at none
      rw [List.takeWhile_cons]
      split
      · rename_i taken
        have comment : n.isComment = true := by simpa [none.1] using taken
        rw [List.flatMap_cons, ih none.2, if_pos comment]
        rfl
      · rfl

/-- The modifiers of a declaration lose its comments in front of its keyword or type. -/
theorem accounts_modifiers {n : Node} (opened : Opened source n) (headed : Headed n) :
    Accounts (Layout.modifierPieces (modifiersOf source n)) ((lead n).flatMap (noted source))
      ((strayInLead n).flatMap (noted source)) := by
  have only := headed.modifiers
  have stand := opened.children
  unfold modifiersOf lead strayInLead lead Node.childOf?
  cases shape : n.children with
  | nil => exact Accounts.nil
  | cons first rest =>
      rw [shape, List.forall_mem_cons] at stand
      rw [shape, List.tail_cons] at only
      by_cases made : first.isRule .modifiers = true
      · have plain := plain_of_isRule made
        have here := accounts_modifierNode (stand.1.opened_rule made (by decide))
        rw [List.find?_cons_of_pos (by simpa using made),
          List.takeWhile_cons_of_pos (by simp [made]), List.flatMap_cons, List.flatMap_cons,
          lead_of_plain only, plain]
        exact here.rebalance fun c => by simp; omega
      · have none : ∀ c ∈ first :: rest, c.isRule .modifiers = false :=
          List.forall_mem_cons.mpr ⟨by simpa using made, only⟩
        rw [List.find?_eq_none.mpr (by simpa using none), lead_of_plain none]
        exact Accounts.nil.rebalance fun c => by simp

/-- Between its modifiers and its name, a declaration keeps all comments. -/
theorem accounts_head {n : Node} (stands : Stands source n) (opened : Opened source n)
    (headed : Headed n) :
    ∃ middle name, n.child? .name = some name ∧ name.field = some .name ∧
      n.children = lead n ++ (middle ++ name :: behindName n) ∧
      Accounts [Piece.free (between source (declarationStart n) name.start),
          Piece.whole (textOf source name)]
        ((middle ++ [name]).flatMap (noted source)) [] := by
  obtain ⟨middle, name, found, part, isName', shape⟩ := headed.split
  refine ⟨middle, name, found, part, shape, ?_⟩
  have tiled := opened.tiled
  rw [shape] at tiled
  obtain ⟨cut, below⟩ := tiled.behind stands.cutStart
  have kept := below.before.accounts_between cut
  have named := (opened.children name (List.mem_of_find?_eq_some found)).accounts_text
    (plain_of_isName isName').1
  rw [List.flatMap_append, List.flatMap_singleton]
  exact kept.append named

/-- What stands behind its name tells the comments of a declaration apart. -/
theorem count_declaration {n name : Node} {middle : List Node} (opened : Opened source n)
    (shape : n.children = lead n ++ (middle ++ name :: behindName n)) (c : Text) :
    (noted source n).count c =
      ((lead n).flatMap (noted source)).count c +
        ((middle ++ [name]).flatMap (noted source)).count c +
        ((parts (behindName n)).flatMap (noted source)).count c +
        (((behindName n).filter Node.isComment).flatMap (noted source)).count c := by
  have behind := count_parts (fun m (among : m ∈ behindName n) =>
    opened.children m (by rw [shape]; simp [among])) c
  rw [opened.noted_eq, shape]
  simp only [List.flatMap_append, List.flatMap_cons, List.flatMap_nil, List.append_nil,
    List.count_append]
  omega

/-! ## Methods and constructors -/

/-- The comments that a method or constructor loses. -/
def strayInMember (source : Text) (n : Node) : List Node :=
  strayInLead n ++ (behindName n).filter Node.isComment ++
    ((n.childOf? .throwsClause).toList.flatMap fun c => c.children.filter Node.isComment) ++
    ((n.child? .body).toList.flatMap fun b => strayInStmts source b.children)

theorem Opened.child {n part : Node} {field : Field} (opened : Opened source n)
    (found : n.child? field = some part) :
    Stands source part ∧ part.field = some field ∧ part.isComment = false := by
  have stands := opened.children part (List.mem_of_find?_eq_some found)
  have played : part.field = some field := by simpa using List.find?_some found
  exact ⟨stands, played, stands.plain_of_field played⟩

/-- A part that may be missing. -/
theorem accounts_optional {n : Node} (opened : Opened source n) (field : Field) :
    Accounts [Piece.whole (((n.child? field).map (collapsed source)).getD [])]
      ((n.child? field).toList.flatMap (noted source)) [] := by
  cases found : n.child? field with
  | none => exact Accounts.whole rfl
  | some part =>
      obtain ⟨stands, -, plain⟩ := opened.child found
      simpa using stands.accounts_collapsed plain

theorem accounts_throwsPieces {throws : List Text} {found lost : List Text}
    (listed : Accounts (Piece.separated "," (throws.map fun t => [Piece.whole t])) found lost) :
    Accounts (Layout.throwsPieces throws) found lost := by
  unfold Layout.throwsPieces
  split
  · rename_i empty
    rw [List.isEmpty_iff.mp empty] at listed
    exact listed
  · exact (Accounts.fixed "throws" (by decide)).append listed

/-- The declared failures are kept with their comments; those between them are lost. -/
theorem accounts_throws {n : Node} (opened : Opened source n) :
    Accounts (Layout.throwsPieces (throwsOf source n))
      ((n.childOf? .throwsClause).toList.flatMap (noted source))
      (((n.childOf? .throwsClause).toList.flatMap
        fun c => c.children.filter Node.isComment).flatMap (noted source)) := by
  unfold throwsOf
  cases found : n.childOf? .throwsClause with
  | none => exact Accounts.nil
  | some clause =>
      have made : clause.isRule .throwsClause = true := by simpa using List.find?_some found
      have inner := (opened.children clause (List.mem_of_find?_eq_some found)).opened_rule made
        (by decide)
      have same : (clause.namedChildren.filter fun c => !c.isComment) = parts clause.children := by
        simp [parts, Node.namedChildren, List.filter_filter, Bool.and_comm]
      have types := accounts_listed "," (by decide)
        (fun t (among : t ∈ clause.namedChildren.filter fun c => !c.isComment) =>
          inner.children t (List.mem_filter.mp (List.mem_filter.mp among).1).1)
        (fun t among => by simpa using (List.mem_filter.mp among).2)
      refine accounts_throwsPieces (types.rebalance fun c => ?_)
      simp only [Option.toList_some, List.flatMap_singleton, List.count_nil, Nat.add_zero]
      rw [inner.noted_eq, count_parts inner.children, same]

theorem accounts_block {body : List Stmt} {found lost : List Text}
    (inner : Accounts (Stmt.piecesOf body) found lost) :
    Accounts (Layout.blockPieces body) found lost := by
  have whole := ((Accounts.fixed "\x7b" (by decide)).append inner).append
    (Accounts.fixed "\x7d" (by decide))
  simpa [Layout.blockPieces] using whole

theorem head_collapsed {n : Node} {c : Char} (head : (textOf source n).head? = some c)
    (dark : Text.isBlank c = false) : (collapsed source n).head? = some c := by
  unfold collapsed
  cases shape : textOf source n with
  | nil => simp [shape] at head
  | cons d rest =>
      rw [shape, List.head?_cons, Option.some_inj] at head
      exact head ▸ head_collapse (head ▸ dark) rest

/-- The body of a method or constructor, which loses what its statements lose. -/
theorem accounts_bodyPieces {n block : Node} (opened : Opened source n)
    (found : n.child? .body = some block) :
    Accounts (Layout.blockPieces (stmts source block.children)) (noted source block)
      ((strayInStmts source block.children).flatMap (noted source)) := by
  obtain ⟨stands, part, -⟩ := opened.child found
  have inner := stands.opened_part (.inl part)
  rw [inner.noted_eq]
  exact accounts_block (accounts_stmts _ inner.children)

/-- A method keeps all comments but its stray ones, beside its documentation. -/
theorem accounts_procedure {n : Node} (stands : Stands source n)
    (made : n.isRule .methodDeclaration = true) {doc : Option Text} {docs : List Text}
    (documented : Accounts (Layout.docPieces doc) docs []) :
    Accounts (procedure source doc n).pieces (docs ++ noted source n)
      ((strayInMember source n).flatMap (noted source)) := by
  have opened := stands.opened_rule made (by decide)
  obtain ⟨headed, some_, shape⟩ := (stands.spec opened.plain).2.1.method made
  obtain ⟨parameters, listed⟩ := Option.isSome_iff_exists.mp some_
  obtain ⟨middle, name, found, -, split, head⟩ := accounts_head stands opened headed
  have count := count_declaration opened split
  have brackets := accounts_optional opened .parameters
  have signature := ((documented.append (accounts_modifiers opened headed)).append
    (head.append (brackets.append (accounts_optional opened .dimensions)))).append
    (accounts_throws opened)
  unfold procedure
  rw [found, listed]
  rw [listed] at signature shape
  unfold strayInMember
  cases block : n.child? .body with
  | none =>
      refine (signature.append (Accounts.fixed ";" (by decide))).rebalance fun c => ?_
      have balance := count c
      rw [shape, block] at balance
      simp only [List.flatMap_append, List.count_append, Option.toList_none, List.flatMap_nil,
        List.count_nil] at balance ⊢
      omega
  | some node =>
      refine (signature.append (accounts_bodyPieces opened block)).rebalance fun c => ?_
      have balance := count c
      rw [shape, block] at balance
      simp only [List.flatMap_append, List.count_append, Option.toList_some, List.flatMap_singleton,
        List.count_nil] at balance ⊢
      omega

/-- A constructor keeps all comments but its stray ones, beside its documentation. -/
theorem accounts_constructor {n : Node} (stands : Stands source n)
    (made : isConstructor n = true) {doc : Option Text} {docs : List Text}
    (documented : Accounts (Layout.docPieces doc) docs []) :
    Accounts (constructor source doc n).pieces (docs ++ noted source n)
      ((strayInMember source n).flatMap (noted source)) := by
  have opened : Opened source n := by
    rcases (Bool.or_eq_true _ _).mp made with plain | compact
    · exact stands.opened_rule plain (by decide)
    · exact stands.opened_rule compact (by decide)
  obtain ⟨headed, some_, complete, shape⟩ := (stands.spec opened.plain).2.1.constructor made
  obtain ⟨block, block'⟩ := Option.isSome_iff_exists.mp some_
  obtain ⟨middle, name, found, -, split, head⟩ := accounts_head stands opened headed
  have signature := ((documented.append (accounts_modifiers opened headed)).append
    (head.append (accounts_optional opened .parameters))).append (accounts_throws opened)
  unfold constructor strayInMember
  rw [found, block']
  rw [block'] at shape
  dsimp only
  rw [if_pos (by simpa using complete)]
  refine (signature.append (accounts_bodyPieces opened block')).rebalance fun c => ?_
  have balance := count_declaration opened split c
  rw [shape] at balance
  simp only [List.flatMap_append, List.count_append, Option.toList_some, List.flatMap_singleton,
    List.count_nil] at balance ⊢
  omega

theorem Opened.head_parameters {n part : Node} (opened : Opened source n)
    (found : n.child? .parameters = some part) : (collapsed source part).head? = some '(' := by
  obtain ⟨stands, played, plain⟩ := opened.child found
  exact head_collapsed ((stands.spec plain).2.2.2.1.parameters played) (by decide)

theorem Opened.head_dimensions {n part : Node} (opened : Opened source n)
    (found : n.child? .dimensions = some part) :
    (collapsed source part).head? = some '[' ∨ (collapsed source part).head? = some '@' := by
  obtain ⟨stands, played, plain⟩ := opened.child found
  exact ((stands.spec plain).2.2.2.1.dimensions played).imp
    (fun head => head_collapsed head (by decide)) (fun head => head_collapsed head (by decide))

/-- Parameters and dimensions start with their brackets. -/
theorem bracketed_procedure {n : Node} (opened : Opened source n) (doc : Option Text) :
    (procedure source doc n).Bracketed := by
  unfold procedure
  split
  · rename_i name parameters found listed
    refine ⟨opened.head_parameters listed, ?_⟩
    cases found' : n.child? .dimensions with
    | none => exact .inl rfl
    | some dimensions => exact .inr (opened.head_dimensions found')
  · trivial

theorem bracketed_constructor {n : Node} (opened : Opened source n) (doc : Option Text) :
    (constructor source doc n).Bracketed := by
  unfold constructor
  dsimp only
  split
  · split
    · intro text listed
      obtain ⟨parameters, found, rfl⟩ := Option.map_eq_some_iff.mp listed
      exact opened.head_parameters found
    · trivial
  · trivial

end Rethrow.Reading
