import Rethrow.Proofs.Reading.Ledger

/-!
# The comments of statements

A statement that is kept as text keeps its comments, and an expression is taken apart only
if no comment stands between its parts. A `try` that is taken apart loses the comments that
stand in a clause outside its block: `strayInStmt` lists them.
-/

namespace Rethrow.Reading

open Java Lexical

mutual

/-- The comments that the statement of a node loses. -/
def strayInStmt (source : Text) : Node → List Node
  | .node kind _ _ _ children =>
    if kind = .rule .tryStatement ∧ ((tryParts? source children).bind TryParts.body).isSome then
      strayInTry source children
    else []

/-- The comments that the statements of some nodes lose. -/
def strayInStmts (source : Text) : List Node → List Node
  | [] => []
  | n :: rest => strayInStmt source n ++ strayInStmts source rest

/-- The comments that a `try` loses, by its children. -/
def strayInTry (source : Text) : List Node → List Node
  | [] => []
  | .node kind field _ _ children :: rest =>
    (if field = some .body then strayInStmts source children
      else if kind = .rule .catchClause then
        children.filter Node.isComment ++ strayInBodyOf source children
      else if kind = .rule .finallyClause then
        children.filter Node.isComment ++ strayInBlockOf source children
      else []) ++ strayInTry source rest

/-- The comments that the child in the part `body` loses. -/
def strayInBodyOf (source : Text) : List Node → List Node
  | [] => []
  | .node _ field _ _ children :: rest =>
    if field = some .body then strayInStmts source children else strayInBodyOf source rest

/-- The comments that the first block among some nodes loses. -/
def strayInBlockOf (source : Text) : List Node → List Node
  | [] => []
  | .node kind _ _ _ children :: rest =>
    if kind = .rule .block then strayInStmts source children else strayInBlockOf source rest

end

variable {source : Text}

/-! ## Expressions -/

/-- Nodes that hold no comment may be left out. -/
theorem flatMap_filter_noted {nodes : List Node} {kept : Node → Bool}
    (silent : ∀ n ∈ nodes, kept n = false → noted source n = []) :
    nodes.flatMap (noted source) = (nodes.filter kept).flatMap (noted source) := by
  induction nodes with
  | nil => rfl
  | cons n rest ih =>
      rw [List.forall_mem_cons] at silent
      rw [List.flatMap_cons, List.filter_cons, ih silent.2]
      split
      · rw [List.flatMap_cons]
      · rename_i left
        rw [silent.1 (by simpa using left), List.nil_append]

/-- The named children of a node have its comments. -/
theorem Opened.noted_named {n : Node} (opened : Opened source n) :
    noted source n = n.namedChildren.flatMap (noted source) := by
  rw [opened.noted_eq]
  exact flatMap_filter_noted fun c among token => (opened.children c among).noted_token token

theorem accounts_simpleExpr {n : Node} {e : Expr} (stands : Stands source n)
    (read : simpleExpr? source n = some e) : Accounts e.pieces (noted source n) [] := by
  unfold simpleExpr? at read
  dsimp only at read
  split at read
  · rename_i literal
    simp only [Bool.and_eq_true, Bool.not_eq_true'] at literal
    have plain := plain_of_isRule literal.1
    have quoted := (stands.spec plain).2.2.2.1.quoted literal.1 literal.2
    cases read
    rw [Expr.pieces, quoted]
    exact stands.accounts_text plain
  · split at read
    · rename_i name
      have plain : n.isComment = false := by
        obtain ⟨kind, field, start, stop, children⟩ := n
        cases kind <;> simp_all [isName, Node.isComment, Node.kind, Node.isRule]
      cases read
      exact stands.accounts_text plain
    · split at read
      · simp at read
      · rename_i plain
        split at read
        · simp at read
        · cases read
          exact stands.accounts_text (by simpa using plain)

/-- A creation that is taken apart has its comments in its type and its arguments. -/
theorem accounts_creation {n : Node} {typeName : Text} (stands : Stands source n)
    (creation : n.isRule .objectCreation = true)
    (read : creationType? source n.children = some typeName) {list : Node}
    (listed : n.child? .arguments = some list) :
    Accounts [Piece.whole typeName] (noted source n) (noted source list) := by
  have opened := stands.opened_rule creation (by decide)
  unfold creationType? at read
  dsimp only at read
  split at read
  · rename_i named
    obtain ⟨typeNode, found, rfl⟩ := Option.map_eq_some_iff.mp read
    have shape := (stands.spec opened.plain).2.2.1.creation creation
    rw [show n.child? .type = some typeNode from found, listed] at shape
    have silent : ∀ c ∈ n.children,
        (c.field = some .type || c.field = some .arguments : Bool) = false →
          noted source c = [] := by
      intro c among neither
      refine (opened.children c among).noted_token ?_
      by_contra isNamed
      have part := List.all_eq_true.mp named c
        (List.mem_filter.mpr ⟨among, by simpa using isNamed⟩)
      simp_all
    have stands' := opened.children typeNode (List.mem_of_find?_eq_some found)
    have part : typeNode.field = some .type := by simpa using List.find?_some found
    refine (stands'.accounts_collapsed (stands'.plain_of_field part)).rebalance fun c => ?_
    rw [opened.noted_eq, flatMap_filter_noted silent, shape]
    simp
  · simp at read

mutual

/-- An expression keeps its comments. -/
theorem accounts_expr : ∀ (n : Node) (e : Expr), Stands source n → expr? source n = some e →
    Accounts e.pieces (noted source n) []
  | .node kind field start stop children, e, stands, read => by
      rw [expr?] at read
      split at read
      · rename_i creation
        split at read
        · rename_i typeName arguments readType readArguments
          cases read
          have made : (Node.node kind field start stop children).isRule .objectCreation = true :=
            isRule_node creation
          obtain ⟨list, listed, inner⟩ := accounts_arguments children arguments
            (stands.opened_rule made (by decide)).children readArguments
          have named := accounts_creation stands made readType listed
          have opened := (Accounts.fixed "new" (by decide)).append
            (named.append (Accounts.fixed "(" (by decide)))
          have whole := (opened.append (Accounts.separated "," (by decide) inner)).append
            (Accounts.fixed ")" (by decide))
          exact whole.rebalance fun c => by simp
        · simp at read
      · exact accounts_simpleExpr stands read

theorem accounts_arguments : ∀ (nodes : List Node) (es : List Expr),
    (∀ n ∈ nodes, Stands source n) → arguments? source nodes = some es →
      ∃ list, (nodes.find? fun c => c.field = some .arguments) = some list ∧
        Accounts (Expr.piecesOf es).flatten (noted source list) []
  | [], es, _, read => by simp [arguments?] at read
  | .node kind field start stop children :: rest, es, stand, read => by
      rw [List.forall_mem_cons] at stand
      rw [arguments?] at read
      split at read
      · rename_i part
        have opened := stand.1.opened_part (.inr part)
        refine ⟨.node kind field start stop children, ?_, ?_⟩
        · rw [List.find?_cons_of_pos (by simp [Node.field, part])]
        · rw [opened.noted_eq]
          exact accounts_exprs children es opened.children read
      · rename_i part
        obtain ⟨list, found, inner⟩ := accounts_arguments rest es stand.2 read
        refine ⟨list, ?_, inner⟩
        rw [List.find?_cons_of_neg (by simp [Node.field, part])]
        exact found

theorem accounts_exprs : ∀ (nodes : List Node) (es : List Expr),
    (∀ n ∈ nodes, Stands source n) → exprs? source nodes = some es →
      Accounts (Expr.piecesOf es).flatten (nodes.flatMap (noted source)) []
  | [], es, _, read => by
      cases read
      exact Accounts.nil
  | n :: rest, es, stand, read => by
      rw [List.forall_mem_cons] at stand
      rw [exprs?] at read
      split at read
      · split at read
        · rename_i e es' readFirst readRest
          cases read
          exact (accounts_expr n e stand.1 readFirst).append
            (accounts_exprs rest es' stand.2 readRest)
        · simp at read
      · rename_i token
        rw [List.flatMap_cons, stand.1.noted_token (by simpa using token), List.nil_append]
        exact accounts_exprs rest es stand.2 read

end

/-- The value of a `throw` has its comments. -/
theorem accounts_thrown {n : Node} {value : Expr} (opened : Opened source n)
    (read : thrown? source n.children = some value) :
    Accounts value.pieces (noted source n) [] := by
  unfold thrown? at read
  split at read
  · rename_i only named
    rw [opened.noted_named, Node.namedChildren, named, List.flatMap_singleton]
    have among : only ∈ n.children.filter Node.isNamed := by rw [named]; simp
    exact accounts_expr only value (opened.children only (List.mem_filter.mp among).1) read
  · simp at read

/-! ## Statements -/

theorem count_filter_not (nodes : List Node) (p : Node → Bool) (c : Text) :
    (nodes.flatMap (noted source)).count c =
      ((nodes.filter p).flatMap (noted source)).count c +
        ((nodes.filter fun n => !p n).flatMap (noted source)).count c := by
  induction nodes with
  | nil => rfl
  | cons n rest ih =>
      rw [List.flatMap_cons, List.count_append, List.filter_cons, List.filter_cons]
      by_cases kept : p n = true
      · simp only [kept, if_true, Bool.not_true, Bool.false_eq_true, if_false, List.flatMap_cons,
          List.count_append]
        omega
      · simp only [kept, Bool.not_false, if_true, Bool.false_eq_true, if_false, List.flatMap_cons,
          List.count_append]
        omega

theorem flatten_singletons (texts : List Text) :
    (texts.map fun t => [Piece.whole t]).flatten = texts.map Piece.whole := by
  induction texts with
  | nil => rfl
  | cons t rest ih => rw [List.map_cons, List.flatten_cons, ih]; rfl

/-- Nodes that are no comments, collapsed and with a sign between them. -/
theorem accounts_listed (sign : String) (unmarked : sign.toList.all isUnmarked = true)
    {nodes : List Node} (stand : ∀ n ∈ nodes, Stands source n)
    (plain : ∀ n ∈ nodes, n.isComment = false) :
    Accounts (Piece.separated sign ((nodes.map (collapsed source)).map fun t => [Piece.whole t]))
      (nodes.flatMap (noted source)) [] := by
  refine Accounts.separated sign unmarked ?_
  rw [flatten_singletons, List.map_map]
  exact Accounts.map fun n among => (stand n among).accounts_collapsed (plain n among)

/-- A catch parameter that is taken apart has its comments in its types and its name. -/
theorem accounts_catchParameter {nodes : List Node} {types : List Text} {binder : Text}
    (stand : ∀ n ∈ nodes, Stands source n)
    (read : catchParameter? source nodes = some (types, binder)) :
    ∃ parameter, (nodes.find? fun c => c.isRule .catchParameter) = some parameter ∧
      Accounts (Piece.separated "|" (types.map fun t => [Piece.whole t]) ++ [Piece.whole binder])
        (noted source parameter) [] := by
  simp only [catchParameter?, Option.bind_eq_bind, Option.bind_eq_some_iff] at read
  obtain ⟨parameter, found, name, named, rest⟩ := read
  refine ⟨parameter, found, ?_⟩
  have stands := stand parameter (List.mem_of_find?_eq_some found)
  have made : parameter.isRule .catchParameter = true := by simpa using List.find?_some found
  have opened := stands.opened_rule made (by decide)
  split at rest
  · rename_i clean
    simp only [Option.some.injEq, Prod.mk.injEq] at rest
    obtain ⟨rfl, rfl⟩ := rest
    rw [Bool.and_eq_true, List.all_eq_true, List.all_eq_true] at clean
    obtain ⟨caught, uncommented⟩ := clean
    have others : ∀ o ∈ parameter.namedChildren.filter (fun c => c.field ≠ some .name),
        Opened source o := by
      intro o among
      have listed := (List.mem_filter.mp (List.mem_filter.mp among).1).1
      exact (opened.children o listed).opened_rule (caught o among) (by decide)
    have typesStand : ∀ t ∈ (parameter.namedChildren.filter
        fun c => c.field ≠ some .name).flatMap Node.namedChildren, Stands source t := by
      intro t among
      obtain ⟨o, isOther, inside⟩ := List.mem_flatMap.mp among
      exact (others o isOther).children t (List.mem_filter.mp inside).1
    have listed := accounts_listed "|" (by decide) typesStand
      fun t among => by simpa using uncommented t among
    have bound := opened.children name (List.mem_of_find?_eq_some named)
    have part : name.field = some .name := by simpa using List.find?_some named
    refine (listed.append (bound.accounts_text (bound.plain_of_field part))).rebalance fun c => ?_
    have once := (stands.spec opened.plain).2.2.1.catchParameter made
    rw [named] at once
    rw [opened.noted_named, count_filter_not _ (fun c => c.field = some .name), once,
      List.flatMap_assoc, List.flatMap_congr fun o among => (others o among).noted_named.symm]
    simp only [decide_not, List.count_append, Option.toList_some, List.flatMap_singleton,
      List.count_nil]
    omega
  · simp at rest

/-- A clause keeps the comments of its parameter and its block. -/
theorem accounts_clause {n parameter block : Node} {types : List Text} {binder : Text}
    {body : List Stmt} {lost : List Node} (stands : Stands source n)
    (made : n.isRule .catchClause = true)
    (found : n.childOf? .catchParameter = some parameter) (found' : n.child? .body = some block)
    (header : Accounts
      (Piece.separated "|" (types.map fun t => [Piece.whole t]) ++ [Piece.whole binder])
      (noted source parameter) [])
    (inner : Accounts (Stmt.piecesOf body) (noted source block) (lost.flatMap (noted source))) :
    Accounts (Catch.piecesOf [.clause types binder body]) (noted source n)
      ((n.children.filter Node.isComment ++ lost).flatMap (noted source)) := by
  have opened := stands.opened_rule made (by decide)
  have shape := (stands.spec opened.plain).2.2.1.catchClause made
  rw [found, found'] at shape
  have lead := (((Accounts.fixed "\x7d" (by decide)).append
    (Accounts.fixed "catch" (by decide))).append (Accounts.fixed "(" (by decide))).append header
  have whole := (lead.append ((Accounts.fixed ")" (by decide)).append
    (Accounts.fixed "\x7b" (by decide)))).append inner
  have balanced : Accounts _ (noted source n)
      ((n.children.filter Node.isComment ++ lost).flatMap (noted source)) :=
    whole.rebalance fun c => by
      rw [opened.noted_eq, count_parts opened.children, shape]
      simp
      omega
  simpa [Catch.piecesOf] using balanced

theorem accounts_finally {n block : Node} {body : List Stmt} {lost : List Node}
    (stands : Stands source n) (made : n.isRule .finallyClause = true)
    (found : n.childOf? .block = some block)
    (inner : Accounts (Stmt.piecesOf body) (noted source block) (lost.flatMap (noted source))) :
    Accounts (Stmt.finishPieces (some body)) (noted source n)
      ((n.children.filter Node.isComment ++ lost).flatMap (noted source)) := by
  have opened := stands.opened_rule made (by decide)
  have shape := (stands.spec opened.plain).2.2.1.finallyClause made
  rw [found] at shape
  have whole := (((Accounts.fixed "\x7d" (by decide)).append
    (Accounts.fixed "finally" (by decide))).append (Accounts.fixed "\x7b" (by decide))).append inner
  exact whole.rebalance fun c => by
    rw [opened.noted_eq, count_parts opened.children, shape]
    simp
    omega

/-- What the first child of a `try` adds to what the others give. -/
theorem tryParts_cons {kind : Kind} {field : Option Field} {start stop : Nat}
    {children rest : List Node} {parts : TryParts}
    (read : tryParts? source (.node kind field start stop children :: rest) = some parts) :
    kind = .token ∧ tryParts? source rest = some parts ∨
      kind ≠ .token ∧ ∃ below, tryParts? source rest = some below ∧
        (field = some .body ∧ parts = { below with body := some (stmts source children) } ∨
          field ≠ some .body ∧ kind = .rule .catchClause ∧
            (∃ types binder body, catchParameter? source children = some (types, binder) ∧
              bodyOf? source children = some body ∧
              parts = { below with catches := .clause types binder body :: below.catches }) ∨
          field ≠ some .body ∧ kind = .rule .finallyClause ∧
            ∃ body, blockOf? source children = some body ∧
              parts = { below with finish := some body }) := by
  rw [tryParts?] at read
  split at read
  · exact .inl ⟨‹_›, read⟩
  · refine .inr ⟨‹_›, ?_⟩
    split at read
    · simp at read
    · rename_i below readRest
      refine ⟨below, readRest, ?_⟩
      split at read
      · exact .inl ⟨‹_›, (Option.some_inj.mp read).symm⟩
      · split at read
        · split at read
          · exact .inr (.inl ⟨‹_›, ‹_›, _, _, _, ‹_›, ‹_›, (Option.some_inj.mp read).symm⟩)
          · simp at read
        · split at read
          · split at read
            · exact .inr (.inr ⟨‹_›, ‹_›, _, ‹_›, (Option.some_inj.mp read).symm⟩)
            · simp at read
          · simp at read

/-- Children of which none is a body or a finally block have none to give. -/
theorem tryParts_absent {nodes : List Node} {parts : TryParts}
    (read : tryParts? source nodes = some parts) :
    ((∀ n ∈ nodes, n.field ≠ some .body) → parts.body = none) ∧
      ((∀ n ∈ nodes, n.isRule .finallyClause = false) → parts.finish = none) := by
  induction nodes generalizing parts with
  | nil => cases read; exact ⟨fun _ => rfl, fun _ => rfl⟩
  | cons n rest ih =>
      obtain ⟨kind, field, start, stop, children⟩ := n
      simp only [List.forall_mem_cons]
      rcases tryParts_cons read with ⟨-, below⟩ | ⟨-, below, readRest, added⟩
      · exact ⟨fun absent => (ih below).1 absent.2, fun absent => (ih below).2 absent.2⟩
      · obtain ⟨noBody, noFinish⟩ := ih readRest
        rcases added with ⟨part, rfl⟩ | ⟨-, -, _, _, _, -, -, rfl⟩ | ⟨-, made, _, -, rfl⟩
        · exact ⟨fun absent => absurd part absent.1, fun absent => noFinish absent.2⟩
        · exact ⟨fun absent => noBody absent.2, fun absent => noFinish absent.2⟩
        · refine ⟨fun absent => noBody absent.2, fun absent => ?_⟩
          rw [isRule_node made] at absent
          exact absurd absent.1 (by simp)

theorem absent_of_once {n : Node} {rest : List Node} {p : Node → Bool} (here : p n = true)
    (once : ((n :: rest).filter p).length ≤ 1) : ∀ m ∈ rest, p m = false := by
  rw [List.filter_cons_of_pos here, List.length_cons] at once
  have none : rest.filter p = [] := List.length_eq_zero_iff.mp (by omega)
  simpa using none

theorem once_below {n : Node} {rest : List Node} {p : Node → Bool}
    (once : ((n :: rest).filter p).length ≤ 1) : (rest.filter p).length ≤ 1 := by
  rw [List.filter_cons] at once
  split at once
  · rw [List.length_cons] at once
    omega
  · exact once

/-- Only a `try` is taken apart. -/
theorem strayInStmt_of_other {n : Node} (other : n.isRule .tryStatement = false) :
    strayInStmt source n = [] := by
  obtain ⟨kind, field, start, stop, children⟩ := n
  rw [strayInStmt, if_neg]
  rintro ⟨made, -⟩
  rw [isRule_node made] at other
  exact absurd other (by simp)

/-- The pieces of the parts of a `try`. -/
def TryParts.pieces (parts : TryParts) : List Piece :=
  Stmt.piecesOf (parts.body.getD []) ++ Catch.piecesOf parts.catches ++
    Stmt.finishPieces parts.finish

mutual

/-- A statement loses no comments but its stray ones. -/
theorem accounts_stmt : ∀ n : Node, Stands source n →
    Accounts (stmt source n).pieces (noted source n) ((strayInStmt source n).flatMap (noted source))
  | .node kind field start stop children, stands => by
      have kept :
          Accounts [Piece.free (verbatim source (.node kind field start stop children))]
            (noted source (.node kind field start stop children)) [] := stands.accounts_verbatim
      rw [strayInStmt]
      unfold stmt
      dsimp only
      split
      · simpa [Stmt.pieces] using kept
      · simpa [Stmt.pieces] using kept
      · split
        · rename_i value thrown
          have opened := stands.opened_rule (isRule_node rfl)
            (by decide : Rule.throwStatement ≠ _)
          have inner := accounts_thrown opened thrown
          have whole := ((Accounts.fixed "throw" (by decide)).append inner).append
            (Accounts.fixed ";" (by decide))
          exact whole.rebalance fun c => by simp
        · simpa [Stmt.pieces] using kept
      · have opened := stands.opened_rule (isRule_node rfl)
          (by decide : Rule.tryStatement ≠ _)
        have once := (stands.spec opened.plain).2.2.1.tryStatement
          (isRule_node rfl)
        split
        · rename_i body catches finish read
          have inner := accounts_tryParts children _ opened.children read once.1 once.2
          have whole := (((Accounts.fixed "try" (by decide)).append
            (Accounts.fixed "\x7b" (by decide))).append inner).append
            (Accounts.fixed "\x7d" (by decide))
          rw [opened.noted_eq, read]
          simpa [TryParts.pieces, Stmt.pieces, Node.children] using whole
        · rename_i structured
          have none : ((tryParts? source children).bind TryParts.body).isSome = false := by
            cases read : tryParts? source children with
            | none => rfl
            | some parts =>
                obtain ⟨body, catches, finish⟩ := parts
                cases body with
                | none => rfl
                | some body => exact absurd read (structured body catches finish)
          rw [if_neg (by simp [none])]
          exact kept
      · rename_i other
        rw [if_neg (fun both => other both.1)]
        exact kept

theorem accounts_stmts : ∀ nodes : List Node, (∀ n ∈ nodes, Stands source n) →
    Accounts (Stmt.piecesOf (stmts source nodes)) (nodes.flatMap (noted source))
      ((strayInStmts source nodes).flatMap (noted source))
  | [], _ => Accounts.nil
  | n :: rest, stand => by
      rw [List.forall_mem_cons] at stand
      have below := accounts_stmts rest stand.2
      rw [stmts, strayInStmts, List.flatMap_cons, List.flatMap_append]
      split
      · exact (accounts_stmt n stand.1).append below
      · rename_i token
        have isToken : n.isNamed = false := by simpa using token
        rw [stand.1.noted_token isToken, strayInStmt_of_other (isRule_of_token isToken _)]
        exact below

theorem accounts_tryParts : ∀ (nodes : List Node) (parts : TryParts),
    (∀ n ∈ nodes, Stands source n) → tryParts? source nodes = some parts →
      (nodes.filter fun n => n.field = some .body).length ≤ 1 →
      (nodes.filter (·.isRule .finallyClause)).length ≤ 1 →
      Accounts (TryParts.pieces parts) (nodes.flatMap (noted source))
        ((strayInTry source nodes).flatMap (noted source))
  | [], parts, _, read, _, _ => by
      cases read
      exact Accounts.nil
  | .node kind field start stop children :: rest, parts, stand, read, oneBody, oneFinish => by
      rw [List.forall_mem_cons] at stand
      rw [List.flatMap_cons, strayInTry]
      rcases tryParts_cons read with ⟨token, readRest⟩ | ⟨-, below, readRest, added⟩
      · have inner := accounts_tryParts rest parts stand.2 readRest (once_below oneBody)
          (once_below oneFinish)
        have isToken : (Node.node kind field start stop children).isNamed = false := by
          simp [Node.isNamed, Node.kind, token]
        have leaf : children = [] := (stand.1.spec
          (by simp [Node.isComment, Node.kind, token])).2.2.2.1.token token
        rw [stand.1.noted_token isToken, leaf]
        simpa [strayInStmts, strayInBodyOf, strayInBlockOf] using inner
      · have inner := accounts_tryParts rest below stand.2 readRest (once_below oneBody)
          (once_below oneFinish)
        obtain ⟨noBody, noFinish⟩ := tryParts_absent readRest
        rcases added with ⟨part, rfl⟩ |
          ⟨part, made, types, binder, body, readHeader, readBody, rfl⟩ |
          ⟨part, made, body, readBlock, rfl⟩
        · have absent := noBody fun m among => by
            simpa using absent_of_once (by simp [Node.field, part]) oneBody m among
          have opened := stand.1.opened_part (.inl part)
          have here := accounts_stmts children opened.children
          rw [if_pos part, List.flatMap_append, opened.noted_eq]
          simpa [TryParts.pieces, absent, Stmt.piecesOf, Node.children] using here.append inner
        · have opened := stand.1.opened_rule (isRule_node made) (by decide)
          obtain ⟨parameter, found, header⟩ := accounts_catchParameter opened.children readHeader
          obtain ⟨block, found', block'⟩ := accounts_bodyOf children body opened.children readBody
          have here := accounts_clause stand.1 (isRule_node made) found found' header block'
          rw [if_neg part, if_pos made, List.flatMap_append]
          have split : TryParts.pieces
              { below with catches := .clause types binder body :: below.catches } =
              Stmt.piecesOf (below.body.getD []) ++ (Catch.piecesOf [.clause types binder body] ++
                (Catch.piecesOf below.catches ++ Stmt.finishPieces below.finish)) := by
            simp [TryParts.pieces, Catch.piecesOf]
          rw [split]
          rw [TryParts.pieces, List.append_assoc] at inner
          exact inner.insert here
        · have absent := noFinish (absent_of_once (isRule_node made) oneFinish)
          have opened := stand.1.opened_rule (isRule_node made) (by decide)
          obtain ⟨block, found, block'⟩ := accounts_blockOf children body opened.children readBlock
          have here := accounts_finally stand.1 (isRule_node made) found block'
          rw [if_neg part, if_neg (by simp [made]), if_pos made, List.flatMap_append]
          have bare : TryParts.pieces below =
              Stmt.piecesOf (below.body.getD []) ++ Catch.piecesOf below.catches ++ [] := by
            rw [TryParts.pieces, absent, Stmt.finishPieces]
          rw [bare] at inner
          simpa [TryParts.pieces, Node.children] using inner.insert here

theorem accounts_bodyOf : ∀ (nodes : List Node) (body : List Stmt),
    (∀ n ∈ nodes, Stands source n) → bodyOf? source nodes = some body →
      ∃ block, (nodes.find? fun c => c.field = some .body) = some block ∧
        Accounts (Stmt.piecesOf body) (noted source block)
          ((strayInBodyOf source nodes).flatMap (noted source))
  | [], body, _, read => by simp [bodyOf?] at read
  | .node kind field start stop children :: rest, body, stand, read => by
      rw [List.forall_mem_cons] at stand
      rw [bodyOf?] at read
      rw [strayInBodyOf]
      split at read
      · rename_i part
        cases read
        have opened := stand.1.opened_part (.inl part)
        refine ⟨.node kind field start stop children, ?_, ?_⟩
        · rw [List.find?_cons_of_pos (by simp [Node.field, part])]
        · rw [opened.noted_eq, if_pos part]
          exact accounts_stmts children opened.children
      · rename_i part
        obtain ⟨block, found, inner⟩ := accounts_bodyOf rest body stand.2 read
        refine ⟨block, ?_, by rwa [if_neg part]⟩
        rw [List.find?_cons_of_neg (by simp [Node.field, part])]
        exact found

theorem accounts_blockOf : ∀ (nodes : List Node) (body : List Stmt),
    (∀ n ∈ nodes, Stands source n) → blockOf? source nodes = some body →
      ∃ block, (nodes.find? fun c => c.isRule .block) = some block ∧
        Accounts (Stmt.piecesOf body) (noted source block)
          ((strayInBlockOf source nodes).flatMap (noted source))
  | [], body, _, read => by simp [blockOf?] at read
  | .node kind field start stop children :: rest, body, stand, read => by
      rw [List.forall_mem_cons] at stand
      rw [blockOf?] at read
      rw [strayInBlockOf]
      split at read
      · rename_i made
        cases read
        have opened := stand.1.opened_rule (isRule_node made) (by decide)
        refine ⟨.node kind field start stop children, ?_, ?_⟩
        · exact List.find?_cons_of_pos (isRule_node made)
        · rw [opened.noted_eq, if_pos made]
          exact accounts_stmts children opened.children
      · rename_i made
        obtain ⟨block, found, inner⟩ := accounts_blockOf rest body stand.2 read
        refine ⟨block, ?_, by rwa [if_neg made]⟩
        rw [List.find?_cons_of_neg (by simp [Node.isRule, Node.kind, made])]
        exact found

end

end Rethrow.Reading
