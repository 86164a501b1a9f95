import Rethrow.Proofs.Reading.Declarations

/-!
# The comments of types and their members

A documentation comment in front of a declaration is its documentation, and one that finds
no declaration stands for itself, so none of them is lost among the members of a type or the
items of a unit: `accounts_documented`. The constants of an enumeration are kept as one
stretch of text up to the members; comments behind the members are lost.
-/

namespace Rethrow.Reading

open Java Lexical

variable {source : Text}

/-! ## Documentation -/

/-- The documentation comment inside a declaration that has none in front of it. -/
def innerDoc (source : Text) (pending : Option Node) (n : Node) : Option Node :=
  if pending.isSome then none else n.namedChildren.head?.filter (isDoc source)

theorem comment_of_isDoc {n : Node} (doc : isDoc source n = true) : n.isComment = true := by
  simp only [isDoc, Bool.and_eq_true, decide_eq_true_eq] at doc
  simp [Node.isComment, doc.1]

/-- Documentation is kept. -/
theorem accounts_doc {pending : Option Node} {n : Node} (opened : Opened source n)
    (stand : ∀ d ∈ pending, Stands source d) :
    Accounts (Layout.docPieces (docOf source pending n))
      ((pending.toList ++ (innerDoc source pending n).toList).flatMap (noted source)) [] := by
  unfold docOf innerDoc
  cases pending with
  | some d => exact (stand d rfl).accounts_verbatim.rebalance fun c => by simp
  | none =>
      cases found : n.namedChildren.head?.filter (isDoc source) with
      | none => exact Accounts.nil
      | some d =>
          have first := (Option.filter_eq_some_iff.mp found).1
          have listed := (List.mem_filter.mp (List.mem_of_head? first)).1
          exact (opened.children d listed).accounts_verbatim.rebalance fun c => by simp

section

variable {takesDoc : Node → Bool} {pieces : Entry → List Piece} {stray : Node → List Node}
  {echo : Entry → List Node}

theorem accounts_looseEntry {pending : Option Node}
    (loose : ∀ d, Stands source d → Accounts (pieces (.loose d)) (noted source d) [])
    (stand : ∀ d ∈ pending, Stands source d) :
    Accounts ((looseEntry pending).flatMap pieces) (pending.toList.flatMap (noted source)) [] := by
  cases pending with
  | none => exact Accounts.nil
  | some d => simpa [looseEntry] using loose d (stand d rfl)

/-- The entries of a container have the comments of its children, those in `echo` once
more, and lose what the children lose. -/
theorem accounts_documented (silent : ∀ d, isDoc source d = true → stray d = [])
    (once : ∀ d, echo (.loose d) = [])
    (loose : ∀ d, Stands source d → Accounts (pieces (.loose d)) (noted source d) [])
    (child : ∀ pending n, Stands source n → (∀ d ∈ pending, Stands source d) →
      (pending = none ∨ takesDoc n = true) →
      Accounts (pieces (.child pending n))
        ((pending.toList ++ n :: echo (.child pending n)).flatMap (noted source))
        ((stray n).flatMap (noted source)))
    {nodes : List Node} (stand : ∀ n ∈ nodes, Stands source n) (pending : Option Node)
    (stand' : ∀ d ∈ pending, Stands source d) :
    Accounts ((documented (isDoc source) takesDoc pending nodes).flatMap pieces)
      ((pending.toList ++ nodes ++
        (documented (isDoc source) takesDoc pending nodes).flatMap echo).flatMap (noted source))
      ((nodes.flatMap stray).flatMap (noted source)) := by
  have quiet : ∀ pending, (looseEntry pending).flatMap echo = [] := by
    intro pending
    cases pending <;> simp [looseEntry, once]
  induction nodes generalizing pending with
  | nil =>
      rw [documented, quiet, List.append_nil, List.append_nil]
      exact accounts_looseEntry loose stand'
  | cons n rest ih =>
      rw [List.forall_mem_cons] at stand
      have before := accounts_looseEntry loose stand'
      rw [documented]
      split
      · rename_i doc
        simp only [List.flatMap_append, quiet, List.nil_append]
        refine (before.append (ih stand.2 (some n) fun d same => ?_)).rebalance fun c => ?_
        · cases same
          exact stand.1
        · simp [silent n doc]
      · have below := ih stand.2 none (by simp)
        split
        · rename_i takes
          rw [List.flatMap_cons, List.flatMap_cons]
          refine ((child pending n stand.1 stand' (.inr takes)).append below).rebalance fun c => ?_
          simp
          omega
        · simp only [List.flatMap_append, List.flatMap_cons, quiet, List.nil_append]
          have here := child none n stand.1 (by simp) (.inl rfl)
          refine (before.append (here.append below)).rebalance fun c => ?_
          simp
          omega

end

/-! ## Members -/

/-- The comments that a child of a type's body loses. -/
def strayInChild (source : Text) (n : Node) : List Node :=
  if takesMemberDoc n then strayInMember source n else []

/-- The comments that an entry of a type's body holds twice: as documentation and where they
stand. -/
def Entry.memberEcho (source : Text) : Entry → List Node
  | .loose _ => []
  | .child pending n => if takesMemberDoc n then (innerDoc source pending n).toList else []

theorem opened_member {n : Node} (stands : Stands source n) (takes : takesMemberDoc n = true) :
    Opened source n := by
  simp only [takesMemberDoc, isConstructor, Bool.or_eq_true] at takes
  rcases takes with method | plain | compact
  · exact stands.opened_rule method (by decide)
  · exact stands.opened_rule plain (by decide)
  · exact stands.opened_rule compact (by decide)

theorem accounts_member {pending : Option Node} {n : Node} (stands : Stands source n)
    (stand : ∀ d ∈ pending, Stands source d) (placed : pending = none ∨ takesMemberDoc n = true) :
    Accounts (member source (.child pending n)).pieces
      ((pending.toList ++ n :: Entry.memberEcho source (.child pending n)).flatMap (noted source))
      ((strayInChild source n).flatMap (noted source)) := by
  unfold member Entry.memberEcho strayInChild
  dsimp only
  by_cases takes : takesMemberDoc n = true
  · have doc := accounts_doc (opened_member stands takes) stand
    rw [if_pos takes, if_pos takes]
    split
    · rename_i made
      refine (accounts_procedure stands made doc).rebalance fun c => ?_
      simp
      omega
    · rename_i other
      have made : isConstructor n = true := by simpa [takesMemberDoc, other] using takes
      rw [if_pos made]
      refine (accounts_constructor stands made doc).rebalance fun c => ?_
      simp
      omega
  · have neither : n.isRule .methodDeclaration = false ∧ isConstructor n = false := by
      simpa [takesMemberDoc] using takes
    rw [placed.resolve_right takes, if_neg takes, if_neg takes, neither.1, neither.2]
    have kept : Accounts [Piece.free (verbatim source n)] (([] ++ [n]).flatMap (noted source)) [] :=
      stands.accounts_verbatim.rebalance fun c => by simp
    simp only [Bool.false_eq_true, if_false]
    split
    · exact kept
    · split <;> exact kept

theorem bracketed_member {pending : Option Node} {n : Node} (stands : Stands source n) :
    (member source (.child pending n)).Bracketed := by
  unfold member
  dsimp only
  split
  · exact bracketed_procedure (stands.opened_rule ‹_› (by decide)) _
  · split
    · rename_i made
      exact bracketed_constructor (opened_member stands (by simp [takesMemberDoc, made])) _
    · split
      · trivial
      · split <;> trivial

/-! ## Bodies -/

/-- What stands behind the members of an enumeration, the members included. -/
def fromDeclarations (body : Node) : List Node :=
  body.children.dropWhile fun c => !c.isRule .enumBodyDeclarations

/-- Whether a child of an enumeration's body is a constant or a comment. -/
def isConstant (c : Node) : Bool :=
  c.isNamed && !c.isRule .enumBodyDeclarations

theorem named_of_isRule {n : Node} {rule : Rule} (made : n.isRule rule = true) :
    n.isNamed = true := by
  simp [Node.isNamed, kind_of_isRule made]

theorem find?_named (nodes : List Node) (p : Node → Bool) :
    (nodes.filter Node.isNamed).find? p = nodes.find? fun c => c.isNamed && p c := by
  rw [List.find?_filter]
  congr 1
  funext c
  simp

theorem enumConstants_eq (body : Node) : enumConstants source body =
    (body.children.find? isConstant).elim [] fun first =>
      Fragment.dedent
        (Text.slice source first.start
          (max ((body.childOf? .enumBodyDeclarations).elim (body.stop - 1) Node.start) first.start))
        (columnAt source first.start) := by
  have declarations : (fun c : Node => c.isNamed && c.isRule .enumBodyDeclarations) =
      fun c => c.isRule .enumBodyDeclarations := by
    funext c
    rw [Bool.eq_iff_iff, Bool.and_eq_true]
    exact ⟨And.right, fun made => ⟨named_of_isRule made, made⟩⟩
  unfold enumConstants isConstant Node.childOf? Node.namedChildren
  dsimp only
  rw [find?_named, find?_named, declarations]
  cases body.children.find? fun c => c.isNamed && !c.isRule .enumBodyDeclarations with
  | none => rfl
  | some first => cases body.children.find? fun c => c.isRule .enumBodyDeclarations <;> rfl

theorem gap_refl {offset : Nat} (cut : Cut source offset) : Gap source offset offset := by
  refine ⟨Nat.le_refl _, cut, ?_⟩
  rw [show Text.slice source offset offset = [] by simp [Text.slice]]
  rfl

/-- Tiles are tiles from the start of the first of them, too. -/
theorem Tiled.onward {start stop : Nat} {upper lower : List Node} {n : Node}
    (cut : Cut source start) (tiled : Tiled source start (upper ++ n :: lower) stop) :
    Cut source n.start ∧ Tiled source n.start (n :: lower) stop := by
  obtain ⟨⟨-, cutStart, -⟩, rest⟩ := (tiled.behind cut).2
  exact ⟨cutStart, gap_refl cutStart, rest⟩

theorem Tiled.accounts_dedent {start stop : Nat} {nodes : List Node}
    (tiled : Tiled source start nodes stop) (cut : Cut source start) (column : Nat) :
    Accounts [Piece.free (Fragment.dedent (Text.slice source start stop) column)]
      (nodes.flatMap (noted source)) [] := by
  have accounts := Accounts.free (loose_dedent (tiled.loose_slice cut) column)
  rwa [(comments_dedent _ _).1, tiled.comments_slice cut] at accounts

theorem silent_of_constant {nodes : List Node} (stand : ∀ n ∈ nodes, Stands source n)
    (plain : ∀ n ∈ nodes, n.isRule .enumBodyDeclarations = false)
    (none : ∀ n ∈ nodes, isConstant n = false) : nodes.flatMap (noted source) = [] :=
  flatMap_noted_tokens stand fun n among => by simpa [isConstant, plain n among] using none n among

/-- The comments of constants are those of the stretch from the first of them. -/
theorem accounts_stretch {start stop : Nat} {nodes : List Node} {first : Node}
    (cut : Cut source start) (tiled : Tiled source start nodes stop)
    (stand : ∀ n ∈ nodes, Stands source n)
    (plain : ∀ n ∈ nodes, n.isRule .enumBodyDeclarations = false)
    (found : nodes.find? isConstant = some first) (column : Nat) :
    Accounts [Piece.free
        (Fragment.dedent (Text.slice source first.start (max stop first.start)) column)]
      (nodes.flatMap (noted source)) [] := by
  obtain ⟨-, upper, lower, rfl, before⟩ := List.find?_eq_some_iff_append.mp found
  have silent := silent_of_constant (fun n among => stand n (List.mem_append_left _ among))
    (fun n among => plain n (List.mem_append_left _ among))
    (fun n among => by simpa using before n among)
  obtain ⟨cutStart, onward⟩ := tiled.onward cut
  rw [List.flatMap_append, silent, List.nil_append, Nat.max_eq_left onward.bounds.1]
  exact onward.accounts_dedent cutStart column

/-- An enumeration without members keeps all its comments. -/
theorem accounts_onlyConstants {body : Node} (stands : Stands source body)
    (made : body.isRule .enumBody = true) (none : body.childOf? .enumBodyDeclarations = none) :
    Accounts [Piece.free (enumConstants source body)] (noted source body) [] := by
  have opened := stands.opened_rule made (by decide)
  have ends := ((stands.spec opened.plain).2.1.enumBody made).1
  cases last : body.children.getLast? with
  | none => simp [last] at ends
  | some brace =>
      obtain ⟨token, start⟩ : brace.kind = .token ∧ brace.start = body.stop - 1 := by
        simpa [last] using ends
      obtain ⟨inner, shape⟩ := List.getLast?_eq_some_iff.mp last
      have stand := opened.children
      have tiled := opened.tiled
      have plain : ∀ c ∈ body.children, c.isRule .enumBodyDeclarations = false := by
        simpa [Node.childOf?] using none
      rw [shape] at stand tiled plain
      have silent : noted source brace = [] :=
        (stand brace (by simp)).noted_token (by simp [Node.isNamed, token])
      have sought : (inner ++ [brace]).find? isConstant = inner.find? isConstant := by
        simp [isConstant, Node.isNamed, token]
      rw [enumConstants_eq, none, opened.noted_eq, shape, sought, List.flatMap_append,
        List.flatMap_singleton, silent, List.append_nil]
      cases found : inner.find? isConstant with
      | none =>
          rw [silent_of_constant (fun n among => stand n (List.mem_append_left _ among))
            (fun n among => plain n (List.mem_append_left _ among))
            (fun n among => by simpa using List.find?_eq_none.mp found n among)]
          exact Accounts.free (.inl rfl)
      | some first =>
          rw [Option.elim_some, Option.elim_none, ← start]
          exact accounts_stretch stands.cutStart tiled.before
            (fun n among => stand n (List.mem_append_left _ among))
            (fun n among => plain n (List.mem_append_left _ among)) found _

/-- An enumeration with members keeps the comments of its constants. -/
theorem accounts_constants {body declarations : Node} (stands : Stands source body)
    (made : body.isRule .enumBody = true)
    (some_ : body.childOf? .enumBodyDeclarations = some declarations) :
    Accounts [Piece.free (enumConstants source body)] (noted source body)
      ((declarations :: (fromDeclarations body).filter Node.isComment).flatMap (noted source)) := by
  have opened := stands.opened_rule made (by decide)
  have rest := ((stands.spec opened.plain).2.1.enumBody made).2
  obtain ⟨here, upper, lower, shape, before⟩ := List.find?_eq_some_iff_append.mp some_
  have stand := opened.children
  have tiled := opened.tiled
  have plain : ∀ c ∈ upper, c.isRule .enumBodyDeclarations = false := by simpa using before
  have behind : fromDeclarations body = declarations :: lower := by
    rw [fromDeclarations, shape, List.dropWhile_append_of_pos (by simpa using before)]
    simp [here]
  have nothing : parts lower = [] := by
    rw [← fromDeclarations, behind] at rest
    exact rest
  have plain' := plain_of_isRule here
  rw [shape] at stand tiled
  have constants : Accounts [Piece.free (enumConstants source body)] (upper.flatMap (noted source))
      [] := by
    rw [enumConstants_eq, some_, shape, List.find?_append, Option.elim_some]
    cases found : upper.find? isConstant with
    | some first =>
        exact accounts_stretch stands.cutStart tiled.before
          (fun n among => stand n (List.mem_append_left _ among)) plain found _
    | none =>
        rw [silent_of_constant (fun n among => stand n (List.mem_append_left _ among)) plain
          (fun n among => by simpa using List.find?_eq_none.mp found n among), Option.none_or]
        cases found' : (declarations :: lower).find? isConstant with
        | none => exact Accounts.free (.inl rfl)
        | some first =>
            -- A comment behind the members, in front of which the stretch would end.
            obtain ⟨-, onward⟩ := tiled.onward stands.cutStart
            obtain ⟨ordered, -, cutStart, -⟩ := onward.cuts (List.mem_of_find?_eq_some found')
            rw [Option.elim_some, Nat.max_eq_right ordered]
            have empty : Tiled source first.start [] first.start := gap_refl cutStart
            exact empty.accounts_dedent cutStart _
  refine constants.rebalance fun c => ?_
  have later := count_parts (fun n (among : n ∈ lower) => stand n (by simp [among])) c
  rw [nothing] at later
  rw [opened.noted_eq, shape, behind, List.filter_cons_of_neg (by simp [plain'])]
  simp only [List.flatMap_append, List.flatMap_cons, List.count_append, List.flatMap_nil,
    List.count_nil] at later ⊢
  omega

/-- The children that are read as the members of a type. -/
def memberNodes (body : Node) : List Node :=
  if body.isRule .enumBody then
    (body.childOf? .enumBodyDeclarations).toList.flatMap Node.namedChildren
  else body.namedChildren

/-- The entries of the body of a type. -/
def memberEntries (source : Text) (body : Node) : List Entry :=
  documented (isDoc source) takesMemberDoc none (memberNodes body)

/-- The comments that the body of a type loses. -/
def strayInBody (source : Text) (body : Node) : List Node :=
  (memberNodes body).flatMap (strayInChild source) ++
    if body.isRule .enumBody then (fromDeclarations body).filter Node.isComment else []

/-- The comments that the body of a type holds twice. -/
def echoInBody (source : Text) (body : Node) : List Node :=
  (memberEntries source body).flatMap (Entry.memberEcho source)

theorem bodyMembers_eq (body : Node) :
    bodyMembers source body = (memberEntries source body).map (member source) := by
  unfold bodyMembers memberEntries memberNodes members
  split
  · cases body.childOf? .enumBodyDeclarations with
    | none => rfl
    | some declarations => rw [Option.toList_some, List.flatMap_singleton]
  · rfl

theorem stand_memberNodes {body : Node} (opened : Opened source body) :
    ∀ n ∈ memberNodes body, Stands source n := by
  unfold memberNodes
  split
  · intro n among
    obtain ⟨declarations, found, inside⟩ := List.mem_flatMap.mp among
    have found' := Option.mem_toList.mp found
    have made : declarations.isRule .enumBodyDeclarations = true := by
      simpa using List.find?_some found'
    have inner := (opened.children declarations (List.mem_of_find?_eq_some found')).opened_rule
      made (by decide)
    exact inner.children n (List.mem_filter.mp inside).1
  · exact fun n among => opened.children n (List.mem_filter.mp among).1

theorem accounts_members {body : Node} (opened : Opened source body) :
    Accounts ((bodyMembers source body).flatMap Member.pieces)
      ((memberNodes body ++ echoInBody source body).flatMap (noted source))
      (((memberNodes body).flatMap (strayInChild source)).flatMap (noted source)) := by
  rw [bodyMembers_eq, List.flatMap_map]
  refine accounts_documented (fun d doc => ?_) (fun _ => rfl)
    (fun d stands => stands.accounts_verbatim)
    (fun pending n stands stand placed => accounts_member stands stand placed)
    (stand_memberNodes opened) none (by simp)
  have comment := comment_of_isDoc doc
  simp [strayInChild, takesMemberDoc, isConstructor, isRule_of_comment comment]

/-- What the body of a type has beside its members. -/
theorem accounts_constantPieces {body : Node} (stands : Stands source body)
    (opened : Opened source body) (hasMembers : Bool) :
    Accounts (Layout.constantPieces
        (((some body).filter (·.isRule .enumBody)).map (enumConstants source)) hasMembers)
      (noted source body)
      ((memberNodes body ++
        if body.isRule .enumBody then (fromDeclarations body).filter Node.isComment else []).flatMap
          (noted source)) := by
  unfold memberNodes
  by_cases made : body.isRule .enumBody = true
  · have sign : Accounts (if hasMembers then [Piece.fixed ";"] else []) [] [] := by
      split
      · exact Accounts.fixed ";" (by decide)
      · exact Accounts.nil
    rw [if_pos made, if_pos made, Option.filter_some, if_pos made, Option.map_some]
    cases found : body.childOf? .enumBodyDeclarations with
    | none =>
        have absent : fromDeclarations body = [] := by
          have plain : ∀ c ∈ body.children, (!c.isRule .enumBodyDeclarations) = true := by
            simpa [Node.childOf?] using found
          rw [fromDeclarations, ← List.append_nil body.children,
            List.dropWhile_append_of_pos plain, List.dropWhile_nil]
        rw [absent]
        exact ((accounts_onlyConstants stands made found).append sign).rebalance fun c => by simp
    | some declarations =>
        have isRule : declarations.isRule .enumBodyDeclarations = true := by
          simpa using List.find?_some found
        have inner := (opened.children declarations (List.mem_of_find?_eq_some found)).opened_rule
          isRule (by decide)
        refine ((accounts_constants stands made found).append sign).rebalance fun c => ?_
        rw [List.flatMap_cons, inner.noted_named]
        simp
  · rw [if_neg made, if_neg made, Option.filter_some, if_neg made, Option.map_none]
    refine Accounts.nil.rebalance fun c => ?_
    rw [opened.noted_named]
    simp

/-- The body of a type keeps all comments but its stray ones. -/
theorem accounts_typeBody {body : Node} (stands : Stands source body) (opened : Opened source body)
    (hasMembers : Bool) :
    Accounts (Layout.constantPieces
          (((some body).filter (·.isRule .enumBody)).map (enumConstants source)) hasMembers ++
        (bodyMembers source body).flatMap Member.pieces)
      (noted source body ++ (echoInBody source body).flatMap (noted source))
      ((strayInBody source body).flatMap (noted source)) := by
  refine ((accounts_constantPieces stands opened hasMembers).append
    (accounts_members opened)).rebalance fun c => ?_
  simp only [strayInBody, List.flatMap_append, List.count_append]
  omega

theorem child_of_documented {isDoc takesDoc : Node → Bool} {nodes : List Node} {n : Node}
    {pending doc : Option Node}
    (listed : Entry.child doc n ∈ documented isDoc takesDoc pending nodes) : n ∈ nodes := by
  have quiet : ∀ pending, Entry.child doc n ∉ looseEntry pending := by
    intro pending
    cases pending <;> simp [looseEntry]
  induction nodes generalizing pending with
  | nil => exact absurd listed (quiet pending)
  | cons first rest ih =>
      rw [documented] at listed
      split at listed
      · rcases List.mem_append.mp listed with before | later
        · exact absurd before (quiet pending)
        · exact List.mem_cons_of_mem _ (ih later)
      · split at listed
        · rcases List.mem_cons.mp listed with here | later
          · cases here
            exact List.mem_cons_self
          · exact List.mem_cons_of_mem _ (ih later)
        · rcases List.mem_append.mp listed with before | onward
          · exact absurd before (quiet pending)
          · rcases List.mem_cons.mp onward with here | later
            · cases here
              exact List.mem_cons_self
            · exact List.mem_cons_of_mem _ (ih later)

theorem bracketed_bodyMembers {body : Node} (opened : Opened source body) :
    ∀ m ∈ bodyMembers source body, m.Bracketed := by
  rw [bodyMembers_eq]
  intro m listed
  obtain ⟨entry, among, rfl⟩ := List.mem_map.mp listed
  cases entry with
  | loose doc => trivial
  | child pending n =>
      exact bracketed_member (stand_memberNodes opened n (child_of_documented among))

/-! ## Types and items -/

/-- The comments that a type declaration loses. -/
def strayInType (source : Text) (n : Node) : List Node :=
  strayInLead n ++ (n.child? .body).toList.flatMap (strayInBody source)

/-- The comments that a type declaration holds twice, its own documentation apart. -/
def echoInType (source : Text) (n : Node) : List Node :=
  (n.child? .body).toList.flatMap (echoInBody source)

theorem plain_of_isTypeDecl {n : Node} (made : isTypeDecl n = true) :
    n.isComment = false ∧ n.isRule .stringLiteral = false := by
  obtain ⟨kind, field, start, stop, children⟩ := n
  unfold isTypeDecl at made
  split at made <;> simp_all [Node.isComment, Node.isRule]

theorem opened_typeDecl {n : Node} (stands : Stands source n) (made : isTypeDecl n = true) :
    Opened source n :=
  stands.opened (plain_of_isTypeDecl made).1 (plain_of_isTypeDecl made).2

/-- A type keeps all comments but its stray ones, beside its documentation. -/
theorem accounts_typeDecl {n : Node} (stands : Stands source n) (made : isTypeDecl n = true)
    {doc : Option Text} {docs : List Text} (documented : Accounts (Layout.docPieces doc) docs []) :
    Accounts (typeDecl source doc n).pieces
      (docs ++ noted source n ++ (echoInType source n).flatMap (noted source))
      ((strayInType source n).flatMap (noted source)) := by
  have opened := opened_typeDecl stands made
  obtain ⟨headed, some_, last⟩ := (stands.spec opened.plain).2.1.typeDecl made
  obtain ⟨body, found⟩ := Option.isSome_iff_exists.mp some_
  obtain ⟨stands', part, -⟩ := opened.child found
  obtain ⟨middle, name, named, namePart, shape, head⟩ := accounts_head stands opened headed
  -- The body is the last child, so what stands behind the name ends in it.
  obtain ⟨inner, behind⟩ : ∃ inner, behindName n = inner ++ [body] := by
    rw [← List.getLast?_eq_some_iff]
    simp only [found, shape, List.getLast?_append, List.getLast?_cons, Option.some_or,
      Option.some.injEq] at last
    cases ends : (behindName n).getLast? with
    | none =>
        rw [ends, Option.getD_none] at last
        rw [← last, namePart] at part
        exact absurd part (by decide)
    | some final => rw [← last, ends, Option.getD_some]
  have tiled := opened.tiled
  rw [shape, behind, ← List.singleton_append (l := inner ++ [body]), ← List.append_assoc,
    ← List.append_assoc] at tiled
  obtain ⟨cut, below⟩ := tiled.behind stands.cutStart
  simp only [List.foldl_append, List.foldl_cons, List.foldl_nil] at cut below
  have header := below.before.accounts_between cut
  have typeBody := accounts_typeBody stands' (stands'.opened_part (.inl part))
    (!(bodyMembers source body).isEmpty)
  have opening := (documented.append (accounts_modifiers opened headed)).append
    (head.append (header.append (Accounts.fixed "\x7b" (by decide))))
  have whole := (opening.append typeBody).append (Accounts.fixed "\x7d" (by decide))
  rw [← List.append_assoc] at whole
  unfold typeDecl strayInType echoInType
  rw [named, found]
  refine whole.rebalance fun c => ?_
  rw [opened.noted_eq, shape, behind]
  simp only [List.flatMap_append, List.flatMap_cons, List.flatMap_nil, List.append_nil,
    List.count_append, Option.toList_some, List.count_nil]
  omega

theorem bracketed_typeDecl {n : Node} (stands : Stands source n) (made : isTypeDecl n = true)
    (doc : Option Text) : ∀ m ∈ (typeDecl source doc n).members, m.Bracketed := by
  have opened := opened_typeDecl stands made
  unfold typeDecl
  dsimp only
  cases found : n.child? .body with
  | none => simp
  | some body =>
      obtain ⟨stands', part, -⟩ := opened.child found
      exact bracketed_bodyMembers (stands'.opened_part (.inl part))

/-- The comments that a child of the root loses. -/
def strayInItem (source : Text) (n : Node) : List Node :=
  if isTypeDecl n then strayInType source n else []

/-- The comments that an entry of a unit holds twice. -/
def Entry.itemEcho (source : Text) : Entry → List Node
  | .loose _ => []
  | .child pending n =>
    if isTypeDecl n then (innerDoc source pending n).toList ++ echoInType source n else []

theorem accounts_item {pending : Option Node} {n : Node} (stands : Stands source n)
    (stand : ∀ d ∈ pending, Stands source d) (placed : pending = none ∨ isTypeDecl n = true) :
    Accounts (item source (.child pending n)).pieces
      ((pending.toList ++ n :: Entry.itemEcho source (.child pending n)).flatMap (noted source))
      ((strayInItem source n).flatMap (noted source)) := by
  unfold item Entry.itemEcho strayInItem
  dsimp only
  by_cases made : isTypeDecl n = true
  · have doc := accounts_doc (opened_typeDecl stands made) stand
    rw [if_pos made, if_pos made, if_pos made]
    refine (accounts_typeDecl stands made doc).rebalance fun c => ?_
    simp
    omega
  · rw [placed.resolve_right made, if_neg made, if_neg made, if_neg made]
    have kept : Accounts [Piece.free (verbatim source n)] (([] ++ [n]).flatMap (noted source)) [] :=
      stands.accounts_verbatim.rebalance fun c => by simp
    have folded : Accounts [Piece.free (collapsed source n)] (([] ++ [n]).flatMap (noted source))
        [] := stands.accounts_free.rebalance fun c => by simp
    split
    · exact folded
    · split
      · exact folded
      · split <;> exact kept

end Rethrow.Reading
