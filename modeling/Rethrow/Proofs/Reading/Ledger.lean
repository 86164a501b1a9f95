import Rethrow.Proofs.Lexical.Collapse
import Rethrow.Proofs.Reading.Tree
import Rethrow.Proofs.Unit.Comments

/-!
# Accounts of comments

`Accounts` balances the comments that some pieces of a unit hold against those of the part
of the source that was read into them: each comment is found there as often as the pieces
hold it and as often as it is lost. Accounts add up, so those of a unit are put together
from those of its fragments.
-/

namespace Rethrow.Reading

open Java Lexical

/-- The comments in `found` are those that the pieces hold and those in `lost`, and no
piece leaves anything open that would reach the next one. -/
structure Accounts (pieces : List Piece) (found lost : List Text) : Prop where
  fits : ∀ piece ∈ pieces, commentLexing.Fits piece
  balance : ∀ c, (commentLexing.outAll pieces).count c + lost.count c = found.count c

namespace Accounts

theorem nil : Accounts [] [] [] :=
  ⟨by simp, fun _ => rfl⟩

theorem append {ps qs : List Piece} {found found' lost lost' : List Text}
    (left : Accounts ps found lost) (right : Accounts qs found' lost') :
    Accounts (ps ++ qs) (found ++ found') (lost ++ lost') := by
  refine ⟨fun piece listed => ?_, fun c => ?_⟩
  · rcases List.mem_append.mp listed with first | second
    · exact left.fits piece first
    · exact right.fits piece second
  · have first := left.balance c
    have second := right.balance c
    rw [Lexing.outAll_append, List.count_append, List.count_append, List.count_append]
    omega

/-- Pieces may be put in anywhere. -/
theorem insert {ps qs inner : List Piece} {found found' lost lost' : List Text}
    (outer : Accounts (ps ++ qs) found lost) (middle : Accounts inner found' lost') :
    Accounts (ps ++ (inner ++ qs)) (found' ++ found) (lost' ++ lost) := by
  refine ⟨fun piece listed => ?_, fun c => ?_⟩
  · simp only [List.mem_append] at listed
    rcases listed with first | between | last
    · exact outer.fits piece (List.mem_append_left _ first)
    · exact middle.fits piece between
    · exact outer.fits piece (List.mem_append_right _ last)
  · have whole := outer.balance c
    have part := middle.balance c
    simp only [Lexing.outAll_append, List.count_append] at whole ⊢
    omega

/-- Only the numbers of comments count. -/
theorem rebalance {ps : List Piece} {found found' lost lost' : List Text}
    (accounts : Accounts ps found lost)
    (same : ∀ c, found.count c + lost'.count c = found'.count c + lost.count c) :
    Accounts ps found' lost' := by
  refine ⟨accounts.fits, fun c => ?_⟩
  have balanced := accounts.balance c
  have equal := same c
  omega

theorem whole {t : Text} (closed : Closed .text t) : Accounts [Piece.whole t] (comments t) [] :=
  ⟨fun _ listed => List.mem_singleton.mp listed ▸ closed, by simp [Lexing.outAll]⟩

theorem free {t : Text} (loose : Loose .text t) : Accounts [Piece.free t] (comments t) [] :=
  ⟨fun _ listed => List.mem_singleton.mp listed ▸ loose, by simp [Lexing.outAll]⟩

theorem fixed (spelling : String) (plain : spelling.toList.all isUnmarked = true) :
    Accounts [Piece.fixed spelling] [] [] := by
  have accounts := whole (closed_plain .text plain)
  rwa [comments_plain plain] at accounts

/-- Pieces with a sign between them. -/
theorem separated (spelling : String) (plain : spelling.toList.all isUnmarked = true)
    {lists : List (List Piece)} {found lost : List Text}
    (accounts : Accounts lists.flatten found lost) :
    Accounts (Piece.separated spelling lists) found lost := by
  have sign : Accounts [Piece.fixed spelling] [] [] := fixed spelling plain
  have silent : commentLexing.outAll [Piece.fixed spelling] = [] := by
    simpa [Lexing.outAll, Piece.fixed] using comments_plain plain
  have both : (∀ piece ∈ Piece.separated spelling lists,
      piece ∈ lists.flatten ∨ piece ∈ [Piece.fixed spelling]) ∧
      commentLexing.outAll (Piece.separated spelling lists) =
        commentLexing.outAll lists.flatten := by
    unfold Piece.separated
    clear accounts
    induction lists with
    | nil => simp
    | cons ps rest ih =>
        cases rest with
        | nil => simp +contextual
        | cons qs rest =>
            rw [List.intercalate_cons_cons, Lexing.outAll_append, Lexing.outAll_append, silent,
              ih.2, List.flatten_cons, Lexing.outAll_append, List.append_nil]
            refine ⟨fun piece listed => ?_, rfl⟩
            simp only [List.mem_append] at listed ⊢
            rcases listed with (first | between) | later
            · exact .inl (.inl first)
            · exact .inr between
            · exact (ih.1 piece later).imp .inr id
  refine ⟨fun piece listed => ?_, fun c => by rw [both.2]; exact accounts.balance c⟩
  exact (both.1 piece listed).elim (accounts.fits piece) (sign.fits piece)

/-- One piece for each of some things, none of which loses a comment. -/
theorem map {α : Type} {f : α → Piece} {found : α → List Text} {xs : List α}
    (each : ∀ x ∈ xs, Accounts [f x] (found x) []) : Accounts (xs.map f) (xs.flatMap found) [] := by
  induction xs with
  | nil => exact nil
  | cons x rest ih =>
      rw [List.forall_mem_cons] at each
      exact each.1.append (ih each.2)

end Accounts

/-! ## Nodes where they stand -/

/-- A sound node between cuts of the source. -/
structure Stands (source : Text) (n : Node) : Prop where
  ordered : n.start ≤ n.stop
  cutStart : Cut source n.start
  cutStop : Cut source n.stop
  sound : Sound source n

/-- A node that is tiled by its children and has their comments. -/
structure Opened (source : Text) (n : Node) : Prop where
  plain : n.isComment = false
  tiled : Tiled source n.start n.children n.stop
  children : ∀ c ∈ n.children, Stands source c
  noted_eq : noted source n = n.children.flatMap (noted source)

section

variable {source : Text} {n : Node}

theorem kind_of_isRule {rule : Rule} (made : n.isRule rule = true) : n.kind = .rule rule := by
  simpa [Node.isRule] using made

theorem isRule_node {kind : Kind} {rule : Rule} (made : kind = .rule rule) {field : Option Field}
    {start stop : Nat} {children : List Node} :
    (Node.node kind field start stop children).isRule rule = true := by
  simp [Node.isRule, Node.kind, made]

theorem plain_of_isRule {rule : Rule} (made : n.isRule rule = true) : n.isComment = false := by
  simp [Node.isComment, kind_of_isRule made]

theorem isRule_of_token (token : n.isNamed = false) (rule : Rule) : n.isRule rule = false := by
  have kind : n.kind = .token := by simpa [Node.isNamed] using token
  simp [Node.isRule, kind]

theorem isRule_of_comment (comment : n.isComment = true) (rule : Rule) : n.isRule rule = false := by
  by_contra made
  have plain := plain_of_isRule (by simpa using made)
  simp [comment] at plain

theorem SoundAll.mem {nodes : List Node} (sound : SoundAll source nodes) :
    ∀ n ∈ nodes, Sound source n := by
  induction nodes with
  | nil => simp
  | cons first rest ih =>
      rw [SoundAll] at sound
      rw [List.forall_mem_cons]
      exact ⟨sound.1, ih sound.2⟩

theorem stands_of_tiled {start stop : Nat} {nodes : List Node}
    (tiled : Tiled source start nodes stop) (sound : SoundAll source nodes) :
    ∀ n ∈ nodes, Stands source n := by
  intro n listed
  obtain ⟨-, ordered, cutStart, cutStop⟩ := tiled.cuts listed
  exact ⟨ordered, cutStart, cutStop, sound.mem n listed⟩

namespace Stands

theorem loose (stands : Stands source n) : Loose .text (textOf source n) :=
  stands.cutStart.loose_slice stands.cutStop stands.ordered

/-- What soundness says of a node that is no comment. -/
theorem spec (stands : Stands source n) (plain : n.isComment = false) :
    Whole source n ∧ DeclShaped n ∧ StmtShaped n ∧ TextShaped source n ∧
      if n.kind = .rule .stringLiteral then Tiled source n.start [] n.stop
      else Tiled source n.start n.children n.stop ∧ SoundAll source n.children := by
  obtain ⟨kind, field, start, stop, children⟩ := n
  have sound := stands.sound
  rw [Sound, plain] at sound
  exact (sound.resolve_left (by simp)).2

/-- A node that plays a part is no comment. -/
theorem plain_of_field (stands : Stands source n) {field : Field} (part : n.field = some field) :
    n.isComment = false := by
  obtain ⟨kind, field', start, stop, children⟩ := n
  have sound := stands.sound
  rw [Sound] at sound
  rcases sound with ⟨-, none⟩ | ⟨plain, -⟩
  · rw [Node.field, none] at part
    exact absurd part (by simp)
  · exact plain

theorem whole (stands : Stands source n) (plain : n.isComment = false) : Whole source n :=
  (stands.spec plain).1

/-- A node that is neither a comment nor a literal has the comments of its children. -/
theorem opened (stands : Stands source n) (plain : n.isComment = false)
    (other : n.isRule .stringLiteral = false) : Opened source n := by
  obtain ⟨-, -, -, -, tiles⟩ := stands.spec plain
  rw [if_neg (by simpa [Node.isRule] using other)] at tiles
  exact ⟨plain, tiles.1, stands_of_tiled tiles.1 tiles.2, tiles.1.comments_slice stands.cutStart⟩

theorem opened_rule (stands : Stands source n) {rule : Rule} (made : n.isRule rule = true)
    (other : rule ≠ .stringLiteral) : Opened source n := by
  refine stands.opened (plain_of_isRule made) ?_
  simpa [Node.isRule, kind_of_isRule made] using other

/-- Bodies and argument lists are no literals. -/
theorem opened_part (stands : Stands source n)
    (part : n.field = some .body ∨ n.field = some .arguments) : Opened source n := by
  have plain : n.isComment = false := part.elim stands.plain_of_field stands.plain_of_field
  refine stands.opened plain ?_
  by_contra literal
  have neither := (stands.spec plain).2.2.2.1.literal (by simpa using literal)
  exact part.elim neither.1 neither.2

theorem noted_token (stands : Stands source n) (token : n.isNamed = false) :
    noted source n = [] := by
  have kind : n.kind = .token := by simpa [Node.isNamed] using token
  have plain : n.isComment = false := by simp [Node.isComment, kind]
  have opened := stands.opened plain (by simp [Node.isRule, kind])
  rw [opened.noted_eq, (stands.spec plain).2.2.2.1.token kind]
  rfl

/-! The fragments that a node is read into -/

theorem accounts_verbatim (stands : Stands source n) :
    Accounts [Piece.free (verbatim source n)] (noted source n) [] := by
  have accounts := Accounts.free (loose_dedent stands.loose (columnAt source n.start))
  rwa [(comments_dedent _ _).1] at accounts

theorem accounts_text (stands : Stands source n) (plain : n.isComment = false) :
    Accounts [Piece.whole (textOf source n)] (noted source n) [] :=
  Accounts.whole (stands.whole plain).closed

theorem accounts_collapsed (stands : Stands source n) (plain : n.isComment = false) :
    Accounts [Piece.whole (collapsed source n)] (noted source n) [] := by
  have whole := stands.whole plain
  have accounts := Accounts.whole (closed_collapse whole.closed whole.firm)
  rwa [(comments_collapse _).1] at accounts

theorem accounts_free (stands : Stands source n) :
    Accounts [Piece.free (collapsed source n)] (noted source n) [] := by
  have accounts := Accounts.free (loose_collapse stands.loose)
  rwa [(comments_collapse _).1] at accounts

end Stands

/-- The nodes between two offsets, collapsed. -/
theorem Tiled.accounts_between {start stop : Nat} {nodes : List Node}
    (tiled : Tiled source start nodes stop) (cut : Cut source start) :
    Accounts [Piece.free (between source start stop)] (nodes.flatMap (noted source)) [] := by
  have accounts := Accounts.free (loose_collapse (tiled.loose_slice cut))
  rwa [(comments_collapse _).1, tiled.comments_slice cut] at accounts

/-- Tokens hold no comments. -/
theorem flatMap_noted_tokens {nodes : List Node} (stand : ∀ n ∈ nodes, Stands source n)
    (tokens : ∀ n ∈ nodes, n.isNamed = false) : nodes.flatMap (noted source) = [] :=
  List.flatMap_eq_nil_iff.mpr fun n among => (stand n among).noted_token (tokens n among)

theorem count_parts {nodes : List Node} (stand : ∀ n ∈ nodes, Stands source n) (c : Text) :
    (nodes.flatMap (noted source)).count c =
      ((parts nodes).flatMap (noted source)).count c +
        ((nodes.filter Node.isComment).flatMap (noted source)).count c := by
  induction nodes with
  | nil => rfl
  | cons n rest ih =>
      rw [List.forall_mem_cons] at stand
      have below := ih stand.2
      have shape : parts (n :: rest) =
          if n.isNamed && !n.isComment then n :: parts rest else parts rest := by
        simp [parts, List.filter_cons]
      rw [List.flatMap_cons, List.count_append, shape, List.filter_cons]
      by_cases comment : n.isComment = true
      · simp only [comment, Bool.not_true, Bool.and_false, if_true, List.flatMap_cons,
          List.count_append]
        simp only [Bool.false_eq_true, if_false]
        omega
      · by_cases named : n.isNamed = true
        · simp only [comment, named, Bool.not_false, Bool.and_true, if_true, List.flatMap_cons,
            List.count_append]
          simp only [Bool.false_eq_true, if_false]
          omega
        · rw [stand.1.noted_token (by simpa using named)]
          simp only [comment, named, Bool.false_and, Bool.false_eq_true, if_false, List.count_nil]
          omega

end

end Rethrow.Reading
