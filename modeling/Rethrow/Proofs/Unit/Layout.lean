import Rethrow.Proofs.Unit.Lexing

/-!
# The layout of a unit, read piece by piece

Bottom up, from expressions over statements, signatures, members and types to units: what
the layout of a node is read as are the pieces of the node, in their order. A node is read
that way whatever stands around it, because the layout puts a separator on either side.

`CompUnit.out_render` is the result for whole units. It holds for every lexing.
-/

namespace Rethrow

theorem Piece.mem_separated {sign : String} {lists : List (List Piece)} {ps : List Piece}
    {piece : Piece} (listed : ps ∈ lists) (found : piece ∈ ps) :
    piece ∈ Piece.separated sign lists := by
  unfold Piece.separated
  induction lists with
  | nil => simp at listed
  | cons first rest ih =>
      cases rest with
      | nil => simp_all
      | cons second rest =>
          rw [List.intercalate_cons_cons]
          rcases List.mem_cons.mp listed with rfl | later
          · simp [found]
          · exact List.mem_append_right _ (ih later)

section

variable {α : Type} {L : Lexing α}

namespace Lexing

theorem spells_lead (spelling : String)
    (plain : spelling.toList.all isUnmarked = true) :
    L.Spells false (spelling.toList ++ [' ']) [Piece.fixed spelling] := by
  simpa using (L.spells_fixed spelling plain).append L.spells_space (joint_cons (by decide))

theorem spells_commas {texts : List Text} {lists : List (List Piece)}
    (each : List.Forall₂ (L.Spells false) texts lists) :
    L.Spells false (Text.joinWith ", ".toList texts) (Piece.separated "," lists) :=
  Spells.joinWith (spells_lead "," (by decide)) (fun _ => joint_cons (c := ',') (by decide))
    (fun t u => by
      have joint : Joint ((t ++ [',']) ++ [' ']) u := joint_concat (by decide)
      simpa using joint) each

theorem spells_bars {texts : List Text} {lists : List (List Piece)}
    (each : List.Forall₂ (L.Spells false) texts lists) :
    L.Spells false (Text.joinWith " | ".toList texts) (Piece.separated "|" lists) :=
  Spells.joinWith
    (L.spells_space.append (spells_lead "|" (by decide)) (joint_cons (by decide)))
    (fun _ => joint_cons (c := ' ') (by decide))
    (fun t u => by
      have joint : Joint ((t ++ [' ', '|']) ++ [' ']) u := joint_concat (by decide)
      simpa using joint) each

/-- Fragments that are complete in themselves, each a list of pieces of its own. -/
theorem spells_each {texts : List Text} (fits : ∀ t ∈ texts, L.Fits (Piece.whole t)) :
    List.Forall₂ (L.Spells false) texts (texts.map fun t => [Piece.whole t]) := by
  induction texts with
  | nil => exact .nil
  | cons t rest ih =>
      rw [List.forall_mem_cons] at fits
      exact .cons fits.1.spells (ih fits.2)

theorem fits_of_separated {sign : String} {texts : List Text}
    (fits : ∀ piece ∈ Piece.separated sign (texts.map fun t => [Piece.whole t]), L.Fits piece) :
    ∀ t ∈ texts, L.Fits (Piece.whole t) :=
  fun _ listed => fits _ (Piece.mem_separated (List.mem_map_of_mem listed) (by simp))

end Lexing

open Lexing

/-! ## Expressions -/

mutual

/-- An expression is read as its pieces. -/
theorem Expr.spells_render : ∀ e : Expr, (∀ piece ∈ e.pieces, L.Fits piece) →
    L.Spells false e.render e.pieces
  | .create typeName arguments, fits => by
      simp only [Expr.pieces, List.cons_append, List.forall_mem_cons,
        List.forall_mem_append] at fits
      obtain ⟨-, named, -, inner, -⟩ := fits
      have listed := spells_commas (Expr.spells_renderList arguments
        fun ps listed piece found => inner piece (Piece.mem_separated listed found))
      have lead := (spells_lead "new" (by decide)).append named.spells
        (joint_concat (by decide))
      have opened := lead.append (L.spells_fixed "(" (by decide)) (joint_cons (by decide))
      exact (opened.append listed (joint_concat (by decide))).append
        (L.spells_fixed ")" (by decide)) (joint_cons (by decide))
  | .string escaped, fits => (fits _ (List.mem_singleton_self _)).spells
  | .name text, fits => (fits _ (List.mem_singleton_self _)).spells
  | .verbatim text, fits => (fits _ (List.mem_singleton_self _)).spells

theorem Expr.spells_renderList : ∀ es : List Expr,
    (∀ ps ∈ Expr.piecesOf es, ∀ piece ∈ ps, L.Fits piece) →
      List.Forall₂ (L.Spells false) (Expr.renderList es) (Expr.piecesOf es)
  | [], _ => .nil
  | e :: rest, fits => by
      rw [Expr.piecesOf, List.forall_mem_cons] at fits
      exact .cons (Expr.spells_render e fits.1) (Expr.spells_renderList rest fits.2)

end

/-! ## Statements -/

theorem Lexing.spells_catchHeader {types : List Text} {binder : Text}
    (caught : ∀ t ∈ types, L.Fits (Piece.whole t)) (bound : L.Fits (Piece.whole binder)) :
    L.Spells false (Layout.catchHeader types binder)
      (Piece.fixed "\x7d" :: Piece.fixed "catch" :: Piece.fixed "(" ::
        Piece.separated "|" (types.map fun t => [Piece.whole t]) ++
        [Piece.whole binder, Piece.fixed ")", Piece.fixed "\x7b"]) := by
  have opened := ((spells_lead "\x7d" (by decide)).append
    (spells_lead (L := L) "catch" (by decide)) (joint_concat (by decide))).append
    (L.spells_fixed "(" (by decide)) (joint_cons (by decide))
  have listed := opened.append (spells_bars (spells_each caught)) (joint_concat (by decide))
  have named := (listed.append L.spells_space (joint_cons (by decide))).append bound.spells
    (joint_concat (by decide))
  have closed := (spells_lead ")" (by decide)).append (L.spells_fixed "\x7b" (by decide))
    (joint_cons (by decide))
  have all : L.Spells false (Layout.catchHeader types binder) _ :=
    named.append closed (joint_cons (by decide))
  simpa only [List.append_nil, List.append_assoc, List.cons_append, List.nil_append] using all

mutual

/-- A statement is read as its pieces, at every depth. -/
theorem Stmt.spells_rows (depth : Nat) : ∀ s : Stmt, (∀ piece ∈ s.pieces, L.Fits piece) →
    L.SpellsRows (s.rows depth) s.pieces
  | .comment text, fits => (fits _ (List.mem_singleton_self _)).ofText depth
  | .delegate text, fits => (fits _ (List.mem_singleton_self _)).ofText depth
  | .verbatim text, fits => (fits _ (List.mem_singleton_self _)).ofText depth
  | .throw value, fits => by
      simp only [Stmt.pieces, List.cons_append, List.forall_mem_cons,
        List.forall_mem_append] at fits
      have thrown := (spells_lead "throw" (by decide)).append
        (value.spells_render fits.2.1) (joint_concat (by decide))
      exact (thrown.append (L.spells_fixed ";" (by decide)) (joint_cons (by decide))).ofText depth
  | .guarded body catches finish, fits => by
      simp only [Stmt.pieces, List.cons_append, List.forall_mem_cons,
        List.forall_mem_append] at fits
      obtain ⟨-, -, ⟨⟨bodyFits, catchesFit⟩, finishFits⟩, -⟩ := fits
      have opening := ((spells_lead "try" (by decide)).append (L.spells_fixed "\x7b" (by decide))
        (joint_cons (by decide))).atDepth depth
      have closing := (L.spells_fixed "\x7d" (by decide)).atDepth depth
      have guarded := opening.append (Stmt.spells_rowsList (depth + 1) body bodyFits)
      exact ((guarded.append (Catch.spells_rowsList depth catches catchesFit)).append
        (Stmt.spells_rowsFinish depth finish finishFits)).append closing

theorem Stmt.spells_rowsList (depth : Nat) : ∀ body : List Stmt,
    (∀ piece ∈ Stmt.piecesOf body, L.Fits piece) →
      L.SpellsRows (Stmt.rowsList depth body) (Stmt.piecesOf body)
  | [], _ => L.spellsRows_nil
  | s :: rest, fits => by
      rw [Stmt.piecesOf, List.forall_mem_append] at fits
      exact (Stmt.spells_rows depth s fits.1).append (Stmt.spells_rowsList depth rest fits.2)

theorem Stmt.spells_rowsFinish (depth : Nat) : ∀ finish : Option (List Stmt),
    (∀ piece ∈ Stmt.finishPieces finish, L.Fits piece) →
      L.SpellsRows (Stmt.rowsFinish depth finish) (Stmt.finishPieces finish)
  | none, _ => L.spellsRows_nil
  | some body, fits => by
      simp only [Stmt.finishPieces, List.forall_mem_cons] at fits
      have opening := (((spells_lead "\x7d" (by decide)).append
        (spells_lead (L := L) "finally" (by decide)) (joint_concat (by decide))).append
        (L.spells_fixed "\x7b" (by decide)) (joint_cons (by decide))).atDepth depth
      exact opening.append (Stmt.spells_rowsList (depth + 1) body fits.2.2.2)

theorem Catch.spells_rowsList (depth : Nat) : ∀ catches : List Catch,
    (∀ piece ∈ Catch.piecesOf catches, L.Fits piece) →
      L.SpellsRows (Catch.rowsList depth catches) (Catch.piecesOf catches)
  | [], _ => L.spellsRows_nil
  | .clause types binder body :: rest, fits => by
      simp only [Catch.piecesOf, List.cons_append, List.forall_mem_cons,
        List.forall_mem_append] at fits
      obtain ⟨-, -, -, ⟨caught, bound, -, -, bodyFits⟩, restFits⟩ := fits
      have header := (spells_catchHeader (fits_of_separated caught) bound).atDepth depth
      have clause := (header.append (Stmt.spells_rowsList (depth + 1) body bodyFits)).append
        (Catch.spells_rowsList depth rest restFits)
      simpa only [Catch.rowsList, Catch.piecesOf, List.append_assoc, List.cons_append,
        List.nil_append] using clause

end

/-! ## Signatures -/

namespace Lexing

theorem joint_keywordLead (modifiers : Modifiers) (t : Text) :
    Joint (Layout.keywordLead modifiers) t :=
  joint_flatMap (c := ' ') (by decide) (fun keyword => ⟨keyword, rfl⟩) modifiers.keywords t

theorem spells_keywordLead {modifiers : Modifiers}
    (fits : ∀ piece ∈ modifiers.keywords.map Piece.whole, L.Fits piece) :
    L.Spells false (Layout.keywordLead modifiers) (modifiers.keywords.map Piece.whole) := by
  obtain ⟨annotations, keywords⟩ := modifiers
  unfold Layout.keywordLead
  dsimp only at fits ⊢
  induction keywords with
  | nil => exact L.spells_nil
  | cons keyword rest ih =>
      rw [List.map_cons, List.forall_mem_cons] at fits
      have spaced := fits.1.spells.append L.spells_space (joint_cons (by decide))
      exact spaced.append (ih fits.2) (joint_concat (by decide))

theorem spells_signatureStart {modifiers : Modifiers} {lead name : Text}
    (keywordsFit : ∀ piece ∈ modifiers.keywords.map Piece.whole, L.Fits piece)
    (leadFits : L.Fits (Piece.free lead)) (nameFits : L.Fits (Piece.whole name)) :
    L.Spells false (Layout.signatureStart modifiers lead name)
      (modifiers.keywords.map Piece.whole ++ [Piece.free lead, Piece.whole name]) := by
  have keywords := spells_keywordLead keywordsFit
  unfold Layout.signatureStart
  split
  · rename_i empty
    have named := keywords.append nameFits.spells (joint_keywordLead modifiers name)
    exact named.insert (by simpa using empty)
  · have led := keywords.append leadFits.spells (joint_keywordLead modifiers lead)
    have named : L.Spells false _ _ := led.pushToken nameFits.spells (.inl rfl)
    simpa only [Piece.text_free, Piece.text_whole, List.append_assoc, List.cons_append,
      List.nil_append] using named

theorem joint_throwsClause (t : Text) (throws : List Text) :
    Joint t (Layout.throwsClause throws) := by
  unfold Layout.throwsClause
  split
  · exact .inr (.inl rfl)
  · exact joint_cons (c := ' ') (by decide)

theorem spells_throwsClause {throws : List Text}
    (fits : ∀ piece ∈ Layout.throwsPieces throws, L.Fits piece) :
    L.Spells false (Layout.throwsClause throws) (Layout.throwsPieces throws) := by
  unfold Layout.throwsClause
  unfold Layout.throwsPieces at fits ⊢
  split
  · exact L.spells_nil
  · rename_i some
    rw [if_neg some, List.forall_mem_cons] at fits
    have lead := L.spells_space.append (spells_lead (L := L) "throws" (by decide))
      (joint_concat (a := []) (by decide))
    exact lead.append (spells_commas (spells_each (fits_of_separated fits.2)))
      (joint_concat (a := " throws".toList) (c := ' ') (by decide))

theorem spells_docRows {doc : Option Text} (depth : Nat)
    (fits : ∀ piece ∈ Layout.docPieces doc, L.Fits piece) :
    L.SpellsRows (Layout.docRows depth doc) (Layout.docPieces doc) := by
  cases doc with
  | none => exact L.spellsRows_nil
  | some content => exact (fits (Piece.free content) (by simp [Layout.docPieces])).ofText depth

theorem spells_annotationRows {modifiers : Modifiers} (depth : Nat)
    (fits : ∀ piece ∈ modifiers.annotations.map Piece.free, L.Fits piece) :
    L.SpellsRows (Layout.annotationRows depth modifiers)
      (modifiers.annotations.map Piece.free) := by
  obtain ⟨annotations, keywords⟩ := modifiers
  unfold Layout.annotationRows
  dsimp only at fits ⊢
  induction annotations with
  | nil => exact L.spellsRows_nil
  | cons annotation rest ih =>
      rw [List.map_cons, List.forall_mem_cons] at fits
      exact (fits.1.ofText depth).append (ih fits.2)

theorem spells_blockRows {signature : Text} {ps : List Piece} {body : List Stmt} (depth : Nat)
    (spells : L.Spells false signature ps)
    (fits : ∀ piece ∈ Layout.blockPieces body, L.Fits piece) :
    L.SpellsRows (Layout.blockRows depth signature body) (ps ++ Layout.blockPieces body) := by
  simp only [Layout.blockPieces, List.cons_append, List.forall_mem_cons,
    List.forall_mem_append] at fits
  have opening := (spells.pushToken (L.spells_fixed "\x7b" (by decide)) (.inl rfl)).ofText depth
  have closing := (L.spells_fixed "\x7d" (by decide)).atDepth depth
  have block : L.SpellsRows (Layout.blockRows depth signature body) _ :=
    (opening.append (Stmt.spells_rowsList (depth + 1) body fits.2.1)).append closing
  simpa only [Layout.blockPieces, List.append_assoc, List.cons_append, List.nil_append] using block

end Lexing

/-! ## Members, types and units -/

/-- A method is read as its pieces. -/
theorem Procedure.spells_rows (depth : Nat) (p : Procedure)
    (bracketed : (Member.procedure p).Bracketed) (fits : ∀ piece ∈ p.pieces, L.Fits piece) :
    L.SpellsRows (p.rows depth) p.pieces := by
  simp only [Procedure.pieces, Layout.modifierPieces, List.forall_mem_append,
    List.forall_mem_cons] at fits
  obtain ⟨⟨⟨⟨docFits, annotationsFit, keywordsFit⟩, leadFits, nameFits, parametersFit,
    dimensionsFit, -⟩, throwsFit⟩, endFits⟩ := fits
  obtain ⟨parenthesis, bracket⟩ := bracketed
  have opened := (spells_signatureStart keywordsFit leadFits nameFits).append
    parametersFit.spells (joint_of_head? parenthesis (by decide))
  have joint : ∀ t, Joint t p.dimensions := by
    intro t
    rcases bracket with empty | square | marked
    · exact .inr (.inl empty)
    · exact joint_of_head? square (by decide)
    · exact joint_of_head? marked (by decide)
  have signature : L.Spells false p.signature _ :=
    (opened.append dimensionsFit.spells (joint _)).append (spells_throwsClause throwsFit)
      (joint_throwsClause _ _)
  have above := (spells_docRows depth docFits).append (spells_annotationRows depth annotationsFit)
  unfold Procedure.rows
  cases body : p.body with
  | some statements =>
      simp only [body] at endFits
      have whole := above.append (spells_blockRows depth signature endFits)
      simpa only [Procedure.pieces, Layout.modifierPieces, body, List.append_assoc,
        List.cons_append, List.nil_append] using whole
  | none =>
      have ended : L.Spells false (Layout.pushToken p.signature [] [';']) _ :=
        signature.pushToken (L.spells_fixed ";" (by decide)) (.inr ⟨rfl, ';', rfl, by decide⟩)
      have whole := above.append (ended.ofText depth)
      simpa only [Procedure.pieces, Layout.modifierPieces, body, List.append_assoc,
        List.cons_append, List.nil_append] using whole

/-- A constructor is read as its pieces. -/
theorem Constructor.spells_rows (depth : Nat) (c : Constructor)
    (bracketed : (Member.constructor c).Bracketed) (fits : ∀ piece ∈ c.pieces, L.Fits piece) :
    L.SpellsRows (c.rows depth) c.pieces := by
  simp only [Constructor.pieces, Layout.modifierPieces, List.forall_mem_append,
    List.forall_mem_cons] at fits
  obtain ⟨⟨⟨⟨docFits, annotationsFit, keywordsFit⟩, leadFits, nameFits, parametersFit, -⟩,
    throwsFit⟩, bodyFits⟩ := fits
  have joint : ∀ t, Joint t (c.parameters.getD []) := by
    intro t
    cases parameters : c.parameters with
    | none => exact .inr (.inl rfl)
    | some list => exact joint_of_head? (bracketed list parameters) (by decide)
  have signature : L.Spells false c.signature _ :=
    ((spells_signatureStart keywordsFit leadFits nameFits).append parametersFit.spells
      (joint _)).append (spells_throwsClause throwsFit) (joint_throwsClause _ _)
  have above := (spells_docRows depth docFits).append (spells_annotationRows depth annotationsFit)
  have whole := above.append (spells_blockRows depth signature bodyFits)
  simpa only [Constructor.rows, Constructor.pieces, Layout.modifierPieces, List.append_assoc,
    List.cons_append, List.nil_append] using whole

theorem Member.spells_rows (depth : Nat) (m : Member) (bracketed : m.Bracketed)
    (fits : ∀ piece ∈ m.pieces, L.Fits piece) : L.SpellsRows (m.rows depth) m.pieces := by
  cases m with
  | procedure p => exact p.spells_rows depth bracketed fits
  | constructor c => exact c.spells_rows depth bracketed fits
  | field text => exact (fits _ (List.mem_singleton_self _)).ofText depth
  | nested name text => exact (fits _ (List.mem_singleton_self _)).ofText depth
  | other text => exact (fits _ (List.mem_singleton_self _)).ofText depth

namespace Lexing

theorem spells_memberRows (depth : Nat) (apart : Bool) (members : List Member)
    (bracketed : ∀ m ∈ members, m.Bracketed)
    (fits : ∀ piece ∈ members.flatMap Member.pieces, L.Fits piece) :
    L.SpellsRows (Layout.memberRows depth apart members) (members.flatMap Member.pieces) := by
  induction members generalizing apart with
  | nil => exact L.spellsRows_nil
  | cons m rest ih =>
      rw [List.forall_mem_cons] at bracketed
      rw [List.flatMap_cons, List.forall_mem_append] at fits
      have gap : L.SpellsRows (if apart then [Row.blank] else []) [] := by
        split
        · exact spellsRows_blank
        · exact L.spellsRows_nil
      exact (gap.append (m.spells_rows depth bracketed.1 fits.1)).append
        (ih m.standsApart bracketed.2 fits.2)

/-- Whether the semicolon behind the constants stands on their last row or on a row of its
own, it is read behind them. -/
theorem spells_constantRows (depth : Nat) (constants : Text) (hasMembers : Bool)
    (fits : L.Fits (Piece.free constants)) :
    L.SpellsRows (Layout.constantRows depth constants hasMembers)
      (Layout.constantPieces (some constants) hasMembers) := by
  have terminator : L.SpellsRows (if hasMembers then [Row.atDepth depth [';']] else [])
      (if hasMembers then [Piece.fixed ";"] else []) := by
    split
    · exact (L.spells_fixed ";" (by decide)).atDepth depth
    · exact L.spellsRows_nil
  unfold Layout.constantRows Layout.constantPieces
  dsimp only
  split
  · rename_i empty
    have absent : (Piece.free constants).text = [] := by simpa using empty
    exact @Spells.insert _ _ _ _ [] _ _ absent terminator
  · split
    · rename_i complete
      simp only [Bool.and_eq_true, Bool.not_eq_true'] at complete
      have closed : L.Spells false constants [Piece.free constants] :=
        ⟨L.closed_of_loose fits complete.2, fits.spells.out⟩
      rw [if_pos complete.1]
      exact (closed.append (L.spells_fixed ";" (by decide)) (joint_cons (by decide))).ofText depth
    · exact (fits.ofText depth).append terminator

end Lexing

theorem TypeDecl.spells_opening (decl : TypeDecl)
    (keywordsFit : ∀ piece ∈ decl.modifiers.keywords.map Piece.whole, L.Fits piece)
    (keywordFits : L.Fits (Piece.free decl.keyword)) (nameFits : L.Fits (Piece.whole decl.name))
    (headerFits : L.Fits (Piece.free decl.header)) :
    L.Spells false decl.opening (decl.modifiers.keywords.map Piece.whole ++
      [Piece.free decl.keyword, Piece.whole decl.name, Piece.free decl.header,
        Piece.fixed "\x7b"]) := by
  have lead := (spells_keywordLead keywordsFit).append keywordFits.spells
    (joint_keywordLead decl.modifiers decl.keyword)
  have named := lead.pushToken nameFits.spells (.inl rfl)
  have brace := L.spells_fixed "\x7b" (by decide)
  unfold TypeDecl.opening
  dsimp only
  split
  · rename_i empty
    have opened : L.Spells false (Layout.pushToken _ [' '] ['{']) _ :=
      named.pushToken brace (.inl rfl)
    have absent : (Piece.free decl.header).text = [] := by simpa using empty
    have skipped := opened.insert absent
    simpa only [Piece.text_free, Piece.text_whole, List.append_assoc, List.cons_append,
      List.nil_append] using skipped
  · -- The header stands right behind the name where its first sign keeps it apart.
    have apart : Layout.headerSeparator decl.header = [' '] ∨
        Layout.headerSeparator decl.header = [] ∧
          ∃ c, decl.header.head? = some c ∧ isSeparator c = true := by
      unfold Layout.headerSeparator
      split <;> simp_all [isSeparator]
    have opened : L.Spells false (Layout.pushToken _ [' '] ['{']) _ :=
      (named.pushToken headerFits.spells apart).pushToken brace (.inl rfl)
    simpa only [Piece.text_free, Piece.text_whole, List.append_assoc, List.cons_append,
      List.nil_append] using opened

/-- A type declaration is read as its pieces. -/
theorem TypeDecl.spells_rows (decl : TypeDecl) (bracketed : ∀ m ∈ decl.members, m.Bracketed)
    (fits : ∀ piece ∈ decl.pieces, L.Fits piece) : L.SpellsRows decl.rows decl.pieces := by
  simp only [TypeDecl.pieces, Layout.modifierPieces, List.forall_mem_append,
    List.forall_mem_cons] at fits
  obtain ⟨⟨⟨⟨⟨docFits, annotationsFit, keywordsFit⟩, keywordFits, nameFits, headerFits, -⟩,
    constantsFit⟩, membersFit⟩, -⟩ := fits
  have above := (spells_docRows 0 docFits).append (spells_annotationRows 0 annotationsFit)
  have opened := above.append
    ((decl.spells_opening keywordsFit keywordFits nameFits headerFits).ofText 0)
  have closing : L.SpellsRows [Row.atDepth 0 ['}']] _ :=
    (L.spells_fixed "\x7d" (by decide)).atDepth 0
  cases listed : decl.enumConstants with
  | none =>
      have members := spells_memberRows 1 false decl.members bracketed membersFit
      have whole := (opened.append members).append closing
      simpa only [TypeDecl.rows, TypeDecl.pieces, Layout.modifierPieces, Layout.constantPieces,
        listed, List.append_assoc, List.cons_append, List.nil_append, List.append_nil] using whole
  | some constants =>
      rw [listed] at constantsFit
      have above := opened.append (spells_constantRows 1 constants (!decl.members.isEmpty)
        (constantsFit _ (by simp [Layout.constantPieces])))
      have members := spells_memberRows 1 (!constants.isEmpty || !decl.members.isEmpty)
        decl.members bracketed membersFit
      have whole := (above.append members).append closing
      simpa only [TypeDecl.rows, TypeDecl.pieces, Layout.modifierPieces, listed,
        List.append_assoc, List.cons_append, List.nil_append] using whole

theorem Item.spells_rows (item : Item)
    (bracketed : ∀ decl, item = .typeDecl decl → ∀ m ∈ decl.members, m.Bracketed)
    (fits : ∀ piece ∈ item.pieces, L.Fits piece) : L.SpellsRows item.rows item.pieces := by
  cases item with
  | packageDecl text => exact (fits _ (List.mem_singleton_self _)).ofText 0
  | importDecl text => exact (fits _ (List.mem_singleton_self _)).ofText 0
  | comment text => exact (fits _ (List.mem_singleton_self _)).ofText 0
  | other text => exact (fits _ (List.mem_singleton_self _)).ofText 0
  | typeDecl decl => exact decl.spells_rows (bracketed decl rfl) fits

theorem Item.spells_rowsAfter (previous : Option Item) (items : List Item)
    (bracketed : ∀ decl, .typeDecl decl ∈ items → ∀ m ∈ decl.members, m.Bracketed)
    (fits : ∀ piece ∈ items.flatMap Item.pieces, L.Fits piece) :
    L.SpellsRows (Item.rowsAfter previous items) (items.flatMap Item.pieces) := by
  induction items generalizing previous with
  | nil => exact L.spellsRows_nil
  | cons item rest ih =>
      rw [List.flatMap_cons, List.forall_mem_append] at fits
      have gap : L.SpellsRows (if previous.any (·.standsApart item) then [Row.blank] else [])
          [] := by
        split
        · exact spellsRows_blank
        · exact L.spellsRows_nil
      have here := item.spells_rows
        (fun decl same => bracketed decl (same ▸ List.mem_cons_self)) fits.1
      have below := ih (some item)
        (fun decl listed => bracketed decl (List.mem_cons_of_mem item listed)) fits.2
      exact (gap.append here).append below

/-- The text of a unit is read as the pieces of the unit, one after the other. -/
theorem CompUnit.out_render (unit : CompUnit)
    (bracketed : ∀ decl, .typeDecl decl ∈ unit.items → ∀ m ∈ decl.members, m.Bracketed)
    (fits : ∀ piece ∈ unit.pieces, L.Fits piece) : L.out unit.render = L.outAll unit.pieces :=
  (Item.spells_rowsAfter none unit.items bracketed fits).out

end

end Rethrow
