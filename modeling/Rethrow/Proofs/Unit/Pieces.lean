import Rethrow.Unit.Layout

/-!
# The pieces of a unit

The layout of a unit writes its fragments and some words and signs of its own. `pieces`
lists all of them in the order in which they are written, without separators and line
breaks. A piece is loose where the layout makes sure that whatever it ends in, a line
comment included, does not reach the next piece.
-/

namespace Rethrow

/-- A text that the layout writes. -/
structure Piece where
  text : Text
  /-- Whether the piece may end in a line comment. -/
  loose : Bool
  deriving DecidableEq, Repr

namespace Piece

/-- A fragment that may end in a line comment. -/
def free (text : Text) : Piece :=
  { text, loose := true }

/-- A fragment that has to be complete in itself. -/
def whole (text : Text) : Piece :=
  { text, loose := false }

/-- A word or sign of the layout itself. -/
def fixed (spelling : String) : Piece :=
  whole spelling.toList

@[simp] theorem text_free (t : Text) : (free t).text = t := rfl

@[simp] theorem text_whole (t : Text) : (whole t).text = t := rfl

/-- Lists of pieces with a sign between neighbours. -/
def separated (sign : String) (lists : List (List Piece)) : List Piece :=
  [fixed sign].intercalate lists

end Piece

mutual

/-- The pieces of an expression. -/
def Expr.pieces : Expr → List Piece
  | .create typeName arguments =>
    Piece.fixed "new" :: Piece.whole typeName :: Piece.fixed "(" ::
      Piece.separated "," (Expr.piecesOf arguments) ++ [Piece.fixed ")"]
  | .string escaped => [Piece.whole (['"'] ++ escaped ++ ['"'])]
  | .name text => [Piece.whole text]
  | .verbatim text => [Piece.whole text]

/-- The pieces of each of some expressions. -/
def Expr.piecesOf : List Expr → List (List Piece)
  | [] => []
  | e :: rest => e.pieces :: Expr.piecesOf rest

end

mutual

/-- The pieces of a statement. -/
def Stmt.pieces : Stmt → List Piece
  | .comment text => [Piece.free text]
  | .delegate text => [Piece.free text]
  | .verbatim text => [Piece.free text]
  | .throw value => Piece.fixed "throw" :: value.pieces ++ [Piece.fixed ";"]
  | .guarded body catches finish =>
    Piece.fixed "try" :: Piece.fixed "\x7b" :: Stmt.piecesOf body ++ Catch.piecesOf catches ++
      Stmt.finishPieces finish ++ [Piece.fixed "\x7d"]

/-- The pieces of some statements. -/
def Stmt.piecesOf : List Stmt → List Piece
  | [] => []
  | s :: rest => s.pieces ++ Stmt.piecesOf rest

/-- The pieces of a finally block, its closing brace apart. -/
def Stmt.finishPieces : Option (List Stmt) → List Piece
  | none => []
  | some body =>
    Piece.fixed "\x7d" :: Piece.fixed "finally" :: Piece.fixed "\x7b" :: Stmt.piecesOf body

/-- The pieces of catch clauses, the closing brace of the last apart. -/
def Catch.piecesOf : List Catch → List Piece
  | [] => []
  | .clause types binder body :: rest =>
    Piece.fixed "\x7d" :: Piece.fixed "catch" :: Piece.fixed "(" ::
      Piece.separated "|" (types.map fun t => [Piece.whole t]) ++
      Piece.whole binder :: Piece.fixed ")" :: Piece.fixed "\x7b" :: Stmt.piecesOf body ++
      Catch.piecesOf rest

end

namespace Layout

/-- The pieces of a documentation comment. -/
def docPieces (doc : Option Text) : List Piece :=
  doc.toList.map Piece.free

/-- The pieces of modifiers, annotations first. -/
def modifierPieces (modifiers : Modifiers) : List Piece :=
  modifiers.annotations.map Piece.free ++ modifiers.keywords.map Piece.whole

/-- The pieces of the clause that lists declared failures. -/
def throwsPieces (throws : List Text) : List Piece :=
  if throws.isEmpty then []
  else Piece.fixed "throws" :: Piece.separated "," (throws.map fun t => [Piece.whole t])

/-- The pieces of a body in braces. -/
def blockPieces (body : List Stmt) : List Piece :=
  Piece.fixed "\x7b" :: Stmt.piecesOf body ++ [Piece.fixed "\x7d"]

end Layout

/-- The pieces of a method. -/
def Procedure.pieces (p : Procedure) : List Piece :=
  Layout.docPieces p.doc ++ Layout.modifierPieces p.modifiers ++
    [Piece.free p.returnType, Piece.whole p.name, Piece.whole p.parameters,
      Piece.whole p.dimensions] ++
    Layout.throwsPieces p.throws ++
    match p.body with
    | some body => Layout.blockPieces body
    | none => [Piece.fixed ";"]

/-- The pieces of a constructor. -/
def Constructor.pieces (c : Constructor) : List Piece :=
  Layout.docPieces c.doc ++ Layout.modifierPieces c.modifiers ++
    [Piece.free c.typeParameters, Piece.whole c.name, Piece.whole (c.parameters.getD [])] ++
    Layout.throwsPieces c.throws ++ Layout.blockPieces c.body

/-- The pieces of a member. -/
def Member.pieces : Member → List Piece
  | .procedure p => p.pieces
  | .constructor c => c.pieces
  | .field text => [Piece.free text]
  | .nested _ text => [Piece.free text]
  | .other text => [Piece.free text]

/-- The pieces of the constants of an enumeration, which end with a semicolon in front of
members. -/
def Layout.constantPieces (constants : Option Text) (hasMembers : Bool) : List Piece :=
  match constants with
  | none => []
  | some constants =>
    Piece.free constants :: if hasMembers then [Piece.fixed ";"] else []

/-- The pieces of a type declaration. -/
def TypeDecl.pieces (decl : TypeDecl) : List Piece :=
  Layout.docPieces decl.doc ++ Layout.modifierPieces decl.modifiers ++
    [Piece.free decl.keyword, Piece.whole decl.name, Piece.free decl.header,
      Piece.fixed "\x7b"] ++
    Layout.constantPieces decl.enumConstants (!decl.members.isEmpty) ++
    decl.members.flatMap Member.pieces ++ [Piece.fixed "\x7d"]

/-- The pieces of an item. -/
def Item.pieces : Item → List Piece
  | .packageDecl text => [Piece.free text]
  | .importDecl text => [Piece.free text]
  | .comment text => [Piece.free text]
  | .other text => [Piece.free text]
  | .typeDecl decl => decl.pieces

/-- The pieces of a unit, in the order of the document. -/
def CompUnit.pieces (unit : CompUnit) : List Piece :=
  unit.items.flatMap Item.pieces

/-- Whether a member's parameter list and dimensions start with the sign that keeps them
apart from what stands in front of them. -/
def Member.Bracketed : Member → Prop
  | .procedure p =>
    p.parameters.head? = some '(' ∧
      (p.dimensions = [] ∨ p.dimensions.head? = some '[' ∨ p.dimensions.head? = some '@')
  | .constructor c => ∀ parameters ∈ c.parameters, parameters.head? = some '('
  | _ => True

instance : (m : Member) → Decidable m.Bracketed
  | .procedure _ => inferInstanceAs (Decidable (_ ∧ _))
  | .constructor c => inferInstanceAs (Decidable (∀ parameters ∈ c.parameters, _))
  | .field _ => .isTrue trivial
  | .nested _ _ => .isTrue trivial
  | .other _ => .isTrue trivial

end Rethrow
