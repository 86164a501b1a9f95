import Rethrow.Fragment.TextBlock
import Rethrow.Unit.Basic

/-!
# Layout of units

A unit is laid out as rows: a row has a depth, and one that starts inside a text
block has none and is written exactly as it stands. Rendering puts four spaces per
depth in front of a row that is not empty and ends every row with a line feed.

Between the pieces of a signature a line break replaces the separator whenever the
line so far may end in a line comment.
-/

namespace Rethrow

/-- A row of laid-out text. -/
structure Row where
  /-- The depth of the row; none when it starts inside a text block. -/
  depth : Option Nat
  text : Text
  deriving DecidableEq, Repr

namespace Row

/-- The spaces in front of a row of the given depth. -/
def indent (depth : Nat) : Text :=
  List.replicate (4 * depth) ' '

/-- The text of a row, its line feed included. -/
def render (row : Row) : Text :=
  match row.depth with
  | none => row.text ++ ['\n']
  | some depth =>
    if row.text.isEmpty then ['\n'] else indent depth ++ row.text ++ ['\n']

/-- The text of a list of rows. -/
def renderAll (rows : List Row) : Text :=
  rows.flatMap render

/-- A row at some depth. -/
def atDepth (depth : Nat) (text : Text) : Row :=
  { depth := some depth, text }

/-- An empty row. -/
def blank : Row :=
  { depth := some 0, text := [] }

/-- The rows of a fragment that may have several lines. -/
def ofText (depth : Nat) (t : Text) : List Row :=
  (Text.lines t).zipWith
    (fun line raw => { depth := if raw then none else some depth, text := line })
    (Fragment.textBlockLines t)

end Row

namespace Layout

/-- Whether the last line of a text may end in a line comment. -/
def mayEndInComment (t : Text) : Bool :=
  match (Text.lines t).getLast? with
  | some line => Text.holds "//".toList line
  | none => false

/-- Appends `token` after `separator`, or on a line of its own when the text so far
may end in a line comment. -/
def pushToken (t separator token : Text) : Text :=
  (if mayEndInComment t then t ++ ['\n'] else t ++ separator) ++ token

/-- Each keyword followed by a space. -/
def keywordLead (modifiers : Modifiers) : Text :=
  modifiers.keywords.flatMap fun keyword => keyword ++ [' ']

/-- The clause that lists the declared failures; empty when there are none. -/
def throwsClause (throws : List Text) : Text :=
  if throws.isEmpty then [] else " throws ".toList ++ Text.joinWith ", ".toList throws

end Layout

mutual

/-- An expression on one line. -/
def Expr.render : Expr → Text
  | .create typeName arguments =>
    "new ".toList ++ typeName ++ ['('] ++ Text.joinWith ", ".toList (Expr.renderList arguments) ++
      [')']
  | .string escaped => ['"'] ++ escaped ++ ['"']
  | .name text => text
  | .verbatim text => text

/-- Each of a list of expressions on one line. -/
def Expr.renderList : List Expr → List Text
  | [] => []
  | e :: es => Expr.render e :: Expr.renderList es

end

namespace Layout

/-- The line that opens a catch clause. -/
def catchHeader (types : List Text) (binder : Text) : Text :=
  "\x7d catch (".toList ++ Text.joinWith " | ".toList types ++ [' '] ++ binder ++ ") \x7b".toList

end Layout

mutual

/-- The rows of a statement. -/
def Stmt.rows (depth : Nat) : Stmt → List Row
  | .comment text => Row.ofText depth text
  | .delegate text => Row.ofText depth text
  | .verbatim text => Row.ofText depth text
  | .throw value => Row.ofText depth ("throw ".toList ++ Expr.render value ++ [';'])
  | .guarded body catches finish =>
    Row.atDepth depth "try \x7b".toList :: Stmt.rowsList (depth + 1) body ++
      Catch.rowsList depth catches ++ Stmt.rowsFinish depth finish ++ [Row.atDepth depth ['}']]

/-- The rows of a list of statements. -/
def Stmt.rowsList (depth : Nat) : List Stmt → List Row
  | [] => []
  | s :: rest => Stmt.rows depth s ++ Stmt.rowsList depth rest

/-- The rows of a finally block, its closing brace apart. -/
def Stmt.rowsFinish (depth : Nat) : Option (List Stmt) → List Row
  | none => []
  | some body => Row.atDepth depth "\x7d finally \x7b".toList :: Stmt.rowsList (depth + 1) body

/-- The rows of catch clauses, the closing brace of the last apart. -/
def Catch.rowsList (depth : Nat) : List Catch → List Row
  | [] => []
  | .clause types binder body :: rest =>
    Row.atDepth depth (Layout.catchHeader types binder) :: Stmt.rowsList (depth + 1) body ++
      Catch.rowsList depth rest

end

/-- A statement at depth zero, without blanks at its end. -/
def Stmt.render (s : Stmt) : Text :=
  Text.trimEnd (Row.renderAll (s.rows 0))

namespace Layout

/-- The rows of a documentation comment. -/
def docRows (depth : Nat) (doc : Option Text) : List Row :=
  match doc with
  | none => []
  | some content => Row.ofText depth content

/-- The rows of annotations. -/
def annotationRows (depth : Nat) (modifiers : Modifiers) : List Row :=
  modifiers.annotations.flatMap (Row.ofText depth)

/-- A signature with a body in braces. -/
def blockRows (depth : Nat) (signature : Text) (body : List Stmt) : List Row :=
  Row.ofText depth (pushToken signature [' '] ['{']) ++ Stmt.rowsList (depth + 1) body ++
    [Row.atDepth depth ['}']]

/-- `keywords lead name`, where an empty lead leaves no separator behind. -/
def signatureStart (modifiers : Modifiers) (lead name : Text) : Text :=
  if lead.isEmpty then keywordLead modifiers ++ name
  else pushToken (keywordLead modifiers ++ lead) [' '] name

end Layout

/-- The signature of a method, without what follows the declared failures. -/
def Procedure.signature (p : Procedure) : Text :=
  Layout.signatureStart p.modifiers p.returnType p.name ++ p.parameters ++ p.dimensions ++
    Layout.throwsClause p.throws

/-- The rows of a method. -/
def Procedure.rows (depth : Nat) (p : Procedure) : List Row :=
  Layout.docRows depth p.doc ++ Layout.annotationRows depth p.modifiers ++
    match p.body with
    | some body => Layout.blockRows depth p.signature body
    | none => Row.ofText depth (Layout.pushToken p.signature [] [';'])

/-- The signature of a constructor. -/
def Constructor.signature (c : Constructor) : Text :=
  Layout.signatureStart c.modifiers c.typeParameters c.name ++ c.parameters.getD [] ++
    Layout.throwsClause c.throws

/-- The rows of a constructor. -/
def Constructor.rows (depth : Nat) (c : Constructor) : List Row :=
  Layout.docRows depth c.doc ++ Layout.annotationRows depth c.modifiers ++
    Layout.blockRows depth c.signature c.body

/-- The rows of a member. -/
def Member.rows (depth : Nat) : Member → List Row
  | .procedure decl => decl.rows depth
  | .constructor decl => decl.rows depth
  | .field text => Row.ofText depth text
  | .nested _ text => Row.ofText depth text
  | .other text => Row.ofText depth text

/-- Whether a member stands apart from the one that follows it: a comment does
not. -/
def Member.standsApart : Member → Bool
  | .other text => !(Text.startsWith text "//".toList || Text.startsWith text "/*".toList)
  | _ => true

namespace Layout

/-- The rows of members, where `apart` tells whether a blank row comes first. -/
def memberRows (depth : Nat) : Bool → List Member → List Row
  | _, [] => []
  | apart, member :: rest =>
    (if apart then [Row.blank] else []) ++ member.rows depth ++
      memberRows depth member.standsApart rest

/-- The rows of the constants of an enumeration, ended with a semicolon when members
follow. -/
def constantRows (depth : Nat) (constants : Text) (hasMembers : Bool) : List Row :=
  if constants.isEmpty then
    if hasMembers then [Row.atDepth depth [';']] else []
  else if hasMembers && !mayEndInComment constants then
    Row.ofText depth (constants ++ [';'])
  else
    Row.ofText depth constants ++ if hasMembers then [Row.atDepth depth [';']] else []

/-- The separator in front of a type's header. -/
def headerSeparator (header : Text) : Text :=
  match header with
  | '<' :: _ => []
  | '(' :: _ => []
  | _ => [' ']

end Layout

/-- The text of a type declaration up to its opening brace. -/
def TypeDecl.opening (decl : TypeDecl) : Text :=
  let named := Layout.pushToken (Layout.keywordLead decl.modifiers ++ decl.keyword) [' '] decl.name
  let headed :=
    if decl.header.isEmpty then named
    else Layout.pushToken named (Layout.headerSeparator decl.header) decl.header
  Layout.pushToken headed [' '] ['{']

/-- The rows of a type declaration. -/
def TypeDecl.rows (decl : TypeDecl) : List Row :=
  let hasMembers := !decl.members.isEmpty
  let constants :=
    match decl.enumConstants with
    | none => []
    | some constants => Layout.constantRows 1 constants hasMembers
  let apart :=
    match decl.enumConstants with
    | none => false
    | some constants => !constants.isEmpty || hasMembers
  Layout.docRows 0 decl.doc ++ Layout.annotationRows 0 decl.modifiers ++
    Row.ofText 0 decl.opening ++ constants ++ Layout.memberRows 1 apart decl.members ++
    [Row.atDepth 0 ['}']]

/-- The rows of an item. -/
def Item.rows : Item → List Row
  | .packageDecl text => Row.ofText 0 text
  | .importDecl text => Row.ofText 0 text
  | .comment text => Row.ofText 0 text
  | .other text => Row.ofText 0 text
  | .typeDecl decl => decl.rows

/-- Whether a blank row stands between two neighbouring items. -/
def Item.standsApart : Item → Item → Bool
  | .importDecl _, .importDecl _ => false
  | .comment _, _ => false
  | _, _ => true

/-- The rows of items that follow `previous`. -/
def Item.rowsAfter : Option Item → List Item → List Row
  | _, [] => []
  | previous, item :: rest =>
    (if previous.any (·.standsApart item) then [Row.blank] else []) ++ item.rows ++
      Item.rowsAfter (some item) rest

/-- The source text of a unit. -/
def CompUnit.render (unit : CompUnit) : Text :=
  Row.renderAll (Item.rowsAfter none unit.items)

end Rethrow
