import Rethrow.Fragment.Collapse
import Rethrow.Java.Fault
import Rethrow.Unit.Basic

/-!
# Reading units from syntax trees

A documentation comment belongs to the declaration that follows it; one that no
declaration follows stands for itself. Signatures are collapsed to one line where that
is possible, and all other text is kept with its indentation removed.

A `try` or `throw` is taken apart only if nothing in it would be lost; otherwise it is
kept as text.
-/

namespace Rethrow

open Java

namespace Reading

/-- The text of a node. -/
def textOf (source : Text) (n : Node) : Text :=
  Text.slice source n.start n.stop

/-- The number of bytes between an offset and the line feed before it; `column` bytes of
the line were counted. -/
def columnFrom (column : Nat) : Nat → Text → Nat
  | 0, _ => column
  | _, [] => column
  | offset + 1, c :: rest =>
    columnFrom (if c = '\n' then 0 else column + c.utf8Size) offset rest

/-- The column of an offset, counted in bytes. -/
def columnAt (source : Text) (offset : Nat) : Nat :=
  columnFrom 0 offset source

/-- The text of a node with its indentation removed. -/
def verbatim (source : Text) (n : Node) : Text :=
  Fragment.dedent (textOf source n) (columnAt source n.start)

/-- The text of a node, collapsed. -/
def collapsed (source : Text) (n : Node) : Text :=
  Fragment.collapse (textOf source n)

/-- Whether the text of a block comment is a documentation comment. -/
def isDocText (t : Text) : Bool :=
  Text.startsWith t "/**".toList && t != "/**/".toList

/-- Whether a node is a documentation comment. -/
def isDoc (source : Text) (n : Node) : Bool :=
  n.kind = .comment .block && isDocText (textOf source n)

/-- Whether a node declares a type. -/
def isTypeDecl (n : Node) : Bool :=
  match n.kind with
  | .rule .classDeclaration | .rule .interfaceDeclaration | .rule .enumDeclaration
  | .rule .recordDeclaration | .rule .annotationTypeDeclaration => true
  | _ => false

/-- Whether a node is a name. -/
def isName (n : Node) : Bool :=
  n.kind = .identifier || n.isRule .reservedName

/-! ## Documentation -/

/-- An entry of a container once documentation comments have found their
declarations. -/
inductive Entry where
  /-- A documentation comment that stands for itself. -/
  | loose (doc : Node)
  /-- Any other child, with the documentation comment in front of it. -/
  | child (doc : Option Node) (n : Node)

/-- The entry for a pending documentation comment that found no declaration. -/
def looseEntry (pending : Option Node) : List Entry :=
  pending.toList.map .loose

/-- Gives each child of a container that may be documented the documentation comment
right in front of it. -/
def documented (isDoc takesDoc : Node → Bool) : Option Node → List Node → List Entry
  | pending, [] => looseEntry pending
  | pending, n :: rest =>
    if isDoc n then looseEntry pending ++ documented isDoc takesDoc (some n) rest
    else if takesDoc n then .child pending n :: documented isDoc takesDoc none rest
    else looseEntry pending ++ .child none n :: documented isDoc takesDoc none rest

/-- The documentation of a declaration: the comment in front of it, or else one that its
first named child is. -/
def docOf (source : Text) (pending : Option Node) (n : Node) : Option Text :=
  let inner := n.namedChildren.head?.filter (isDoc source)
  (pending <|> inner).map (verbatim source)

/-! ## Signatures -/

/-- Where a declaration starts once modifiers and comments are passed over. -/
def declarationStart (n : Node) : Nat :=
  (n.children.takeWhile fun c => c.isRule .modifiers || c.isComment).foldl
    (fun _ c => c.stop) n.start

/-- The modifiers of a declaration. -/
def modifiersOf (source : Text) (n : Node) : Modifiers :=
  match n.childOf? .modifiers with
  | none => {}
  | some modifiers =>
    { annotations :=
        (modifiers.namedChildren.filter fun c => !c.isComment).map (collapsed source)
      keywords := (modifiers.children.filter fun c => !c.isNamed).map (textOf source) }

/-- The text between two offsets, collapsed. -/
def between (source : Text) (start stop : Nat) : Text :=
  Fragment.collapse (Text.slice source start stop)

/-- The failures a method or constructor declares. -/
def throwsOf (source : Text) (n : Node) : List Text :=
  match n.childOf? .throwsClause with
  | none => []
  | some clause => (clause.namedChildren.filter fun c => !c.isComment).map (collapsed source)

/-! ## Expressions and statements -/

/-- The text between the quotes of a string literal. -/
def unquoted (t : Text) : Text :=
  (t.drop 1).dropLast

/-- The expression of a node that is not taken apart; one that has several lines is
none. -/
def simpleExpr? (source : Text) (n : Node) : Option Expr :=
  let text := textOf source n
  if n.isRule .stringLiteral && !Text.startsWith text "\"\"\"".toList then
    some (.string (unquoted text))
  else if isName n then some (.name text)
  else if n.isComment then none
  else if text.contains '\n' then none
  else some (.verbatim text)

/-- The type of an object creation, if the node has nothing but a type and arguments. -/
def creationType? (source : Text) (children : List Node) : Option Text :=
  let plain := (children.filter Node.isNamed).all fun c =>
    c.field = some .type || c.field = some .arguments
  if plain then (children.find? fun c => c.field = some .type).map (collapsed source) else none

mutual

/-- The expression of a node. -/
def expr? (source : Text) : Node → Option Expr
  | .node kind field start stop children =>
    if kind = .rule .objectCreation then
      match creationType? source children, arguments? source children with
      | some typeName, some arguments => some (.create typeName arguments)
      | _, _ => none
    else simpleExpr? source (.node kind field start stop children)

/-- The arguments of an object creation, by its children. -/
def arguments? (source : Text) : List Node → Option (List Expr)
  | [] => none
  | .node _ field _ _ children :: rest =>
    if field = some .arguments then exprs? source children else arguments? source rest

/-- The expressions of the named ones among some nodes. -/
def exprs? (source : Text) : List Node → Option (List Expr)
  | [] => some []
  | n :: rest =>
    if n.isNamed then
      match expr? source n, exprs? source rest with
      | some e, some es => some (e :: es)
      | _, _ => none
    else exprs? source rest

end

/-- The value of a `throw`, by its children. -/
def thrown? (source : Text) (children : List Node) : Option Expr :=
  match children.filter Node.isNamed with
  | [value] => expr? source value
  | _ => none

/-- The types and the name of a catch parameter, unless it has more than that. -/
def catchParameter? (source : Text) (children : List Node) : Option (List Text × Text) := do
  let parameter ← children.find? fun c => c.isRule .catchParameter
  let binder ← parameter.child? .name
  let others := parameter.namedChildren.filter fun c => c.field ≠ some .name
  let types := others.flatMap Node.namedChildren
  if others.all (·.isRule .catchType) && types.all (fun t => !t.isComment) then
    some (types.map (collapsed source), textOf source binder)
  else none

/-- The parts of a `try`. -/
structure TryParts where
  body : Option (List Stmt) := none
  catches : List Catch := []
  finish : Option (List Stmt) := none

mutual

/-- The statement of a node. -/
def stmt (source : Text) : Node → Stmt
  | .node kind field start stop children =>
    let text := verbatim source (.node kind field start stop children)
    match kind with
    | .comment _ => .comment text
    | .rule .explicitConstructorCall => .delegate text
    | .rule .throwStatement =>
      match thrown? source children with
      | some value => .throw value
      | none => .verbatim text
    | .rule .tryStatement =>
      match tryParts? source children with
      | some { body := some body, catches, finish } => .guarded body catches finish
      | _ => .verbatim text
    | _ => .verbatim text

/-- The statements of the named ones among some nodes. -/
def stmts (source : Text) : List Node → List Stmt
  | [] => []
  | n :: rest => if n.isNamed then stmt source n :: stmts source rest else stmts source rest

/-- The parts of a `try`, by its children, unless there is one that would be lost. -/
def tryParts? (source : Text) : List Node → Option TryParts
  | [] => some {}
  | .node kind field _ _ children :: rest =>
    if kind = .token then tryParts? source rest
    else
      match tryParts? source rest with
      | none => none
      | some parts =>
        if field = some .body then some { parts with body := some (stmts source children) }
        else if kind = .rule .catchClause then
          match catchParameter? source children, bodyOf? source children with
          | some (types, binder), some body =>
            some { parts with catches := .clause types binder body :: parts.catches }
          | _, _ => none
        else if kind = .rule .finallyClause then
          match blockOf? source children with
          | some body => some { parts with finish := some body }
          | none => none
        else none

/-- The statements of the child in the part `body`. -/
def bodyOf? (source : Text) : List Node → Option (List Stmt)
  | [] => none
  | .node _ field _ _ children :: rest =>
    if field = some .body then some (stmts source children) else bodyOf? source rest

/-- The statements of the first block among some nodes. -/
def blockOf? (source : Text) : List Node → Option (List Stmt)
  | [] => none
  | .node kind _ _ _ children :: rest =>
    if kind = .rule .block then some (stmts source children) else blockOf? source rest

end

/-! ## Members -/

/-- The method of a node. -/
def procedure (source : Text) (doc : Option Text) (n : Node) : Member :=
  match n.child? .name, n.child? .parameters with
  | some name, some parameters =>
    .procedure {
      doc
      modifiers := modifiersOf source n
      returnType := between source (declarationStart n) name.start
      name := textOf source name
      parameters := collapsed source parameters
      dimensions := ((n.child? .dimensions).map (collapsed source)).getD []
      throws := throwsOf source n
      body := (n.child? .body).map fun body => stmts source body.children }
  | _, _ => .other (verbatim source n)

/-- The constructor of a node; only a compact one has no parameters. -/
def constructor (source : Text) (doc : Option Text) (n : Node) : Member :=
  let parameters := n.child? .parameters
  match n.child? .name, n.child? .body with
  | some name, some body =>
    if parameters.isSome || n.isRule .compactConstructor then
      .constructor {
        doc
        modifiers := modifiersOf source n
        typeParameters := between source (declarationStart n) name.start
        name := textOf source name
        parameters := parameters.map (collapsed source)
        throws := throwsOf source n
        body := stmts source body.children }
    else .other (verbatim source n)
  | _, _ => .other (verbatim source n)

/-- Whether a node is a constructor. -/
def isConstructor (n : Node) : Bool :=
  n.isRule .constructorDeclaration || n.isRule .compactConstructor

/-- Whether a member may be documented. -/
def takesMemberDoc (n : Node) : Bool :=
  n.isRule .methodDeclaration || isConstructor n

/-- The member of an entry. -/
def member (source : Text) : Entry → Member
  | .loose doc => .other (verbatim source doc)
  | .child pending n =>
    if n.isRule .methodDeclaration then procedure source (docOf source pending n) n
    else if isConstructor n then constructor source (docOf source pending n) n
    else if n.isRule .fieldDeclaration || n.isRule .constantDeclaration then
      .field (verbatim source n)
    else if isTypeDecl n then
      .nested (((n.child? .name).map (textOf source)).getD []) (verbatim source n)
    else .other (verbatim source n)

/-- The members of a container. -/
def members (source : Text) (container : Node) : List Member :=
  (documented (isDoc source) takesMemberDoc none container.namedChildren).map (member source)

/-! ## Types and units -/

/-- The constants of an enumeration: what stands between the opening brace and the
members. -/
def enumConstants (source : Text) (body : Node) : Text :=
  let named := body.namedChildren
  match named.find? fun c => !c.isRule .enumBodyDeclarations with
  | none => []
  | some first =>
    let stop :=
      match named.find? fun c => c.isRule .enumBodyDeclarations with
      | some declarations => declarations.start
      | none => body.stop - 1
    Fragment.dedent (Text.slice source first.start (max stop first.start))
      (columnAt source first.start)

/-- The members of the body of a type. -/
def bodyMembers (source : Text) (body : Node) : List Member :=
  if body.isRule .enumBody then
    match body.childOf? .enumBodyDeclarations with
    | some declarations => members source declarations
    | none => []
  else members source body

/-- The type declaration of a node. -/
def typeDecl (source : Text) (doc : Option Text) (n : Node) : TypeDecl :=
  let start := declarationStart n
  let name := n.child? .name
  let body := n.child? .body
  { doc
    modifiers := modifiersOf source n
    keyword := between source start ((name.map Node.start).getD start)
    name := (name.map (textOf source)).getD []
    header := between source ((name.map Node.stop).getD start) ((body.map Node.start).getD n.stop)
    enumConstants := (body.filter (·.isRule .enumBody)).map (enumConstants source)
    members := (body.map (bodyMembers source)).getD [] }

/-- The item of an entry. -/
def item (source : Text) : Entry → Item
  | .loose doc => .comment (verbatim source doc)
  | .child pending n =>
    if isTypeDecl n then .typeDecl (typeDecl source (docOf source pending n) n)
    else if n.isRule .packageDeclaration then .packageDecl (collapsed source n)
    else if n.isRule .importDeclaration then .importDecl (collapsed source n)
    else if n.isComment then .comment (verbatim source n)
    else .other (verbatim source n)

/-- The unit of the tree of a source. -/
def unit (source : Text) (root : Node) : CompUnit :=
  { items :=
      (documented (isDoc source) isTypeDecl none root.namedChildren).map (item source) }

end Reading

/-- The unit of a source, if the source is in the language. -/
def CompUnit.read? (source : Text) : Option CompUnit :=
  (readTree? source).map (Reading.unit source)

/-- The unit of a source, or the fault that keeps it out of the language. -/
def CompUnit.read (source : Text) : Except Fault CompUnit :=
  (readTree source).map (Reading.unit source)

end Rethrow
