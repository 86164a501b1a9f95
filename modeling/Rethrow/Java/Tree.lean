import Rethrow.Java.Lexeme
import Rethrow.Java.Rule

/-!
# Syntax trees of Java source

A node has a kind, the part it plays in its parent, its extent in the source as
character offsets, and its children. Comments are no part of the grammar: once a tree
is read, each comment is put into the smallest node that holds both the lexeme before
and the lexeme after it, or into the root.
-/

namespace Rethrow.Java

/-- What a node stands for. -/
inductive Kind where
  /-- A keyword or sign. -/
  | token
  | identifier
  /-- A number or character literal. -/
  | literal
  | comment (kind : CommentKind)
  | rule (rule : Rule)
  deriving DecidableEq, Repr

/-- A node of a syntax tree. -/
inductive Node where
  | node (kind : Kind) (field : Option Field) (start stop : Nat) (children : List Node)
  deriving Repr

namespace Node

/-- The kind of a node. -/
def kind : Node → Kind
  | node kind _ _ _ _ => kind

/-- The part a node plays in its parent. -/
def field : Node → Option Field
  | node _ field _ _ _ => field

/-- Where a node starts. -/
def start : Node → Nat
  | node _ _ start _ _ => start

/-- Where a node ends. -/
def stop : Node → Nat
  | node _ _ _ stop _ => stop

/-- The children of a node. -/
def children : Node → List Node
  | node _ _ _ _ children => children

/-- Whether a node is more than a keyword or sign. -/
def isNamed (n : Node) : Bool :=
  n.kind ≠ .token

/-- Whether a node is a comment. -/
def isComment (n : Node) : Bool :=
  match n.kind with
  | .comment _ => true
  | _ => false

/-- Whether a node was made by `rule`. -/
def isRule (n : Node) (rule : Rule) : Bool :=
  n.kind = .rule rule

/-- The named children of a node. -/
def namedChildren (n : Node) : List Node :=
  n.children.filter isNamed

/-- The child that plays the given part. -/
def child? (n : Node) (field : Field) : Option Node :=
  n.children.find? fun c => c.field = some field

/-- The first child made by `rule`. -/
def childOf? (n : Node) (rule : Rule) : Option Node :=
  n.children.find? fun c => c.isRule rule

/-- Gives a node a part unless it has one. -/
def inPart (part : Option Field) : Node → Node
  | node kind field start stop children => node kind (field <|> part) start stop children

/-- A node of a rule, which extends over its children. -/
def ofRule (rule : Rule) (field : Option Field) (children : List Node) : Node :=
  node (.rule rule) field ((children.head?.map start).getD 0)
    ((children.getLast?.map stop).getD 0) children

mutual

/-- The extents of the lexemes of a tree. -/
def lexemes : Node → List (Nat × Nat)
  | node _ _ start stop [] => if start < stop then [(start, stop)] else []
  | node _ _ _ _ (child :: rest) => child.lexemes ++ lexemesOf rest

/-- The extents of the lexemes of a list of trees. -/
def lexemesOf : List Node → List (Nat × Nat)
  | [] => []
  | n :: rest => n.lexemes ++ lexemesOf rest

end

mutual

/-- Puts a comment into a node that extends over it. -/
def insert (comment : Node) : Node → Node
  | node kind field start stop children =>
    node kind field start stop (insertAmong comment children)

/-- Puts a comment among siblings, or into the sibling that extends over it. -/
def insertAmong (comment : Node) : List Node → List Node
  | [] => [comment]
  | n :: rest =>
    if comment.start < n.start then comment :: n :: rest
    else if n.start < comment.start && comment.start < n.stop then insert comment n :: rest
    else n :: insertAmong comment rest

end

/-- The comments between the given lexemes; `offset` is where `rest` starts. -/
def commentsBetween (offset : Nat) (rest : Text) : List (Nat × Nat) → List Node
  | [] => nodesOf (commentsIn 0 offset rest)
  | (start, stop) :: more =>
    nodesOf (commentsIn 0 offset (rest.take (start - offset))) ++
      commentsBetween stop (rest.drop (stop - offset)) more
where
  /-- The nodes of comments. -/
  nodesOf (comments : List (CommentKind × Nat × Nat)) : List Node :=
    comments.map fun c => node (.comment c.1) none c.2.1 c.2.2 []

/-- Puts every comment of the source into its place in the tree. -/
def withComments (source : Text) (root : Node) : Node :=
  (commentsBetween 0 source root.lexemes).foldl (fun tree c => insert c tree) root

end Node

end Rethrow.Java
