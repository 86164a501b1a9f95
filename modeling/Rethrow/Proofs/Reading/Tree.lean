import Rethrow.Proofs.Reading.Extents
import Rethrow.Proofs.Text.Blanks

/-!
# Trees that a source is read by

`Sound` says of a tree what a parser of the grammar gives: its nodes tile the source, a node
leaves no comment or literal open, and the children that the reading of a unit looks for
stand where the grammar has them. It can be decided for every source and tree.
-/

namespace Rethrow

namespace Java.Node

mutual

/-- Compares two nodes. -/
def same : Node → Node → Bool
  | node kind field start stop children, node kind' field' start' stop' children' =>
    kind == kind' && field == field' && start == start' && stop == stop' &&
      sameList children children'

/-- Compares two lists of nodes. -/
def sameList : List Node → List Node → Bool
  | [], [] => true
  | a :: as, b :: bs => same a b && sameList as bs
  | _, _ => false

end

mutual

theorem same_iff : (a b : Node) → (same a b = true ↔ a = b)
  | node kind field start stop children, b => by
    cases b
    simp [same, sameList_iff children, and_assoc]

theorem sameList_iff : (as bs : List Node) → (sameList as bs = true ↔ as = bs)
  | [], bs => by cases bs <;> simp [sameList]
  | a :: as, bs => by cases bs <;> simp [sameList, same_iff a, sameList_iff as]

end

instance : DecidableEq Node := fun a b =>
  decidable_of_iff (same a b = true) (same_iff a b)

end Java.Node

instance (t : Text) : Decidable (Text.Firm t) :=
  decidable_of_iff (t.getLast?.all (fun c => !Text.isBlank c) = true) (by
    cases shape : t.getLast? <;> simp [Text.Firm, shape])

namespace Reading

open Java Lexical

/-- The nodes that are neither tokens nor comments. -/
def parts (nodes : List Node) : List Node :=
  nodes.filter fun n => n.isNamed && !n.isComment

/-- What stands behind the name of a declaration. -/
def behindName (n : Node) : List Node :=
  (n.children.dropWhile fun c => c.field ≠ some .name).drop 1

/-- A declaration that has a name, and modifiers at most in front of all else. -/
structure Headed (n : Node) : Prop where
  modifiers : ∀ c ∈ n.children.tail, c.isRule .modifiers = false
  name : (n.child? .name).any isName = true

/-- Declarations and their bodies, as the grammar has them. -/
structure DeclShaped (n : Node) : Prop where
  typeDecl : isTypeDecl n = true →
    Headed n ∧ (n.child? .body).isSome ∧ n.children.getLast? = n.child? .body
  method : n.isRule .methodDeclaration = true →
    Headed n ∧ (n.child? .parameters).isSome ∧
      parts (behindName n) =
        (n.child? .parameters).toList ++ (n.child? .dimensions).toList ++
          (n.childOf? .throwsClause).toList ++ (n.child? .body).toList
  constructor : isConstructor n = true →
    Headed n ∧ (n.child? .body).isSome ∧
      ((n.child? .parameters).isSome ∨ n.isRule .compactConstructor = true) ∧
      parts (behindName n) =
        (n.child? .parameters).toList ++ (n.childOf? .throwsClause).toList ++
          (n.child? .body).toList
  enumBody : n.isRule .enumBody = true →
    n.children.getLast?.any (fun c => c.kind = .token && c.start = n.stop - 1) = true ∧
      parts ((n.children.dropWhile fun c => !c.isRule .enumBodyDeclarations).drop 1) = []

/-- Statements and expressions that are taken apart, as the grammar has them. -/
structure StmtShaped (n : Node) : Prop where
  tryStatement : n.isRule .tryStatement = true →
    (n.children.filter fun c => c.field = some .body).length ≤ 1 ∧
      (n.children.filter (·.isRule .finallyClause)).length ≤ 1
  catchClause : n.isRule .catchClause = true →
    parts n.children = (n.childOf? .catchParameter).toList ++ (n.child? .body).toList
  catchParameter : n.isRule .catchParameter = true →
    (n.namedChildren.filter fun c => c.field = some .name) = (n.child? .name).toList
  finallyClause : n.isRule .finallyClause = true →
    parts n.children = (n.childOf? .block).toList
  creation : n.isRule .objectCreation = true →
    (n.children.filter fun c => c.field = some .type || c.field = some .arguments) =
      (n.child? .type).toList ++ (n.child? .arguments).toList

/-- Texts that start and end with signs of their own. -/
structure TextShaped (source : Text) (n : Node) : Prop where
  token : n.kind = .token → n.children = []
  literal : n.isRule .stringLiteral = true → n.field ≠ some .body ∧ n.field ≠ some .arguments
  quoted : n.isRule .stringLiteral = true →
    Text.startsWith (textOf source n) "\"\"\"".toList = false →
      ['"'] ++ unquoted (textOf source n) ++ ['"'] = textOf source n
  parameters : n.field = some .parameters → (textOf source n).head? = some '('
  dimensions : n.field = some .dimensions →
    (textOf source n).head? = some '[' ∨ (textOf source n).head? = some '@'

/-- A node that starts at a cut, and ends in code with no blank. -/
structure Whole (source : Text) (n : Node) : Prop where
  cut : Cut source n.start
  closed : Closed .text (textOf source n)
  firm : Text.Firm (textOf source n)

mutual

/-- A comment, which plays no part in its parent, or a node that is whole, shaped as the
grammar has it and tiled by its children, down to its leaves. The parts of a literal are no
tiles. -/
def Sound (source : Text) : Node → Prop
  | .node kind field start stop children =>
    (Node.node kind field start stop children).isComment = true ∧ field = none ∨
      (Node.node kind field start stop children).isComment = false ∧
        Whole source (.node kind field start stop children) ∧
        DeclShaped (.node kind field start stop children) ∧
        StmtShaped (.node kind field start stop children) ∧
        TextShaped source (.node kind field start stop children) ∧
        if kind = .rule .stringLiteral then Tiled source start [] stop
        else Tiled source start children stop ∧ SoundAll source children

/-- Nodes that are sound. -/
def SoundAll (source : Text) : List Node → Prop
  | [] => True
  | n :: rest => Sound source n ∧ SoundAll source rest

end

/-- The root of a tree whose nodes tile the whole source. -/
def SoundRoot (source : Text) (root : Node) : Prop :=
  Tiled source 0 root.children source.length ∧ SoundAll source root.children

/-! ## Deciding soundness -/

instance (n : Node) : Decidable (Headed n) :=
  decidable_of_iff (_ ∧ _) ⟨fun h => ⟨h.1, h.2⟩, fun h => ⟨h.modifiers, h.name⟩⟩

instance (n : Node) : Decidable (DeclShaped n) :=
  decidable_of_iff (_ ∧ _ ∧ _ ∧ _)
    ⟨fun ⟨a, b, c, d⟩ => ⟨a, b, c, d⟩, fun ⟨a, b, c, d⟩ => ⟨a, b, c, d⟩⟩

instance (n : Node) : Decidable (StmtShaped n) :=
  decidable_of_iff (_ ∧ _ ∧ _ ∧ _ ∧ _)
    ⟨fun ⟨a, b, c, d, e⟩ => ⟨a, b, c, d, e⟩, fun ⟨a, b, c, d, e⟩ => ⟨a, b, c, d, e⟩⟩

instance (source : Text) (n : Node) : Decidable (TextShaped source n) :=
  decidable_of_iff (_ ∧ _ ∧ _ ∧ _ ∧ _)
    ⟨fun ⟨a, b, c, d, e⟩ => ⟨a, b, c, d, e⟩, fun ⟨a, b, c, d, e⟩ => ⟨a, b, c, d, e⟩⟩

instance (source : Text) (n : Node) : Decidable (Whole source n) :=
  decidable_of_iff (_ ∧ _ ∧ _) ⟨fun ⟨a, b, c⟩ => ⟨a, b, c⟩, fun ⟨a, b, c⟩ => ⟨a, b, c⟩⟩

mutual

instance decidableSound (source : Text) : (n : Node) → Decidable (Sound source n)
  | .node _ _ _ _ children =>
    have := decidableSoundAll source children
    inferInstanceAs (Decidable (_ ∨ _))

instance decidableSoundAll (source : Text) : (nodes : List Node) → Decidable (SoundAll source nodes)
  | [] => .isTrue trivial
  | n :: rest =>
    have := decidableSound source n
    have := decidableSoundAll source rest
    inferInstanceAs (Decidable (_ ∧ _))

end

instance (source : Text) (root : Node) : Decidable (SoundRoot source root) :=
  inferInstanceAs (Decidable (_ ∧ _))

end Reading

end Rethrow
