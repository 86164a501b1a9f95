import Rethrow.Unit.Equality
import Rethrow.Unit.Layout
import Rethrow.Unit.Reading
import Rethrow.Wrapper.Enhance

/-!
# Sessions on one unit

A session works on one unit, empty at first, step by step. A step that fails leaves what
it had changed, and the session goes on.
-/

namespace Rethrow

/-- A step that changes the unit of a session. Types and members are given by their
index. -/
inductive Step where
  /-- Replaces the unit by that of a source. -/
  | parse (source : Text)
  /-- Writes the unit and reads it back. -/
  | reparse
  | rename (type : Nat) (options : Options)
  | strip (type member : Nat)
  | wrap (type member : Nat) (options : Options)
  | enhanceType (type : Nat) (options : Options)
  | enhance (options : Options)

/-- Why a step failed. -/
inductive StepFailure where
  /-- The source is not in the language. -/
  | malformed
  | refused (refusal : DelegationRefusal)
  deriving DecidableEq, Repr

/-- Changes the type declaration with the given index among the types of some items. -/
def Item.modifyType (f : TypeDecl → TypeDecl) : Nat → List Item → List Item
  | _, [] => []
  | index, .typeDecl decl :: rest =>
    match index with
    | 0 => .typeDecl (f decl) :: rest
    | index + 1 => .typeDecl decl :: Item.modifyType f index rest
  | index, item :: rest => item :: Item.modifyType f index rest

/-- Changes a type declaration of a unit. -/
def CompUnit.modifyType (f : TypeDecl → TypeDecl) (index : Nat) (unit : CompUnit) : CompUnit :=
  { items := Item.modifyType f index unit.items }

/-- Changes a member of a type declaration. -/
def TypeDecl.modifyMember (f : Member → Member) (index : Nat) (decl : TypeDecl) : TypeDecl :=
  { decl with members := decl.members.modify index f }

/-- A method or constructor without declared failures; other members stay. -/
def Member.strip : Member → Member
  | .procedure p => .procedure p.strip
  | .constructor c => .constructor c.strip
  | member => member

/-- A method or constructor with its body protected; other members stay. -/
def Member.wrap (options : Options) : Member → Except DelegationRefusal Member
  | .procedure p => .ok (.procedure (p.wrap options))
  | .constructor c => (c.wrap options).map .constructor
  | member => .ok member

/-- The member of a type of a unit. -/
def CompUnit.member? (unit : CompUnit) (type member : Nat) : Option Member := do
  (← unit.types[type]?).members[member]?

/-- The unit after a step, and why the step failed if it did. -/
def Step.run (unit : CompUnit) : Step → CompUnit × Option StepFailure
  | .parse source =>
    match CompUnit.read? source with
    | some new => (new, none)
    | none => (unit, some .malformed)
  | .reparse =>
    match CompUnit.read? unit.render with
    | some new => (new, none)
    | none => (unit, some .malformed)
  | .rename type options => (unit.modifyType (TypeDecl.rename options) type, none)
  | .strip type member => (unit.modifyType (TypeDecl.modifyMember Member.strip member) type, none)
  | .wrap type member options =>
    match (unit.member? type member).map (Member.wrap options) with
    | some (.ok wrapped) =>
      (unit.modifyType (TypeDecl.modifyMember (fun _ => wrapped) member) type, none)
    | some (.error refusal) => (unit, some (.refused refusal))
    | none => (unit, none)
  | .enhanceType type options =>
    match (unit.types[type]?).map (TypeDecl.enhance options) with
    | some worked =>
      (unit.modifyType (fun _ => worked.value) type, worked.refusal.map .refused)
    | none => (unit, none)
  | .enhance options =>
    let worked := unit.enhance options
    (worked.value, worked.refusal.map .refused)

/-- The unit after some steps, from an empty one. -/
def Step.runAll (steps : List Step) : CompUnit :=
  steps.foldl (fun unit step => (step.run unit).1) {}

end Rethrow
