import Rethrow.Wrapper.Rename
import Rethrow.Wrapper.Strip
import Rethrow.Wrapper.Wrap

/-!
# The unchecked variant of a unit

Each type is renamed; then every method that declares failures and has a body is
stripped and wrapped; then every constructor that declares failures is. The first
constructor that is refused ends the work, and what was changed before it, its own
stripping included, stays changed.
-/

namespace Rethrow

/-- A value as some work left it, with the refusal that ended the work early. -/
structure Worked (α : Type) where
  value : α
  refusal : Option DelegationRefusal := none
  deriving Repr

/-- Whether a method is converted: it declares failures and has statements. -/
def Procedure.isConvertible (p : Procedure) : Bool :=
  !p.throws.isEmpty && !p.isBodiless

/-- Whether a constructor is converted: it declares failures. -/
def Constructor.isConvertible (c : Constructor) : Bool :=
  !c.throws.isEmpty

/-- A member after the pass over methods. -/
def Member.convertProcedure (options : Options) : Member → Member
  | .procedure p =>
    .procedure (if p.isConvertible then p.strip.wrap options else p)
  | member => member

/-- The pass over constructors. -/
def Member.convertConstructors (options : Options) : List Member → Worked (List Member)
  | [] => { value := [] }
  | .constructor c :: rest =>
    if c.isConvertible then
      match c.strip.wrap options with
      | .ok converted =>
        let later := Member.convertConstructors options rest
        { later with value := .constructor converted :: later.value }
      | .error refusal => { value := .constructor c.strip :: rest, refusal := some refusal }
    else
      let later := Member.convertConstructors options rest
      { later with value := .constructor c :: later.value }
  | member :: rest =>
    let later := Member.convertConstructors options rest
    { later with value := member :: later.value }

/-- The unchecked variant of a type. -/
def TypeDecl.enhance (options : Options) (decl : TypeDecl) : Worked TypeDecl :=
  let renamed := decl.rename options
  let converted :=
    Member.convertConstructors options (renamed.members.map (Member.convertProcedure options))
  { value := { renamed with members := converted.value }, refusal := converted.refusal }

/-- The unchecked variant of the types among some items. -/
def Item.enhanceAll (options : Options) : List Item → Worked (List Item)
  | [] => { value := [] }
  | .typeDecl decl :: rest =>
    let worked := decl.enhance options
    match worked.refusal with
    | some refusal => { value := .typeDecl worked.value :: rest, refusal := some refusal }
    | none =>
      let later := Item.enhanceAll options rest
      { later with value := .typeDecl worked.value :: later.value }
  | item :: rest =>
    let later := Item.enhanceAll options rest
    { later with value := item :: later.value }

/-- The unchecked variant of a unit. -/
def CompUnit.enhance (options : Options) (unit : CompUnit) : Worked CompUnit :=
  let worked := Item.enhanceAll options unit.items
  { value := { items := worked.value }, refusal := worked.refusal }

end Rethrow
