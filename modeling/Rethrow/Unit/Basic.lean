import Rethrow.Text.Basic

/-!
# Compilation units

The tree holds what the wrapper generator looks at or changes: type declarations,
the signatures of their methods and constructors, documentation comments, and the
statements at the top level of bodies. Everything else is carried as normalised
source text.
-/

namespace Rethrow

/-- An expression that is built or looked into. -/
inductive Expr where
  /-- `new T(argument, …)`. -/
  | create (typeName : Text) (arguments : List Expr)
  /-- A string literal, by the escaped text between its quotes. -/
  | string (escaped : Text)
  /-- A simple name. -/
  | name (text : Text)
  /-- Any other expression on one line. -/
  | verbatim (text : Text)
  deriving Repr

mutual

/-- A statement at the top level of a body or of a structured `try`. -/
inductive Stmt where
  /-- A line or block comment. -/
  | comment (text : Text)
  /-- A call of `this(…)` or `super(…)` that a constructor starts with. -/
  | delegate (text : Text)
  /-- `try { … } catch (…) { … } finally { … }`. -/
  | guarded (body : List Stmt) (catches : List Catch) (finish : Option (List Stmt))
  /-- `throw …;`. -/
  | throw (value : Expr)
  /-- Any other statement. -/
  | verbatim (text : Text)

/-- `catch (A | B name) { … }`. -/
inductive Catch where
  | clause (types : List Text) (binder : Text) (body : List Stmt)

end

deriving instance Repr for Stmt, Catch

/-- Whether a statement is a comment. -/
def Stmt.isComment : Stmt → Bool
  | .comment _ => true
  | _ => false

/-- Whether a statement is a delegating call. -/
def Stmt.isDelegate : Stmt → Bool
  | .delegate _ => true
  | _ => false

/-- The modifiers of a declaration, annotations apart from keywords. -/
structure Modifiers where
  annotations : List Text := []
  keywords : List Text := []
  deriving DecidableEq, Repr

/-- Whether a declaration is implemented outside the language. -/
def Modifiers.isNative (modifiers : Modifiers) : Bool :=
  modifiers.keywords.contains "native".toList

/-- A method declaration. -/
structure Procedure where
  /-- The documentation comment, delimiters included. -/
  doc : Option Text := none
  modifiers : Modifiers := {}
  /-- Type parameters and result type. -/
  returnType : Text := []
  name : Text := []
  /-- The parameter list with its parentheses. -/
  parameters : Text := []
  /-- Array dimensions after the parameter list. -/
  dimensions : Text := []
  throws : List Text := []
  /-- Absent for a method that is only declared. -/
  body : Option (List Stmt) := none
  deriving Repr

/-- A method that has no statements of its own to protect. -/
def Procedure.isBodiless (procedure : Procedure) : Bool :=
  procedure.body.isNone || procedure.modifiers.isNative

/-- A constructor declaration. -/
structure Constructor where
  doc : Option Text := none
  modifiers : Modifiers := {}
  typeParameters : Text := []
  name : Text := []
  /-- The parameter list with its parentheses; absent for a compact constructor. -/
  parameters : Option Text := none
  throws : List Text := []
  body : List Stmt := []
  deriving Repr

/-- A member of a type body. -/
inductive Member where
  | procedure (decl : Procedure)
  | constructor (decl : Constructor)
  /-- A field or constant declaration. -/
  | field (text : Text)
  /-- A type declared inside the type. -/
  | nested (name : Text) (text : Text)
  /-- Comments, initialisers, annotation elements. -/
  | other (text : Text)
  deriving Repr

/-- A type declaration at the top level of a unit. -/
structure TypeDecl where
  doc : Option Text := none
  modifiers : Modifiers := {}
  /-- `class`, `interface`, `enum`, `record` or `@interface`. -/
  keyword : Text := []
  name : Text := []
  /-- Everything between the name and the body. -/
  header : Text := []
  /-- The constants of an enumeration; absent for every other type. -/
  enumConstants : Option Text := none
  members : List Member := []
  deriving Repr

/-- The methods of a type, in order. -/
def TypeDecl.procedures (decl : TypeDecl) : List Procedure :=
  decl.members.filterMap fun
    | .procedure p => some p
    | _ => none

/-- The constructors of a type, in order. -/
def TypeDecl.constructors (decl : TypeDecl) : List Constructor :=
  decl.members.filterMap fun
    | .constructor c => some c
    | _ => none

/-- The first method of the given name. -/
def TypeDecl.procedure? (decl : TypeDecl) (name : Text) : Option Procedure :=
  decl.procedures.find? fun p => p.name == name

/-- An item at the top level of a unit. -/
inductive Item where
  | packageDecl (text : Text)
  | importDecl (text : Text)
  /-- A comment that belongs to no declaration. -/
  | comment (text : Text)
  | typeDecl (decl : TypeDecl)
  /-- Anything else. -/
  | other (text : Text)
  deriving Repr

/-- A source file. -/
structure CompUnit where
  items : List Item := []
  deriving Repr

/-- The type declarations of a unit, in order. -/
def CompUnit.types (unit : CompUnit) : List TypeDecl :=
  unit.items.filterMap fun
    | .typeDecl decl => some decl
    | _ => none

theorem CompUnit.mem_types (unit : CompUnit) (decl : TypeDecl) :
    decl ∈ unit.types ↔ .typeDecl decl ∈ unit.items := by
  unfold CompUnit.types
  rw [List.mem_filterMap]
  constructor
  · rintro ⟨item, found, same⟩
    cases item <;> simp_all
  · intro found
    exact ⟨_, found, rfl⟩

end Rethrow
