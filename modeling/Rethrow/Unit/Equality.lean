import Rethrow.Unit.Basic

/-!
# Equality of trees

Trees nest lists of trees, so equality is decided by one recursive comparison per
kind of tree, each shown to hold exactly for equal arguments.
-/

namespace Rethrow

mutual

/-- Compares two expressions. -/
def Expr.same : Expr → Expr → Bool
  | .create t as, .create u bs => t == u && Expr.sameList as bs
  | .string a, .string b => a == b
  | .name a, .name b => a == b
  | .verbatim a, .verbatim b => a == b
  | _, _ => false

/-- Compares two lists of expressions. -/
def Expr.sameList : List Expr → List Expr → Bool
  | [], [] => true
  | a :: as, b :: bs => Expr.same a b && Expr.sameList as bs
  | _, _ => false

end

mutual

theorem Expr.same_iff : (a b : Expr) → (Expr.same a b = true ↔ a = b)
  | .create t as, b => by cases b <;> simp [Expr.same, Expr.sameList_iff as]
  | .string a, b => by cases b <;> simp [Expr.same]
  | .name a, b => by cases b <;> simp [Expr.same]
  | .verbatim a, b => by cases b <;> simp [Expr.same]

theorem Expr.sameList_iff : (as bs : List Expr) → (Expr.sameList as bs = true ↔ as = bs)
  | [], bs => by cases bs <;> simp [Expr.sameList]
  | a :: as, bs => by cases bs <;> simp [Expr.sameList, Expr.same_iff a, Expr.sameList_iff as]

end

instance : DecidableEq Expr := fun a b =>
  decidable_of_iff (Expr.same a b = true) (Expr.same_iff a b)

mutual

/-- Compares two statements. -/
def Stmt.same : Stmt → Stmt → Bool
  | .comment a, .comment b => a == b
  | .delegate a, .delegate b => a == b
  | .guarded body catches finish, .guarded body' catches' finish' =>
    Stmt.sameList body body' && Catch.sameList catches catches' && Stmt.sameOption finish finish'
  | .throw a, .throw b => a == b
  | .verbatim a, .verbatim b => a == b
  | _, _ => false

/-- Compares two lists of statements. -/
def Stmt.sameList : List Stmt → List Stmt → Bool
  | [], [] => true
  | a :: as, b :: bs => Stmt.same a b && Stmt.sameList as bs
  | _, _ => false

/-- Compares two optional lists of statements. -/
def Stmt.sameOption : Option (List Stmt) → Option (List Stmt) → Bool
  | none, none => true
  | some as, some bs => Stmt.sameList as bs
  | _, _ => false

/-- Compares two catch clauses. -/
def Catch.same : Catch → Catch → Bool
  | .clause types binder body, .clause types' binder' body' =>
    types == types' && binder == binder' && Stmt.sameList body body'

/-- Compares two lists of catch clauses. -/
def Catch.sameList : List Catch → List Catch → Bool
  | [], [] => true
  | a :: as, b :: bs => Catch.same a b && Catch.sameList as bs
  | _, _ => false

end

mutual

theorem Stmt.same_iff : (a b : Stmt) → (Stmt.same a b = true ↔ a = b)
  | .comment a, b => by cases b <;> simp [Stmt.same]
  | .delegate a, b => by cases b <;> simp [Stmt.same]
  | .guarded body catches finish, b => by
    cases b <;> simp [Stmt.same, Stmt.sameList_iff body, Catch.sameList_iff catches,
      Stmt.sameOption_iff finish, and_assoc]
  | .throw a, b => by cases b <;> simp [Stmt.same]
  | .verbatim a, b => by cases b <;> simp [Stmt.same]

theorem Stmt.sameList_iff : (as bs : List Stmt) → (Stmt.sameList as bs = true ↔ as = bs)
  | [], bs => by cases bs <;> simp [Stmt.sameList]
  | a :: as, bs => by cases bs <;> simp [Stmt.sameList, Stmt.same_iff a, Stmt.sameList_iff as]

theorem Stmt.sameOption_iff :
    (as bs : Option (List Stmt)) → (Stmt.sameOption as bs = true ↔ as = bs)
  | none, bs => by cases bs <;> simp [Stmt.sameOption]
  | some as, bs => by cases bs <;> simp [Stmt.sameOption, Stmt.sameList_iff as]

theorem Catch.same_iff : (a b : Catch) → (Catch.same a b = true ↔ a = b)
  | .clause types binder body, b => by
    cases b; simp [Catch.same, Stmt.sameList_iff body, and_assoc]

theorem Catch.sameList_iff : (as bs : List Catch) → (Catch.sameList as bs = true ↔ as = bs)
  | [], bs => by cases bs <;> simp [Catch.sameList]
  | a :: as, bs => by cases bs <;> simp [Catch.sameList, Catch.same_iff a, Catch.sameList_iff as]

end

instance : DecidableEq Stmt := fun a b =>
  decidable_of_iff (Stmt.same a b = true) (Stmt.same_iff a b)

instance : DecidableEq Catch := fun a b =>
  decidable_of_iff (Catch.same a b = true) (Catch.same_iff a b)

deriving instance DecidableEq for Procedure, Constructor, Member, TypeDecl, Item, CompUnit

end Rethrow
