/-!
# Patterns of grammar rules

The right-hand side of a grammar rule is a pattern over leaves. A pattern with `n`
leaves has `n + 1` places: place `0` is its start and place `i + 1` is behind leaf
`i`. `Pattern.places` lists for every place which leaves may come next and whether
the pattern may end there, so a rule can be followed without backtracking into the
pattern.
-/

namespace Rethrow.Grammar

/-- A pattern over leaves. -/
inductive Pattern (α : Type) where
  | empty
  | leaf (value : α)
  | seq (first second : Pattern α)
  | alt (left right : Pattern α)
  /-- Zero or more. -/
  | many (body : Pattern α)
  deriving Repr

namespace Pattern

variable {α : Type}

/-- One after the other. -/
def all : List (Pattern α) → Pattern α
  | [] => empty
  | [p] => p
  | p :: ps => seq p (all ps)

/-- One of several. -/
def any : List (Pattern α) → Pattern α
  | [] => empty
  | [p] => p
  | p :: ps => alt p (any ps)

/-- At most one. -/
def opt (p : Pattern α) : Pattern α :=
  alt p empty

/-- One or more. -/
def some (p : Pattern α) : Pattern α :=
  seq p (many p)

/-- The leaves from left to right. -/
def leaves : Pattern α → List α
  | empty => []
  | leaf value => [value]
  | seq first second => first.leaves ++ second.leaves
  | alt left right => left.leaves ++ right.leaves
  | many body => body.leaves

/-- How the leaves of a pattern follow each other, leaves being numbered. -/
structure Flow where
  size : Nat
  nullable : Bool
  /-- The leaves that may come first. -/
  first : List Nat
  /-- The leaves that may come last. -/
  last : List Nat
  /-- Pairs of a leaf and one that may come right after it. -/
  follow : List (Nat × Nat)

/-- All pairs of one leaf from each list. -/
def Flow.pairs (before after : List Nat) : List (Nat × Nat) :=
  before.flatMap fun b => after.map fun a => (b, a)

/-- The flow of a pattern whose first leaf has number `base`. -/
def flow (base : Nat) : Pattern α → Flow
  | empty => { size := 0, nullable := true, first := [], last := [], follow := [] }
  | leaf _ => { size := 1, nullable := false, first := [base], last := [base], follow := [] }
  | seq first second =>
    let a := first.flow base
    let b := second.flow (base + a.size)
    { size := a.size + b.size
      nullable := a.nullable && b.nullable
      first := if a.nullable then a.first ++ b.first else a.first
      last := if b.nullable then a.last ++ b.last else b.last
      follow := a.follow ++ b.follow ++ Flow.pairs a.last b.first }
  | alt left right =>
    let a := left.flow base
    let b := right.flow (base + a.size)
    { size := a.size + b.size
      nullable := a.nullable || b.nullable
      first := a.first ++ b.first
      last := a.last ++ b.last
      follow := a.follow ++ b.follow }
  | many body =>
    let a := body.flow base
    { a with nullable := true, follow := a.follow ++ Flow.pairs a.last a.first }

/-- A place of a pattern: the leaves that may come next, each with the place behind
it, and whether the pattern may end here. -/
structure Place (α : Type) where
  next : List (α × Nat)
  final : Bool

/-- The places of a pattern. -/
def places (p : Pattern α) : List (Place α) :=
  let f := p.flow 0
  let leaves := p.leaves
  let step (targets : List Nat) : List (α × Nat) :=
    targets.eraseDups.filterMap fun i => leaves[i]?.map fun value => (value, i + 1)
  { next := step f.first, final := f.nullable } ::
    (List.range f.size).map fun i =>
      { next := step ((f.follow.filter (·.1 == i)).map (·.2)), final := f.last.contains i }

end Pattern

end Rethrow.Grammar
