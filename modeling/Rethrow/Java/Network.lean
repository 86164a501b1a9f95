import Rethrow.Java.Rule

/-!
# The grammar as a network

Each rule is followed from place to place. An edge leaves a place over a terminal or
over a whole rule, and a rule may end at its final places. No rule but the root matches
the empty text, so the terminals a rule can start with are those on the edges of its
first place, taken through rules.
-/

namespace Rethrow.Java

/-- What an edge goes over. -/
inductive Goal where
  /-- A terminal, by its code, and whether it makes a named node. -/
  | token (code : Nat) (kind : Option Terminal)
  | rule (rule : Rule)
  deriving DecidableEq, Repr

/-- An edge of the network. -/
structure Edge where
  goal : Goal
  field : Option Field
  next : Nat
  deriving DecidableEq, Repr

/-- A place of a rule. -/
structure Spot where
  edges : List Edge
  final : Bool
  deriving Inhabited

/-- The rules as a list. -/
def Rule.all : List Rule :=
  (List.range (Rule.compactConstructor.ctorIdx + 1)).map Rule.ofNat

/-- The goal of a symbol. -/
def Symbol.goal : Symbol → Goal
  | .token terminal => .token terminal.code (if terminal.isNamed then some terminal else none)
  | .rule r => .rule r

/-- The places of a rule. -/
def Rule.spots (rule : Rule) : Array Spot :=
  (rule.body.places.map fun place =>
    { edges := place.next.map fun step =>
        { goal := step.1.symbol.goal, field := step.1.field, next := step.2 }
      final := place.final }).toArray

/-- The places of every rule. -/
def spotTable : Array (Array Spot) :=
  (Rule.all.map Rule.spots).toArray

/-- The number of places of the whole network. -/
def spotCount : Nat :=
  spotTable.foldl (fun count spots => count + spots.size) 0

/-- A place of a rule. -/
def Rule.spot (rule : Rule) (place : Nat) : Spot :=
  (spotTable.getD rule.ctorIdx #[]).getD place { edges := [], final := false }

/-- A set of terminals, as the number whose bits are their codes. -/
abbrev TerminalSet := Nat

/-- The set with one member. -/
def TerminalSet.single (code : Nat) : TerminalSet :=
  1 <<< code

/-- The terminals on the edges out of a rule's start, by a table for the rules. -/
def Rule.startsBy (table : Array TerminalSet) (rule : Rule) : TerminalSet :=
  (rule.spot 0).edges.foldl
    (fun set edge =>
      set ||| match edge.goal with
        | .token code _ => TerminalSet.single code
        | .rule r => table.getD r.ctorIdx 0)
    0

/-- Repeats `startsBy` for all rules. -/
def startsAfter : Nat → Array TerminalSet
  | 0 => (Rule.all.map fun _ => 0).toArray
  | rounds + 1 =>
    let table := startsAfter rounds
    (Rule.all.map (Rule.startsBy table)).toArray

/-- The terminals each rule can start with. A chain of rules in which each starts the
one before is shorter than the number of rules. -/
def startTable : Array TerminalSet :=
  startsAfter 24

/-- The terminals a rule can start with. -/
def Rule.starts (rule : Rule) : TerminalSet :=
  startTable.getD rule.ctorIdx 0

end Rethrow.Java
