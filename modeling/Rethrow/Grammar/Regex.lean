import Rethrow.Text.Basic

/-!
# Regular expressions

Regular expressions over character classes, matched by derivatives: the derivative
of an expression by a character matches what may follow that character. The
constructors that build derivatives drop impossible and empty parts, so that a
match that can go no further is seen at once.
-/

namespace Rethrow.Grammar

/-- A regular expression over characters. -/
inductive Regex where
  /-- Matches nothing. -/
  | never
  /-- Matches the empty text. -/
  | done
  /-- Matches one character of a class. -/
  | one (accepts : Char → Bool)
  | seq (first second : Regex)
  | alt (left right : Regex)
  | many (body : Regex)

namespace Regex

/-- Whether the empty text matches. -/
def nullable : Regex → Bool
  | never => false
  | done => true
  | one _ => false
  | seq first second => first.nullable && second.nullable
  | alt left right => left.nullable || right.nullable
  | many _ => true

/-- Whether no constructor but `never` was used. -/
def isNever : Regex → Bool
  | never => true
  | _ => false

/-- `seq` with impossible and empty parts dropped. -/
def then' : Regex → Regex → Regex
  | never, _ => never
  | done, second => second
  | first, second => if second.isNever then never else seq first second

/-- `alt` with impossible parts dropped. -/
def or' : Regex → Regex → Regex
  | never, right => right
  | left, right => if right.isNever then left else alt left right

/-- What may follow the character `c`. -/
def derive (c : Char) : Regex → Regex
  | never => never
  | done => never
  | one accepts => if accepts c then done else never
  | seq first second =>
    let after := then' (first.derive c) second
    if first.nullable then or' after (second.derive c) else after
  | alt left right => or' (left.derive c) (right.derive c)
  | many body => then' (body.derive c) (many body)

/-- The length of the longest match, where `count` characters were read and `best` is
the longest match among them. -/
def longestFrom (count : Nat) (best : Option Nat) (r : Regex) : Text → Option Nat
  | [] => if r.nullable then some count else best
  | c :: rest =>
    let best := if r.nullable then some count else best
    let next := r.derive c
    if next.isNever then best else longestFrom (count + 1) best next rest

/-- The length of the longest text that matches at the start of `t`. -/
def longest (r : Regex) (t : Text) : Option Nat :=
  longestFrom 0 none r t

/-- The character `c`. -/
def char (c : Char) : Regex :=
  one (· == c)

/-- One of the characters of a text. -/
def oneOf (set : Text) : Regex :=
  one set.contains

/-- A character from `low` to `high`. -/
def range (low high : Char) : Regex :=
  one fun c => low ≤ c && c ≤ high

/-- The characters of a text in order. -/
def text (t : Text) : Regex :=
  t.foldr (fun c r => then' (char c) r) done

/-- One or more. -/
def some (r : Regex) : Regex :=
  seq r (many r)

/-- At most one. -/
def opt (r : Regex) : Regex :=
  alt r done

/-- One after the other. -/
def all (rs : List Regex) : Regex :=
  rs.foldr then' done

/-- One of several. -/
def any (rs : List Regex) : Regex :=
  rs.foldr or' never

/-- One or more, with `mark` between neighbours. -/
def separated (r mark : Regex) : Regex :=
  seq r (many (seq mark r))

end Regex

end Rethrow.Grammar
