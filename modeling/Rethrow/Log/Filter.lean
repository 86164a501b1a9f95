import Rethrow.Log.Basic

/-!
# Choice of log lines

A filter is a list of directives. A directive lets lines through up to a level, for the
topics whose label begins with its name or, without a name, for all. Of the directives
that fit a topic, the one with the longest name decides.

A specification in text gives directives separated by commas: a level, a name, or a name
and a level with `=` between them; a name alone lets everything through. What is behind a
slash has to occur in the message. Parts that cannot be read are passed over.
-/

namespace Rethrow.Log

/-- One rule of a filter. Up to rank zero, nothing is let through. -/
structure Directive where
  name : Option Text
  rank : Nat
  deriving DecidableEq, Repr

/-- A filter of log lines. -/
structure Filter where
  directives : List Directive
  /-- What has to occur in a message. -/
  needle : Option Text := none
  deriving DecidableEq, Repr

/-- The highest rank that a level can be let through up to. -/
def fullRank : Nat := 5

/-- A letter in capitals; other characters stay. -/
def capital (c : Char) : Char :=
  c.toUpper

/-- The rank that a level's name stands for, in any case. -/
def rankOf? (name : Text) : Option Nat :=
  match String.ofList (name.map capital) with
  | "OFF" => some 0
  | "ERROR" => some 1
  | "WARN" => some 2
  | "INFO" => some 3
  | "DEBUG" => some 4
  | "TRACE" => some 5
  | _ => none

/-- The directive of one part of a specification. -/
def Directive.ofPart? (part : Text) : Option Directive :=
  match Text.splitAtChar '=' part with
  | [name] =>
    match rankOf? name with
    | some rank => some { name := none, rank }
    | none => some { name := some name, rank := fullRank }
  | [name, level] =>
    match Text.trim level with
    | [] => some { name := some name, rank := fullRank }
    | level => (rankOf? level).map fun rank => { name := some name, rank }
  | _ => none

/-- The directives of a list of parts. -/
def Directive.ofParts (parts : Text) : List Directive :=
  let parts := ((Text.splitAtChar ',' parts).map Text.trim).filter fun part => !part.isEmpty
  parts.filterMap Directive.ofPart?

namespace Filter

/-- The filter that lets lines through up to a level. -/
def upTo (level : Level) : Filter :=
  { directives := [{ name := none, rank := level.rank }] }

/-- Directives with one more, which replaces one of the same name. -/
def insert (directive : Directive) : List Directive → List Directive
  | [] => [directive]
  | old :: rest =>
    if old.name = directive.name then directive :: rest else old :: insert directive rest

/-- The filter refined by a specification. -/
def refine (filter : Filter) (specification : Text) : Filter :=
  let add (parts : Text) : List Directive :=
    (Directive.ofParts parts).foldl (fun directives new => insert new directives) filter.directives
  match Text.splitAtChar '/' specification with
  | [parts] => { directives := add parts }
  | [parts, needle] => { directives := add parts, needle := some needle }
  | _ => { directives := filter.directives }

/-- Whether a directive speaks about a topic. -/
def fits (topic : Topic) (directive : Directive) : Bool :=
  Text.startsWith topic.label (directive.name.getD [])

/-- The directive that decides, of two in their order. -/
def prefer (first second : Directive) : Directive :=
  if (first.name.getD []).length ≤ (second.name.getD []).length then second else first

/-- The rank up to which a topic is let through. -/
def rankFor (filter : Filter) (topic : Topic) : Nat :=
  match filter.directives.filter (fits topic) with
  | [] => 0
  | first :: rest => (rest.foldl prefer first).rank

/-- Whether a line is let through. -/
def admits (filter : Filter) (line : Line) : Bool :=
  line.level.rank ≤ filter.rankFor line.topic &&
    match filter.needle with
    | some needle => Text.holds needle line.message
    | none => true

end Filter

end Rethrow.Log
