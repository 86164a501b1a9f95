import Rethrow.Java.Network
import Rethrow.Java.Tree

/-!
# Reading a syntax tree

The reader goes through a source from left to right and keeps, at the end of every
lexeme, the column of all rules that are under way there. A column is closed under two
steps: a rule that is expected starts, and a rule that has ended carries on those that
were waiting for it. An item under way remembers who waited where it started.

Two ways to reach the same place of the same rule with the same start are one item, and
the way found first is kept. Items that started earlier go first, so a statement that
can take in more of the source does.

Every lexeme is at least one character long, so the reader ends after as many columns as
the source has characters.
-/

namespace Rethrow.Java

/-- One who waits for a rule, with the edge to take when it has ended. -/
structure Waiting (α : Type) where
  rule : Rule
  edge : Edge
  item : α

/-- A rule under way: its place, where it started, the children read so far in reverse,
and who waited for rules where it started. -/
structure Progress where
  rule : Rule
  place : Nat
  start : Nat
  children : List Node
  waiting : List (Waiting Progress)

namespace Progress

/-- A rule that starts at `start`. -/
def fresh (rule : Rule) (start : Nat) : Progress :=
  { rule, place := 0, start, children := [], waiting := [] }

/-- The place of an item in the network. -/
def spot (item : Progress) : Spot :=
  item.rule.spot item.place

/-- Whether two items are the same place of the same rule with the same start. -/
def sameAs (a b : Progress) : Bool :=
  a.place == b.place && a.start == b.start && a.rule == b.rule

/-- The nodes that stand for a rule that has ended. -/
def nodes (item : Progress) (field : Option Field) : List Node :=
  if item.rule.isHidden then item.children.map (Node.inPart field)
  else [Node.ofRule item.rule field item.children.reverse]

/-- Takes an edge over some nodes, given in reverse. An item that started at `here`, in
the column it stands in, learns who waits there. -/
def advance (item : Progress) (edge : Edge) (read : List Node) (here : Nat)
    (waiting : List (Waiting Progress)) : Progress :=
  { item with
    place := edge.next
    children := read ++ item.children
    waiting := if item.start = here then waiting else item.waiting }

end Progress

/-- The rules under way at the end of a lexeme, the latest found first. -/
structure Column where
  items : List Progress := []
  waiting : List (Waiting Progress) := []

namespace Column

/-- Adds an item and all that follows from it. Rules are started only if they can begin
with one of the terminals of `ahead`. -/
def add (here : Nat) (ahead : TerminalSet) : Nat → Progress → Column → Column
  | 0, _, column => column
  | fuel + 1, item, column =>
    if column.items.any item.sameAs then column
    else
      let spot := item.spot
      let column := { column with items := item :: column.items }
      let started :=
        spot.edges.foldl
          (fun column edge =>
            match edge.goal with
            | .token _ _ => column
            | .rule rule =>
              if rule.starts &&& ahead = 0 then column
              else
                add here ahead fuel (Progress.fresh rule here)
                  { column with waiting := { rule, edge, item } :: column.waiting })
          column
      if spot.final then
        item.waiting.foldl
          (fun column caller =>
            if caller.rule == item.rule then
              add here ahead fuel
                (caller.item.advance caller.edge (item.nodes caller.edge.field) item.start
                  item.waiting)
                column
            else column)
          started
      else started

/-- The column that follows from the given items. -/
def close (here : Nat) (ahead : TerminalSet) (seeds : List Progress) : Column :=
  let fuel := spotCount * (here + 2)
  seeds.foldl (fun column item => add here ahead fuel item column) {}

/-- Whether a terminal is expected. -/
def expects (column : Column) (code : Nat) : Bool :=
  column.items.any fun item =>
    item.spot.edges.any fun edge =>
      match edge.goal with
      | .token c _ => c == code
      | .rule _ => false

/-- The node of a lexeme. -/
def lexemeNode (kind : Option Terminal) (field : Option Field) (start stop : Nat) : Node :=
  let kind :=
    match kind with
    | none => Kind.token
    | some .identifier => .identifier
    | some _ => .literal
  .node kind field start stop []

/-- Inserts an item behind those that started no later. -/
def insertByStart (x : Progress) : List Progress → List Progress
  | [] => [x]
  | y :: ys => if x.start < y.start then x :: y :: ys else y :: insertByStart x ys

/-- The items after the lexeme of the given code, those that started first in front. -/
def read (column : Column) (here : Nat) (code start stop : Nat) : List Progress :=
  column.items.foldl
    (fun found item =>
      item.spot.edges.foldl
        (fun found edge =>
          match edge.goal with
          | .token c kind =>
            if c == code then
              insertByStart
                (item.advance edge [lexemeNode kind edge.field start stop] here column.waiting)
                found
            else found
          | .rule _ => found)
        found)
    []

/-- The tree of the whole source, if the root may end here. -/
def root? (column : Column) : Option Node :=
  (column.items.find? fun item => item.rule == .program && item.spot.final).map fun item =>
    Node.ofRule .program none item.children.reverse

end Column

/-- A column still to be made: its offset, the source from there on, and the items just
read. -/
structure Ahead where
  offset : Nat
  rest : Text
  seeds : List Progress

namespace Ahead

/-- Merges a column into those still to be made, by offset. -/
def insert (x : Ahead) : List Ahead → List Ahead
  | [] => [x]
  | y :: ys =>
    if x.offset < y.offset then x :: y :: ys
    else if x.offset = y.offset then
      { y with seeds := x.seeds.foldl (fun found item => Column.insertByStart item found) y.seeds }
        :: ys
    else y :: insert x ys

/-- The set of the codes of candidates. -/
def codeSet (candidates : List Candidate) : TerminalSet :=
  candidates.foldl (fun set c => set ||| TerminalSet.single c.code) 0

/-- A column with what can be read there. -/
structure Stop where
  here : Ahead
  /-- Where the next lexeme starts, spaces and comments skipped. -/
  skipped : Nat × Text
  column : Column

/-- Makes a column. -/
def stop (x : Ahead) : Stop :=
  let skipped := skipBlank 0 x.offset x.rest
  let ahead := codeSet (mainCandidates skipped.2) ||| codeSet (angleCandidates skipped.2) |||
    codeSet (innerCandidates x.rest)
  { here := x, skipped, column := Column.close x.offset ahead x.seeds }

namespace Stop

/-- The columns after the best expected one of some candidates. -/
def after (s : Stop) (start : Nat) (text : Text) (candidates : List Candidate) : Option Ahead :=
  (candidates.find? fun c => s.column.expects c.code).map fun c =>
    { offset := start + c.length
      rest := text.drop c.length
      seeds := s.column.read s.here.offset c.code start (start + c.length) }

/-- The columns that follow. -/
def next (s : Stop) : List Ahead :=
  (s.after s.skipped.1 s.skipped.2 (mainCandidates s.skipped.2)).toList ++
    (s.after s.skipped.1 s.skipped.2 (angleCandidates s.skipped.2)).toList ++
    (s.after s.here.offset s.here.rest (innerCandidates s.here.rest)).toList

/-- The tree of the whole source, if it ends here. -/
def root? (s : Stop) : Option Node :=
  if s.skipped.2.isEmpty then s.column.root? else none

end Stop

end Ahead

/-- How reading a source ended. -/
inductive Reading where
  | accepted (root : Node)
  /-- No lexeme that is expected at `last`, the last column made, follows. The columns
  made before it are given latest first. -/
  | stuck (last : Ahead.Stop) (before : List Ahead)

/-- Makes columns until the source is read or none is left; `last` is the one made last
and `before` are those made before it. -/
def Reading.run : Nat → Ahead.Stop → List Ahead → List Ahead → Reading
  | 0, last, before, _ => .stuck last before
  | _, last, before, [] => .stuck last before
  | fuel + 1, last, before, x :: more =>
    let s := x.stop
    match s.root? with
    | some root => .accepted root
    | none =>
      Reading.run fuel s (last.here :: before) (s.next.foldl (fun ahead y => y.insert ahead) more)

/-- Reads on from a column. -/
def Ahead.run (x : Ahead) : Reading :=
  let s := x.stop
  match s.root? with
  | some root => .accepted root
  | none => Reading.run (x.rest.length + 1) s [] s.next

/-- Whether the source can be read to its end from a column. -/
def Ahead.finishes (x : Ahead) : Bool :=
  match x.run with
  | .accepted _ => true
  | .stuck _ _ => false

/-- The first column of a source; a byte order mark at its very start is passed over. -/
def Ahead.initial (source : Text) : Ahead :=
  let seeds (start : Nat) := [Progress.fresh .program start]
  match source with
  | '\uFEFF' :: rest => { offset := 1, rest, seeds := seeds 1 }
  | _ => { offset := 0, rest := source, seeds := seeds 0 }

/-- The syntax tree of a source, comments included. -/
def readTree? (source : Text) : Option Node :=
  match (Ahead.initial source).run with
  | .accepted root => some (root.withComments source)
  | .stuck _ _ => none

end Rethrow.Java
