import Rethrow.Java.Chart
import Rethrow.Text.Lines

/-!
# Faults of a source

A source that is not in the language is reported by the cheapest repair that lets it be
read to its end, at the lexeme where reading got stuck. One kind of repair adds a closing
sign that is missing right behind the lexeme before. The other leaves out a stretch of
lexemes that is unexpected: from there on, or in front of it.

Adding a sign costs more than leaving out one short lexeme and less than leaving out two.
Leaving out what has been read already is given up early when a sign could be added, the
earlier the more of the source has been read.
-/

namespace Rethrow.Java

/-- What is wrong with a source. -/
inductive Flaw where
  | missing (terminal : Terminal)
  /-- The stretch of the source that cannot be read. -/
  | unexpected (stretch : Text)

/-- A fault, at a line and a byte column that both count from one. -/
structure Fault where
  line : Nat
  column : Nat
  flaw : Flaw

namespace Flaw

/-- The number of characters of a stretch that a report shows. -/
def shownLength : Nat := 40

/-- The wording of a flaw. -/
def message : Flaw → Text
  | missing terminal => "missing `".toList ++ terminal.spelling ++ ['`']
  | unexpected stretch =>
    match Text.trim ((Text.lines stretch).head?.getD []) with
    | [] => "unexpected end of input".toList
    | shown => "unexpected `".toList ++ shown.take shownLength ++ ['`']

end Flaw

namespace Fault

/-- The wording of a fault. -/
def message (fault : Fault) : Text :=
  "syntax error at line ".toList ++ Text.ofNat fault.line ++ ", column ".toList ++
    Text.ofNat fault.column ++ ": ".toList ++ fault.flaw.message

/-- The line and column that follow from reading `offset` characters, counting from the
given ones. -/
def positionFrom (line column : Nat) : Nat → Text → Nat × Nat
  | 0, _ => (line, column)
  | _, [] => (line, column)
  | offset + 1, c :: rest =>
    if c = '\n' then positionFrom (line + 1) 1 offset rest
    else positionFrom line (column + c.utf8Size) offset rest

/-- A fault at an offset of a source. -/
def atOffset (source : Text) (offset : Nat) (flaw : Flaw) : Fault :=
  let position := positionFrom 1 1 offset source
  { line := position.1, column := position.2, flaw }

end Fault

/-- The signs that may be missing. -/
def closers : List Terminal :=
  [.sign [';'], .sign [')'], .sign [']'], .sign ['}'], .angleClose, .stringClose, .blockClose]

/-- The column after a terminal that the source does not have. Offsets from there on are
one too high, so that no two columns share one. -/
def Ahead.assume (x : Ahead) (terminal : Terminal) : Option Ahead :=
  let column := Column.close x.offset (TerminalSet.single terminal.code) x.seeds
  if column.expects terminal.code then
    some { x with
      offset := x.offset + 1
      seeds := column.read x.offset terminal.code x.offset x.offset }
  else none

/-- How many closing signs are missing at the end of the source, read from a column, at
most `limit`. -/
def Ahead.openSigns? : Nat → Ahead → Option Nat
  | 0, x => if x.finishes then some 0 else none
  | limit + 1, x =>
    match x.run with
    | .accepted _ => some 0
    | .stuck last _ =>
      if last.skipped.2.isEmpty then
        (closers.filterMap fun t => (last.here.assume t).bind (openSigns? limit)).min?.map (· + 1)
      else none

/-- How many closing signs may be missing at the end of a source besides the first. -/
def openLimit : Nat := 8

/-- Whether reading gets beyond the lexeme at `offset`, in the offsets of an assumed
terminal. -/
def Ahead.passes (offset : Nat) (x : Ahead) : Bool :=
  match x.run with
  | .accepted _ => true
  | .stuck last _ => offset < last.here.offset

/-- What repairs cost. -/
structure Prices where
  /-- Any repair. -/
  repair : Nat
  /-- A sign that is added. -/
  sign : Nat
  /-- A tree that is left out. -/
  tree : Nat
  /-- A byte that is left out. -/
  byte : Nat
  /-- A line break that is left out. -/
  line : Nat
  /-- How much a repair may seem worse than another one, times the nodes read so far. -/
  patience : Nat
  deriving DecidableEq, Repr

/-- The prices in use. -/
def prices : Prices :=
  { repair := 500, sign := 110, tree := 100, byte := 1, line := 30, patience := 1600 }

/-- A stretch of the source that is left out, and the trees it makes up. -/
structure Stretch where
  start : Nat
  stop : Nat
  trees : Nat
  deriving DecidableEq, Repr

/-- The price of leaving out so many trees over some text. -/
def Prices.leaveOut (p : Prices) (trees : Nat) (text : Text) : Nat :=
  p.repair + p.tree * trees + p.byte * Text.byteLength text + p.line * text.count '\n'

/-- The price of adding so many signs. -/
def Prices.add (p : Prices) (signs : Nat) : Nat :=
  (p.repair + p.sign) * signs

/-- A sign that could be added, how many are missing with it, and how many nodes have been
read then. -/
structure Addition where
  terminal : Terminal
  signs : Nat
  nodes : Nat

/-- Whether a rule stands for one keyword. -/
def Rule.isSingle (rule : Rule) : Bool :=
  match (rule.spot 0).edges with
  | [edge] =>
    match edge.goal with
    | .token _ _ => (rule.spot edge.next).edges.isEmpty
    | .rule _ => false
  | _ => false

mutual

/-- The number of nodes of a tree that end by `offset`; a rule that stands for one keyword
is one node with it. -/
def Node.countBy (offset : Nat) : Node → Nat
  | .node kind _ _ stop children =>
    let own := if stop ≤ offset then 1 else 0
    match kind with
    | .rule r => if r.isSingle then own else own + Node.countAllBy offset children
    | _ => own + Node.countAllBy offset children

/-- The number of nodes of some trees that end by `offset`. -/
def Node.countAllBy (offset : Nat) : List Node → Nat
  | [] => 0
  | n :: rest => n.countBy offset + Node.countAllBy offset rest

end

/-- The nodes read by `offset`, if the source can be read from a column. -/
def Ahead.nodesBy (offset : Nat) (x : Ahead) : Nat :=
  match x.run with
  | .accepted root => root.countBy offset
  | .stuck _ _ => 0

/-- The sign that could be added at a column, with the fewest others missing at the end of
the source. -/
def Ahead.Stop.addition? (s : Ahead.Stop) : Option Addition :=
  let assumed := closers.filterMap fun t => (s.here.assume t).map fun x => (t, x)
  (List.range (openLimit + 1)).findSome? fun more =>
    (assumed.find? fun entry => entry.2.openSigns? openLimit = some more).map fun entry =>
      { terminal := entry.1, signs := more + 1, nodes := entry.2.nodesBy s.here.offset }

/-- The sign that, added at a column, lets at least the next lexeme be read. -/
def Ahead.Stop.passing? (s : Ahead.Stop) : Option Terminal :=
  closers.find? fun t => (s.here.assume t).any (Ahead.passes (s.skipped.1 + 1))

/-- The length of the lexeme a text starts with; a character that starts none counts as
one. -/
def lexemeLength (t : Text) : Nat :=
  match mainCandidates t with
  | [] => 1
  | best :: _ => max best.length 1

/-- Leaves out lexemes from `offset` on until the rest can be read with the given items:
where the stretch ends, and how many lexemes it has besides the given ones. -/
def skipForward? (seeds : List Progress) : Nat → Nat → Nat → Text → Option (Nat × Nat)
  | 0, _, _, _ => none
  | fuel + 1, lexemes, offset, rest =>
    let length := min (lexemeLength rest) rest.length
    let after : Ahead := { offset := offset + length, rest := rest.drop length, seeds }
    if after.finishes then some (after.offset, lexemes + 1)
    else
      let next := skipBlank 0 after.offset after.rest
      if next.2.isEmpty then none else skipForward? seeds fuel (lexemes + 1) next.1 next.2

/-- The stretch from where reading got stuck. -/
def Ahead.Stop.forward? (s : Ahead.Stop) : Option Stretch :=
  let (start, rest) := s.skipped
  (skipForward? s.here.seeds rest.length 0 start rest).map fun (stop, trees) =>
    { start, stop, trees }

/-- The number of lexemes up to `stop`. -/
def lexemesUpTo (stop : Nat) : Nat → Nat → Text → Nat
  | 0, _, _ => 0
  | fuel + 1, offset, rest =>
    let next := skipBlank 0 offset rest
    if stop ≤ next.1 then 0
    else
      let length := min (lexemeLength next.2) next.2.length
      lexemesUpTo stop fuel (next.1 + length) (next.2.drop length) + 1

/-- The stretch in front of where reading got stuck, back to the nearest column from which
the rest can be read, and that column. All of it that was read as one tree counts as
one. -/
def Ahead.Stop.backward? (s : Ahead.Stop) (before : List Ahead) : Option (Stretch × Ahead) :=
  (before.find? fun x => ({ s.here with seeds := x.seeds } : Ahead).finishes).map fun x =>
    let start := (skipBlank 0 x.offset x.rest).1
    let stop := s.here.offset
    let isTree := s.column.items.any fun item =>
      item.start = x.offset && item.spot.final && !item.rule.isHidden
    let trees := if isTree then 1 else lexemesUpTo stop x.rest.length x.offset x.rest
    ({ start, stop, trees }, x)

/-- Whether leaving out a stretch that has been read is still tried when a sign could be
added. -/
def isTried (source : Text) (addition : Option Addition) (stretch : Stretch) (back : Ahead) :
    Bool :=
  match addition with
  | none => true
  | some a =>
    let text := Text.slice source back.offset stretch.stop
    let excess := prices.leaveOut (stretch.trees + 1) text - prices.add a.signs
    excess * (a.nodes + 1) ≤ prices.patience

/-- The price of leaving out a stretch. -/
def Stretch.price (source : Text) (s : Stretch) : Nat :=
  prices.leaveOut s.trees (Text.slice source s.start s.stop)

/-- The cheaper of two stretches, and of equals the first. -/
def Stretch.cheaper? (source : Text) (a b : Option Stretch) : Option Stretch :=
  match a, b with
  | some a, some b => some (if a.price source ≤ b.price source then a else b)
  | a, b => a <|> b

/-- The fault of a source on which reading got stuck. -/
def Reading.fault (source : Text) (last : Ahead.Stop) (before : List Ahead) : Fault :=
  let addition := last.addition?
  let backward := (last.backward? before).filter fun entry =>
    isTried source addition entry.1 entry.2
  let missing (terminal : Terminal) : Fault :=
    Fault.atOffset source last.here.offset (.missing terminal)
  let unexpected (start stop : Nat) : Fault :=
    Fault.atOffset source start (.unexpected (Text.slice source start stop))
  match addition, Stretch.cheaper? source last.forward? (backward.map (·.1)) with
  | some a, some s =>
    if s.price source < prices.add a.signs then unexpected s.start s.stop else missing a.terminal
  | some a, none => missing a.terminal
  | none, some s => unexpected s.start s.stop
  | none, none =>
    match last.passing? with
    | some terminal => missing terminal
    | none => unexpected last.skipped.1 source.length

/-- The syntax tree of a source, comments included, or its fault. -/
def readTree (source : Text) : Except Fault Node :=
  match (Ahead.initial source).run with
  | .accepted root => .ok (root.withComments source)
  | .stuck last before => .error (Reading.fault source last before)

end Rethrow.Java
