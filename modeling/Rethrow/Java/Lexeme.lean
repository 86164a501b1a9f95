import Rethrow.Grammar.Regex
import Rethrow.Java.Terminal

/-!
# Lexemes of Java source

What may be read at a place of a source. Spaces and comments may stand in front of
every lexeme that is not part of a literal. The candidates at a place fall into three
groups, and of each group the longest one that is expected there is taken:

* words, signs and literals, where a keyword comes before a name of the same length;
* the bracket that closes type arguments, which competes with nothing;
* the pieces of string literals and text blocks, in front of which nothing is skipped.

The null character is no part of any literal or comment.
-/

namespace Rethrow.Java

open Grammar

/-- The characters that separate lexemes. -/
def isSpace (c : Char) : Bool :=
  c == ' ' || (9 ≤ c.toNat && c.toNat ≤ 13)

/-- Whether a character may stand in a literal or comment. -/
def isPlain (c : Char) : Bool :=
  c.toNat != 0

/-- The number of characters up to the end of a block comment whose opening was
read. -/
def blockCommentEnd : Text → Option Nat
  | [] => none
  | '*' :: '/' :: _ => some 2
  | c :: rest => if isPlain c then (blockCommentEnd rest).map (· + 1) else none

/-- The kinds of comments. -/
inductive CommentKind where
  | line
  | block
  deriving DecidableEq, Repr

/-- The comment a text starts with, by its kind and length. -/
def leadingComment : Text → Option (CommentKind × Nat)
  | '/' :: '/' :: rest => some (.line, 2 + (rest.takeWhile fun c => c ≠ '\n' && isPlain c).length)
  | '/' :: '*' :: rest => (blockCommentEnd rest).map fun n => (.block, n + 2)
  | _ => none

/-- Skips spaces and comments. The first `due` characters belong to a comment; the
result is the offset reached and the text from there on. -/
def skipBlank : Nat → Nat → Text → Nat × Text
  | _, offset, [] => (offset, [])
  | due + 1, offset, _ :: rest => skipBlank due (offset + 1) rest
  | 0, offset, c :: rest =>
    if isSpace c then skipBlank 0 (offset + 1) rest
    else
      match leadingComment (c :: rest) with
      | some (_, length) => skipBlank (length - 1) (offset + 1) rest
      | none => (offset, c :: rest)

/-- The comments of a text that holds nothing but spaces and comments, as kind, start
and end. The first `due` characters belong to a comment already listed. -/
def commentsIn : Nat → Nat → Text → List (CommentKind × Nat × Nat)
  | _, _, [] => []
  | due + 1, offset, _ :: rest => commentsIn due (offset + 1) rest
  | 0, offset, c :: rest =>
    match leadingComment (c :: rest) with
    | some (kind, length) =>
      (kind, offset, offset + length) :: commentsIn (length - 1) (offset + 1) rest
    | none => commentsIn 0 (offset + 1) rest

namespace Number

/-- A decimal digit. -/
def digit : Regex := Regex.range '0' '9'

/-- Digits with single underscores between groups. -/
def grouped (d : Regex) : Regex :=
  Regex.separated (Regex.some d) (Regex.char '_')

/-- A decimal integer without superfluous zeros. -/
def plainDigits : Regex :=
  Regex.alt (Regex.char '0')
    (Regex.seq (Regex.range '1' '9')
      (Regex.opt (Regex.seq (Regex.opt (Regex.char '_'))
        (Regex.separated (Regex.some digit) (Regex.some (Regex.char '_'))))))

/-- Decimal digits with single underscores between groups. -/
def decimalDigits : Regex := grouped digit

/-- Hexadecimal digits with single underscores between groups. -/
def hexDigit : Regex :=
  Regex.any [digit, Regex.range 'a' 'f', Regex.range 'A' 'F']

/-- The mark of a long integer. -/
def longMark : Regex := Regex.opt (Regex.oneOf ['l', 'L'])

/-- The mark of a floating-point number. -/
def floatMark : Regex := Regex.oneOf ['f', 'F', 'd', 'D']

/-- A sign that may be left out. -/
def optSign : Regex := Regex.opt (Regex.oneOf ['-', '+'])

/-- A decimal exponent. -/
def exponent : Regex := Regex.all [Regex.oneOf ['e', 'E'], optSign, decimalDigits]

/-- Integers and floating-point numbers of every base. -/
def number : Regex :=
  Regex.any [
    Regex.seq plainDigits longMark,
    Regex.all [Regex.char '0', Regex.oneOf ['x', 'X'], grouped hexDigit, longMark],
    Regex.all [Regex.char '0', Regex.opt (Regex.oneOf ['o', 'O']), grouped (Regex.range '0' '7'),
      longMark],
    Regex.all [Regex.char '0', Regex.oneOf ['b', 'B'], grouped (Regex.range '0' '1'), longMark],
    Regex.all [decimalDigits, Regex.char '.', Regex.opt decimalDigits, Regex.opt exponent,
      Regex.opt floatMark],
    Regex.all [Regex.char '.', decimalDigits, Regex.opt exponent, Regex.opt floatMark],
    Regex.all [plainDigits, Regex.oneOf ['e', 'E', 'p', 'P'], optSign, decimalDigits,
      Regex.opt floatMark],
    Regex.all [plainDigits, Regex.opt exponent, floatMark],
    Regex.all [Regex.char '0', Regex.oneOf ['x', 'X'],
      Regex.alt (Regex.seq (grouped hexDigit) (Regex.opt (Regex.char '.')))
        (Regex.all [Regex.opt (grouped hexDigit), Regex.char '.', grouped hexDigit]),
      Regex.opt (Regex.all [Regex.oneOf ['e', 'E', 'p', 'P'], optSign, plainDigits,
        Regex.opt floatMark])]]

end Number

/-- A character literal; it may hold several characters. -/
def characterLiteral : Regex :=
  Regex.all [Regex.char '\'',
    Regex.some (Regex.alt
      (Regex.one fun c => c ≠ '\\' && c ≠ '\'' && c ≠ '\n' && isPlain c)
      (Regex.seq (Regex.char '\\') (Regex.one isPlain))),
    Regex.char '\'']

/-- An escape of a string literal. -/
def escapeSequence : Regex :=
  let octal := Regex.range '0' '7'
  let hex := Number.hexDigit
  Regex.seq (Regex.char '\\') (Regex.any [
    Regex.one fun c => c ≠ 'x' && c ≠ 'u' && !('0' ≤ c && c ≤ '7') && isPlain c,
    Regex.all [octal, Regex.opt octal, Regex.opt octal],
    Regex.all [Regex.char 'x', hex, hex],
    Regex.all [Regex.char 'u', hex, hex, hex, hex],
    Regex.all [Regex.char 'u', Regex.char '{', Regex.some hex, Regex.char '}']])

/-- An escape of a text block. -/
def blockEscapeSequence : Regex :=
  Regex.alt escapeSequence (Regex.seq (Regex.char '\\') (Regex.one isPlain))

/-- The length of a piece of a text block that starts with a quote. -/
def quoteRun : Text → Nat
  | '\\' :: '"' :: rest => quoteRun rest + 2
  | c :: rest => if c ≠ '"' && c ≠ '\\' && isPlain c then quoteRun rest + 1 else 0
  | [] => 0

/-- The number of plain characters a text starts with, as literals count them. -/
def plainRun (t : Text) : Nat :=
  (t.takeWhile fun c => c ≠ '"' && c ≠ '\\' && isPlain c).length

/-- The length of the piece of a text block that a text starts with. A comment opened
at the start of a piece is read as a whole. -/
def blockRun (t : Text) : Nat :=
  match t with
  | '"' :: rest => quoteRun rest + 1
  | _ =>
    let spaces := (t.takeWhile isSpace).length
    match leadingComment (t.drop spaces) with
    | some (_, length) => max (plainRun t) (spaces + length)
    | none => plainRun t

/-- A terminal that can be read somewhere, by its code and length. -/
structure Candidate where
  code : Nat
  length : Nat
  deriving DecidableEq, Repr

/-- Inserts a candidate behind those that are at least as long. -/
def Candidate.insert (x : Candidate) : List Candidate → List Candidate
  | [] => [x]
  | y :: ys => if y.length < x.length then x :: y :: ys else y :: Candidate.insert x ys

/-- Candidates by falling length; those of one length keep their order. -/
def Candidate.order (xs : List Candidate) : List Candidate :=
  xs.foldl (fun sorted x => x.insert sorted) []

/-- A candidate of some length, unless that is zero. -/
def Candidate.ofLength (terminal : Terminal) (length : Nat) : List Candidate :=
  if length = 0 then [] else [{ code := terminal.code, length }]

/-- A candidate of the length of a match, if there is one. -/
def Candidate.ofMatch (terminal : Terminal) (r : Regex) (t : Text) : List Candidate :=
  Candidate.ofLength terminal ((r.longest t).getD 0)

/-- The words with their codes. -/
def keywordCodes : List (Text × Nat) :=
  keywords.map fun w => (w, (Terminal.keyword w).code)

/-- The signs with their codes and lengths. -/
def signCodes : List (Text × Candidate) :=
  signs.map fun s => (s, { code := (Terminal.sign s).code, length := s.length })

/-- The candidates for a word: the keyword of that spelling, then a name. -/
def wordCandidates (t : Text) : List Candidate :=
  match Text.leadingWord t with
  | [] => []
  | word =>
    let length := word.length
    ((keywordCodes.filter (·.1 == word)).map fun entry => { code := entry.2, length }) ++
      [{ code := Terminal.identifier.code, length }]

/-- The signs a text starts with. -/
def signCandidates (t : Text) : List Candidate :=
  (signCodes.filter fun entry => Text.startsWith t entry.1).map (·.2)

/-- The candidates of the first group, best first. -/
def mainCandidates (t : Text) : List Candidate :=
  match t with
  | [] => []
  | c :: _ =>
    Candidate.order (signCandidates t ++ wordCandidates t ++
      (if c == '.' || ('0' ≤ c && c ≤ '9') then Candidate.ofMatch .number Number.number t
        else []) ++
      if c == '\'' then Candidate.ofMatch .character characterLiteral t else [])

/-- The candidate of the second group. -/
def angleCandidates : Text → List Candidate
  | '>' :: _ => [{ code := Terminal.angleClose.code, length := 1 }]
  | _ => []

/-- The candidates of the third group, best first. -/
def innerCandidates (t : Text) : List Candidate :=
  match t with
  | [] => []
  | '\\' :: rest =>
    Candidate.order ((if Text.startsWith rest ['{'] then Candidate.ofLength .embedOpen 2 else []) ++
      Candidate.ofMatch .stringEscape escapeSequence t ++
      Candidate.ofMatch .blockEscape blockEscapeSequence t)
  | '"' :: _ =>
    Candidate.order (Candidate.ofLength .stringClose 1 ++
      (if Text.startsWith t "\"\"\"".toList then Candidate.ofLength .blockClose 3 else []) ++
      Candidate.ofLength .blockPart (blockRun t))
  | _ => Candidate.ofLength .stringPart (plainRun t) ++ Candidate.ofLength .blockPart (blockRun t)

end Rethrow.Java
