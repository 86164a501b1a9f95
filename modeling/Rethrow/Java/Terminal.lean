import Rethrow.Text.Word

/-!
# Terminals of Java source

A word is a name or a keyword; which of the two is decided by what the grammar
expects where it stands. A sign is an operator or a piece of punctuation. The bracket
that closes type arguments is a terminal of its own: it is read as one character also
where a longer sign starts with it.

Each terminal has a code, so that sets of terminals are numbers.
-/

namespace Rethrow.Java

/-- The words that may stand for themselves somewhere in the grammar. -/
def keywords : List Text := List.map String.toList [
  "_", "abstract", "assert", "boolean", "break", "byte", "case", "catch", "char", "class",
  "continue", "default", "do", "double", "else", "enum", "exports", "extends", "false",
  "final", "finally", "float", "for", "if", "implements", "import", "instanceof", "int",
  "interface", "long", "module", "native", "new", "null", "open", "opens", "package",
  "permits", "private", "protected", "provides", "public", "record", "requires", "return",
  "sealed", "short", "static", "strictfp", "super", "switch", "synchronized", "this",
  "throw", "throws", "to", "transient", "transitive", "true", "try", "uses", "void",
  "volatile", "when", "while", "with", "yield"]

/-- The operators and punctuation, with the two that are spelled with letters. -/
def signs : List Text := List.map String.toList [
  "!", "!=", "\"", "\"\"\"", "%", "%=", "&", "&&", "&=", "(", ")", "*", "*=", "+", "++", "+=",
  ",", "-", "--", "-=", "->", ".", "...", "/", "/=", ":", "::", ";", "<", "<<", "<<=", "<=",
  "=", "==", ">", ">=", ">>", ">>=", ">>>", ">>>=", "?", "@", "@interface", "[", "]", "^",
  "^=", "non-sealed", "\x7b", "|", "|=", "||", "\x7d", "~"]

/-- A terminal of the grammar. -/
inductive Terminal where
  | identifier
  | number
  | character
  /-- The bracket that closes type arguments or type parameters. -/
  | angleClose
  /-- Plain characters of a string literal. -/
  | stringPart
  /-- An escape of a string literal. -/
  | stringEscape
  /-- The quote that ends a string literal. -/
  | stringClose
  /-- Plain characters of a text block. -/
  | blockPart
  /-- An escape of a text block. -/
  | blockEscape
  /-- The quotes that end a text block. -/
  | blockClose
  /-- What opens an expression inside a string literal or text block. -/
  | embedOpen
  | keyword (spelling : Text)
  | sign (spelling : Text)
  deriving DecidableEq, Repr

namespace Terminal

/-- The number of a terminal. -/
def code : Terminal → Nat
  | identifier => 0
  | number => 1
  | character => 2
  | angleClose => 3
  | stringPart => 4
  | stringEscape => 5
  | stringClose => 6
  | blockPart => 7
  | blockEscape => 8
  | blockClose => 9
  | embedOpen => 10
  | keyword spelling => 11 + keywords.idxOf spelling
  | sign spelling => 11 + keywords.length + signs.idxOf spelling

/-- How a terminal is shown when it is missing from a source. -/
def spelling : Terminal → Text
  | angleClose => ['>']
  | stringClose => ['"']
  | blockClose => "\"\"\"".toList
  | keyword spelling => spelling
  | sign spelling => spelling
  | identifier => "identifier".toList
  | _ => []

/-- Whether a terminal makes a named node by itself. -/
def isNamed : Terminal → Bool
  | identifier => true
  | number => true
  | character => true
  | _ => false

end Terminal

end Rethrow.Java
