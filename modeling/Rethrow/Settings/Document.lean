import Rethrow.Settings.Quoted

/-!
# Settings files

A settings file is a TOML document without tables: lines of the form `key = value`, blank
lines and comments. A value is a text, a list of texts, or a truth value. Numbers, dates,
tables and dotted keys have no meaning as a setting, so a file that has one is refused
like a malformed one.
-/

namespace Rethrow.Settings

/-- A value of a setting. -/
inductive Value where
  | text (content : Text)
  | texts (contents : List Text)
  | flag (on : Bool)
  deriving DecidableEq, Repr

/-- The input behind a line break. -/
def newline? : Text → Option Text
  | '\n' :: rest => some rest
  | '\r' :: '\n' :: rest => some rest
  | _ => none

/-- The input behind blanks. -/
def skipGaps (input : Text) : Text :=
  input.dropWhile isGap

/-- The input behind a comment, if it begins with one. -/
def skipComment : Text → Text
  | '#' :: rest => rest.dropWhile isPlain
  | input => input

/-- The input behind the end of a line, which may be the end of the input. -/
def lineEnd? (input : Text) : Option Text :=
  match skipComment (skipGaps input) with
  | [] => some []
  | rest => newline? rest

/-- The input behind blanks, comments and line breaks. -/
def skipLines : Nat → Text → Text
  | 0, input => input
  | fuel + 1, input =>
    let behind := skipComment (skipGaps input)
    match newline? behind with
    | some rest => skipLines fuel rest
    | none => behind

/-- The input behind all blanks, comments and line breaks in front. -/
def skipVoid (input : Text) : Text :=
  skipLines input.length input

/-- Reads the texts of a list up to its closing bracket. -/
def readItems : Nat → Text → Option (List Text × Text)
  | 0, _ => none
  | fuel + 1, input =>
    match skipVoid input with
    | ']' :: rest => some ([], rest)
    | input => do
      let (item, rest) ← readText? input
      match skipVoid rest with
      | ']' :: rest => some ([item], rest)
      | ',' :: rest => do
        let (items, rest) ← readItems fuel rest
        some (item :: items, rest)
      | _ => none

/-- Reads a value, and what follows it. -/
def readValue? : Text → Option (Value × Text)
  | 't' :: 'r' :: 'u' :: 'e' :: rest => some (.flag true, rest)
  | 'f' :: 'a' :: 'l' :: 's' :: 'e' :: rest => some (.flag false, rest)
  | '[' :: rest => (readItems (rest.length + 1) rest).map fun (items, rest) => (.texts items, rest)
  | input => (readText? input).map fun (content, rest) => (.text content, rest)

/-- Whether a character may stand in a key without quotes. -/
def isKeyPart (c : Char) : Bool :=
  c.isAlphanum || c = '_' || c = '-'

/-- Reads a key, and what follows it. -/
def readKey? (input : Text) : Option (Text × Text) :=
  match input.takeWhile isKeyPart with
  | [] => readLineText? input
  | key => some (key, input.dropWhile isKeyPart)

/-- Reads a setting up to the end of its line, and what follows it. -/
def readSetting? (input : Text) : Option ((Text × Value) × Text) := do
  let (key, rest) ← readKey? input
  match skipGaps rest with
  | '=' :: rest =>
    let (value, rest) ← readValue? (skipGaps rest)
    let rest ← lineEnd? rest
    some ((key, value), rest)
  | _ => none

/-- Reads the settings of a document. -/
def readSettings : Nat → Text → Option (List (Text × Value))
  | 0, _ => none
  | fuel + 1, input =>
    match skipVoid input with
    | [] => some []
    | input => do
      let (setting, rest) ← readSetting? input
      let more ← readSettings fuel rest
      some (setting :: more)

/-- The settings of a document in its order; a byte order mark in front is passed over. -/
def readDocument? (input : Text) : Option (List (Text × Value)) :=
  let input :=
    match input with
    | '\uFEFF' :: rest => rest
    | input => input
  readSettings (input.length + 1) input

end Rethrow.Settings
