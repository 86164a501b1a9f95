import Rethrow.Proofs.Text.Literal
import Rethrow.Proofs.Unit.Tokens
import Rethrow.Wrapper.Wrap

/-!
# The message of the handler

A handler throws its failure with a message of the user's choice. Whatever the message holds,
the statement that throws it is one line, the lexer reads the escaped message as one literal in
it, and that literal denotes the message (`Wrapper.message_survives`).
-/

namespace Rethrow

namespace Text

/-- A nonempty run of the characters that names are made of. -/
def IsWord (t : Text) : Prop :=
  t ≠ [] ∧ ∀ c ∈ t, isWordPart c = true

instance (t : Text) : Decidable (IsWord t) :=
  inferInstanceAs (Decidable (_ ∧ _))

/-- Words with a dot between neighbours. -/
def dotted (words : List Text) : Text :=
  joinWith ['.'] words

theorem dotted_cons_cons (word next : Text) (more : List Text) :
    dotted (word :: next :: more) = word ++ '.' :: dotted (next :: more) := by
  simp [dotted, joinWith, List.intercalate_cons_cons]

/-- A character of a dotted name is a dot or part of a word. -/
theorem mem_dotted {words : List Text} (isWord : ∀ word ∈ words, IsWord word) {c : Char}
    (found : c ∈ dotted words) : c = '.' ∨ isWordPart c = true := by
  induction words with
  | nil => simp [dotted, joinWith] at found
  | cons word more ih =>
      rw [List.forall_mem_cons] at isWord
      cases more with
      | nil => exact .inr (isWord.1.2 c (by simpa [dotted, joinWith] using found))
      | cons next more =>
          rw [dotted_cons_cons, List.mem_append, List.mem_cons] at found
          rcases found with inside | rfl | later
          · exact .inr (isWord.1.2 c inside)
          · exact .inl rfl
          · exact ih isWord.2 later

end Text

namespace Lexical

/-! ## Names -/

/-- A text without marks is scanned character by character. -/
theorem scan_of_clear (reach : Reach) {t : Text} (clear : ∀ c ∈ t, Clear c ∧ c ≠ '\'') :
    scan reach .code t = t.map (·, .code) ∧ after reach .code t = .code := by
  induction t with
  | nil => exact ⟨rfl, rfl⟩
  | cons c rest ih =>
      rw [List.forall_mem_cons] at clear
      obtain ⟨scanned, ended⟩ := scan_code_cons clear.1.1 clear.1.2 reach rest
      obtain ⟨scannedRest, endedRest⟩ := ih clear.2
      rw [scanned, ended, scannedRest, endedRest]
      exact ⟨rfl, rfl⟩

theorem clear_of_dotted {words : List Text} (isWord : ∀ word ∈ words, Text.IsWord word) :
    ∀ c ∈ Text.dotted words, Clear c ∧ c ≠ '\'' ∧ c ≠ '\\' ∧ c ≠ '\r' ∧ c ≠ '\n' := by
  intro c found
  rcases Text.mem_dotted isWord found with rfl | part
  · simp [Clear]
  · refine ⟨⟨?_, ?_, ?_⟩, ?_, ?_, ?_, ?_⟩ <;> · rintro rfl; revert part; decide

/-- The characters of a word are one token. -/
theorem complete_wordParts {part : Text} (inside : ∀ c ∈ part, Text.isWordPart c = true)
    (lead : Text) (rest : List (Char × Mark)) :
    words.complete (.word lead) (part.map (·, .code) ++ rest) =
      words.complete (.word (lead ++ part)) rest := by
  induction part generalizing lead with
  | nil => simp
  | cons c part ih =>
      rw [List.forall_mem_cons] at inside
      rw [List.map_cons, List.cons_append, Grouping.complete_cons, words_take]
      simp only [Pending.take, inside.1, if_true, List.nil_append]
      rw [ih inside.2, List.append_assoc, List.singleton_append]

theorem complete_word {word : Text} (isWord : Text.IsWord word) (rest : List (Char × Mark)) :
    words.complete .none (word.map (·, .code) ++ rest) = words.complete (.word word) rest := by
  obtain ⟨some, inside⟩ := isWord
  cases word with
  | nil => exact absurd rfl some
  | cons c word =>
      rw [List.forall_mem_cons] at inside
      rw [List.map_cons, List.cons_append, Grouping.complete_cons, words_take]
      simp only [Pending.take, inside.1, if_true, Pending.flush, List.nil_append]
      rw [complete_wordParts inside.2, List.singleton_append]

/-- The tokens of a dotted name are its words and the dots between them. -/
theorem tokens_dotted {parts : List Text} (isWord : ∀ part ∈ parts, Text.IsWord part) :
    tokens (Text.dotted parts) = parts.intersperse ['.'] := by
  have scanned := (scan_of_clear .line fun c found =>
    ⟨(clear_of_dotted isWord c found).1, (clear_of_dotted isWord c found).2.1⟩).1
  rw [tokens, scanned]
  clear scanned
  induction parts with
  | nil => rfl
  | cons part more ih =>
      rw [List.forall_mem_cons] at isWord
      cases more with
      | nil =>
          have alone := complete_word isWord.1 []
          rw [List.append_nil] at alone
          simpa [Text.dotted, Text.joinWith, Pending.flush] using alone
      | cons next more =>
          rw [Text.dotted_cons_cons, List.map_append, complete_word isWord.1, List.map_cons,
            Grouping.complete_cons, words_take, Pending.take_code (by decide), ih isWord.2]
          rfl

/-! ## Literals -/

/-- Between double quotes the lexer passes over an escaped value. -/
theorem scan_escape (reach : Reach) (value rest : Text) :
    scan reach (.quoted .double) (Text.escape value ++ rest) =
        (Text.escape value).map (·, .inside) ++ scan reach (.quoted .double) rest ∧
      after reach (.quoted .double) (Text.escape value ++ rest) =
        after reach (.quoted .double) rest := by
  induction value with
  | nil => exact ⟨rfl, rfl⟩
  | cons c value ih =>
      rw [Text.escape, List.flatMap_cons, List.append_assoc, ← Text.escape]
      rcases Text.escapeChar_cases c with
        ⟨shape, noQuote, noSlash, noFeed, -⟩ | ⟨letter, shape, -, noFeed, -⟩
      · rw [shape, List.singleton_append, scan, after]
        · simp [Quote.char, noQuote, ih]
        all_goals assumption
      · rw [shape, List.cons_append, List.singleton_append, scan, after, scan, after]
        · simp [ih]
        all_goals assumption

theorem scan_literal (reach : Reach) (value : Text) :
    scan reach .code ('"' :: (Text.escape value ++ ['"'])) =
        ('"', .opens) :: (Text.escape value ++ ['"']).map (·, .inside) ∧
      after reach .code ('"' :: (Text.escape value ++ ['"'])) = .code := by
  -- A value that is empty leaves two quotes, and every other one starts with no quote.
  have noBlock : ∀ rest, Text.escape value ++ ['"'] = '"' :: '"' :: rest → False := by
    intro rest shape
    cases value with
    | nil => simp [Text.escape] at shape
    | cons c value =>
        rw [Text.escape, List.flatMap_cons, List.append_assoc] at shape
        rcases Text.escapeChar_cases c with ⟨single, noQuote, -⟩ | ⟨letter, pair, -⟩
        · rw [single] at shape
          exact noQuote (List.cons.inj shape).1
        · rw [pair] at shape
          exact absurd (List.cons.inj shape).1 (by decide)
  obtain ⟨scanned, ended⟩ := scan_escape reach value ['"']
  rw [scan, after, scanned, ended]
  · simp [scan, after, Quote.char]
  all_goals exact noBlock

theorem complete_inside (lead inner : Text) :
    words.complete (.literal lead) (inner.map (·, .inside)) = [lead ++ inner] := by
  induction inner generalizing lead with
  | nil => simp [Pending.flush]
  | cons c inner ih => simp [Pending.take, ih]

/-- The literal of an escaped value is closed by its own last quote and is one token. -/
theorem tokens_literal (value : Text) :
    tokens (['"'] ++ Text.escape value ++ ['"']) = [['"'] ++ Text.escape value ++ ['"']] ∧
      Closed .line (['"'] ++ Text.escape value ++ ['"']) := by
  obtain ⟨scanned, ended⟩ := scan_literal .line value
  rw [List.append_assoc, List.singleton_append]
  refine ⟨?_, ended⟩
  rw [tokens, scanned, Grouping.complete_cons, words_take]
  exact complete_inside ['"'] (Text.escape value ++ ['"'])

/-- A line that the lexer reads from code to code leaves the line scanner in code. -/
theorem scanLine_of_closed {line : Text} (free : '\n' ∉ line) (closed : Closed .line line) :
    Fragment.scanLine .code line = .code := by
  have agrees := @agrees_after .code line trivial free
  rw [middle, closed] at agrees
  cases shape : Fragment.scanLine .code line with
  | code => rfl
  | quoted quote => simp [shape, Agrees] at agrees
  | textBlock => simp [shape, Agrees] at agrees
  | blockComment => simp [shape, Agrees] at agrees

end Lexical

/-! ## The statement that throws -/

namespace Wrapper

variable {options : Options} {parts : List Text}

/-- The statement that throws the failure, on one line. -/
def rethrowLine (options : Options) : Text :=
  "throw new ".toList ++ options.uncheckedType ++ "(\"".toList ++ Text.escape options.message ++
    "\", e);".toList

theorem rethrowLine_eq (options : Options) :
    rethrowLine options = "throw ".toList ++
      (Expr.create options.uncheckedType
        [Expr.ofString options.message, .name caughtName]).render ++ [';'] := by
  have rendered : (Expr.create options.uncheckedType
      [Expr.ofString options.message, .name caughtName]).render =
        "new ".toList ++ options.uncheckedType ++ ['('] ++ Text.joinWith ", ".toList
          [['"'] ++ Text.escape options.message ++ ['"'], caughtName] ++ [')'] := rfl
  have arguments : ∀ mark a b : Text, Text.joinWith mark [a, b] = a ++ (mark ++ b) := by
    simp [Text.joinWith, List.intercalate_cons_cons]
  have lead : "throw new ".toList = "throw ".toList ++ "new ".toList := rfl
  have opening : "(\"".toList = ['('] ++ ['"'] := rfl
  have ending : "\", e);".toList = ['"'] ++ (", ".toList ++ (caughtName ++ ([')'] ++ [';']))) := rfl
  unfold rethrowLine
  rw [rendered, arguments, lead, opening, ending]
  simp only [List.append_assoc]

/-- The pieces of the failure that is thrown. -/
theorem pieces_rethrown (options : Options) :
    (Expr.create options.uncheckedType
        [Expr.ofString options.message, .name caughtName]).pieces =
      [Piece.fixed "new", Piece.whole options.uncheckedType, Piece.fixed "(",
        Piece.whole (['"'] ++ Text.escape options.message ++ ['"']), Piece.fixed ",",
        Piece.whole caughtName, Piece.fixed ")"] := rfl

/-- The line is read as its pieces: the words, the signs and the literal. -/
theorem spells_rethrowLine (isWord : ∀ part ∈ parts, Text.IsWord part)
    (named : options.uncheckedType = Text.dotted parts) :
    Lexical.tokenLexing.Spells false (rethrowLine options)
      ([Piece.fixed "throw"] ++
        (Expr.create options.uncheckedType
          [Expr.ofString options.message, .name caughtName]).pieces ++ [Piece.fixed ";"]) := by
  have clear := Lexical.clear_of_dotted isWord
  have name : Lexical.tokenLexing.Fits (Piece.whole options.uncheckedType) := by
    rw [named]
    exact ⟨(Lexical.scan_of_clear .line fun c found => ⟨(clear c found).1, (clear c found).2.1⟩).2,
      fun found => (clear _ found).2.2.2.1 rfl⟩
  have literal : Lexical.tokenLexing.Fits
      (Piece.whole (['"'] ++ Text.escape options.message ++ ['"'])) := by
    refine ⟨(Lexical.tokens_literal options.message).2, fun found => ?_⟩
    simp [Piece.whole, (Text.isBodyOf_escape options.message).noReturn] at found
  have sign : ∀ t : Text, t.all isUnmarked = true →
      Lexical.tokenLexing.Fits (Piece.whole t) := fun _ plain =>
    Lexical.tokenLexing.closed_plain plain
  have fits : ∀ piece ∈ (Expr.create options.uncheckedType
      [Expr.ofString options.message, .name caughtName]).pieces,
        Lexical.tokenLexing.Fits piece := by
    rw [pieces_rethrown]
    simp only [List.forall_mem_cons]
    exact ⟨sign _ (by decide), name, sign _ (by decide), literal, sign _ (by decide),
      sign _ (by decide), sign _ (by decide), by simp⟩
  rw [rethrowLine_eq]
  exact ((Lexing.spells_lead "throw" (by decide)).append (Expr.spells_render _ fits)
    (joint_concat (by decide))).append (Lexical.tokenLexing.spells_fixed ";" (by decide))
    (joint_cons (by decide))

/-- The line leaves nothing open. -/
theorem closed_rethrowLine (isWord : ∀ part ∈ parts, Text.IsWord part)
    (named : options.uncheckedType = Text.dotted parts) :
    Lexical.Closed .line (rethrowLine options) ∧ '\r' ∉ rethrowLine options :=
  (spells_rethrowLine isWord named).ends

theorem tokens_rethrowLine (isWord : ∀ part ∈ parts, Text.IsWord part)
    (named : options.uncheckedType = Text.dotted parts) :
    Lexical.tokens (rethrowLine options) =
      ["throw".toList, "new".toList] ++ parts.intersperse ['.'] ++
        ["(".toList, ['"'] ++ Text.escape options.message ++ ['"'], ",".toList, "e".toList,
          ")".toList, ";".toList] := by
  have signs : ∀ sign ∈ ["throw", "new", "(", ",", "e", ")", ";"],
      Lexical.tokens sign.toList = [sign.toList] := by decide
  simp only [List.forall_mem_cons] at signs
  obtain ⟨throwing, creating, opening, comma, binder, closing, ending, -⟩ := signs
  have read : Lexical.tokenLexing.out = Lexical.tokens := rfl
  refine (spells_rethrowLine isWord named).out.trans ?_
  rw [pieces_rethrown, named]
  simp only [Lexing.outAll_append, Lexing.outAll_cons, Lexing.outAll_nil, List.append_nil,
    Piece.fixed, Piece.text_whole, caughtName, read]
  rw [throwing, creating, opening, comma, binder, closing, ending, Lexical.tokens_dotted isWord,
    (Lexical.tokens_literal options.message).1]
  simp only [List.cons_append, List.nil_append, List.append_assoc]

theorem feed_not_mem_rethrowLine (isWord : ∀ part ∈ parts, Text.IsWord part)
    (named : options.uncheckedType = Text.dotted parts) : '\n' ∉ rethrowLine options := by
  have name : '\n' ∉ options.uncheckedType := by
    rw [named]
    exact fun found => (Lexical.clear_of_dotted isWord _ found).2.2.2.2 rfl
  unfold rethrowLine
  simp only [List.mem_append, not_or]
  exact ⟨⟨⟨⟨by decide, name⟩, by decide⟩, (Text.isBodyOf_escape options.message).noFeed⟩,
    by decide⟩

/-- The line holds no Unicode escape, so it is read as it stands. -/
theorem unfolding_rethrowLine (isWord : ∀ part ∈ parts, Text.IsWord part)
    (named : options.uncheckedType = Text.dotted parts) :
    Text.unfolding.run .plain (rethrowLine options) = some (Text.units (rethrowLine options)) := by
  have name : '\\' ∉ options.uncheckedType := by
    rw [named]
    exact fun found => (Lexical.clear_of_dotted isWord _ found).2.2.1 rfl
  have fixed : ∀ t : Text, '\\' ∉ t → Text.unfolding.Loops .plain t (Text.units t) :=
    fun _ => Text.unfolding_of_not_mem
  have whole := (((((fixed "throw new ".toList (by decide)).append (fixed _ name)).append
    (fixed "(\"".toList (by decide))).append (Text.unfolding_escape options.message)).append
    (fixed "\", e);".toList (by decide))).run rfl
  unfold rethrowLine
  rw [whole]
  simp only [Text.units_append]

/-- The line is all that is laid out for the statement. -/
theorem rows_rethrow (isWord : ∀ part ∈ parts, Text.IsWord part)
    (named : options.uncheckedType = Text.dotted parts) (depth : Nat) :
    (rethrow options).rows depth = [Row.atDepth depth (rethrowLine options)] := by
  have laid : (rethrow options).rows depth = Row.ofText depth (rethrowLine options) := by
    rw [rethrowLine_eq]
    rfl
  have single : Text.lines (rethrowLine options) = [rethrowLine options] := by
    rw [Text.lines_of_not_mem (feed_not_mem_rethrowLine isWord named), if_neg]
    unfold rethrowLine
    simp
  rw [laid, Row.ofText, Fragment.textBlockLines, single]
  rfl

/-- What the statement that throws a message has to be on its line, whatever the message is. -/
structure IsThrow (typeName : List Text) (message line : Text) : Prop where
  noFeed : '\n' ∉ line
  noReturn : '\r' ∉ line
  /-- The line holds no Unicode escape. -/
  plain : Text.unfolding.run .plain line = some (Text.units line)
  /-- The literal ends at its own last quote. -/
  tokens : Lexical.tokens line =
    ["throw".toList, "new".toList] ++ typeName.intersperse ['.'] ++
      ["(".toList, ['"'] ++ Text.escape message ++ ['"'], ",".toList, "e".toList, ")".toList,
        ";".toList]
  closed : Fragment.scanLine .code line = .code

theorem isThrow_rethrowLine (isWord : ∀ part ∈ parts, Text.IsWord part)
    (named : options.uncheckedType = Text.dotted parts) :
    IsThrow parts options.message (rethrowLine options) where
  noFeed := feed_not_mem_rethrowLine isWord named
  noReturn := (closed_rethrowLine isWord named).2
  plain := unfolding_rethrowLine isWord named
  tokens := tokens_rethrowLine isWord named
  closed := Lexical.scanLine_of_closed (feed_not_mem_rethrowLine isWord named)
    (closed_rethrowLine isWord named).1

/-- Any message survives into the handler. The escaped message may stand between quotes and
denotes the message, and no other, there. In every handler that throws it as a type with a dotted
name, the clause that catches consists of one line; that line throws, its literal is the escaped
message, and it leaves the line scanner in code. -/
theorem message_survives (message : Text) :
    Text.IsBodyOf (Text.escape message) message ∧
      (∀ other, Text.denoted? (Text.escape message) = some (Text.units other) →
        other = message) ∧
      ∀ (options : Options) (parts : List Text), options.message = message →
        (∀ part ∈ parts, Text.IsWord part) → options.uncheckedType = Text.dotted parts →
        ∀ (body : List Stmt) (depth : Nat), ∃ line, IsThrow parts message line ∧
          (handler options body).rows depth =
            Row.atDepth depth "try \x7b".toList :: Stmt.rowsList (depth + 1) body ++
              [Row.atDepth depth "\x7d catch (Exception e) \x7b".toList,
                Row.atDepth (depth + 1) line, Row.atDepth depth ['}']] := by
  have body := Text.isBodyOf_escape message
  refine ⟨body, fun other denoted => ?_, ?_⟩
  · rw [body.denotes, Option.some.injEq] at denoted
    exact (Text.units_injective denoted).symm
  · rintro options parts rfl isWord named statements depth
    refine ⟨rethrowLine options, isThrow_rethrowLine isWord named, ?_⟩
    have laid : (handler options statements).rows depth =
        Row.atDepth depth "try \x7b".toList :: Stmt.rowsList (depth + 1) statements ++
          (Row.atDepth depth "\x7d catch (Exception e) \x7b".toList ::
            ((rethrow options).rows (depth + 1) ++ []) ++ []) ++ [] ++
          [Row.atDepth depth ['}']] := rfl
    rw [laid, rows_rethrow isWord named]
    simp only [List.cons_append, List.nil_append, List.append_nil, List.append_assoc]

/-- A quote, what looks like a Unicode escape of a quote, a line feed and a backslash at the
end. -/
def hostile : Text :=
  "say \"\\u0022\n\\".toList

theorem message_survives_hostile :
    (∀ part ∈ ["java".toList, "io".toList, "UncheckedIOException".toList], Text.IsWord part) ∧
      Text.escape hostile = "say \\\"\\\\u0022\\n\\\\".toList ∧
      Text.denoted? (Text.escape hostile) = some (Text.units hostile) ∧
      ∃ line, IsThrow ["java".toList, "io".toList, "UncheckedIOException".toList] hostile line ∧
        (handler { uncheckedType := "java.io.UncheckedIOException".toList, message := hostile }
            [.verbatim "close();".toList]).rows 1 =
          [Row.atDepth 1 "try \x7b".toList, Row.atDepth 2 "close();".toList,
            Row.atDepth 1 "\x7d catch (Exception e) \x7b".toList, Row.atDepth 2 line,
            Row.atDepth 1 ['}']] := by
  have isWord : ∀ part ∈ ["java".toList, "io".toList, "UncheckedIOException".toList],
      Text.IsWord part := by
    simp [Text.IsWord, Text.isWordPart, Text.isAsciiLetter]
  obtain ⟨body, -, handled⟩ := message_survives hostile
  refine ⟨isWord, by decide +kernel, body.denotes, ?_⟩
  exact handled { uncheckedType := "java.io.UncheckedIOException".toList, message := hostile } _
    rfl isWord (by decide +kernel) [.verbatim "close();".toList] 1

end Wrapper

end Rethrow
