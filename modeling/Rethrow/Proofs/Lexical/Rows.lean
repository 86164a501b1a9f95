import Rethrow.Proofs.Lexical.Scanner
import Rethrow.Proofs.Text.Lines
import Rethrow.Unit.Layout

/-!
# Lexing laid-out rows

The layout tracks text blocks with a scanner that goes line by line and knows nothing of
line comments. `agrees_after` says that it stands, at the end of every line, where the
lexer stands. So a row is indented only where the lexer is in code or in a block comment
with no token pending, and there blanks change nothing: `emitted_rows`.
-/

namespace Rethrow.Lexical

open Fragment (Scan scanLine flagLines)

/-- The state of the lexer at the start of a line. -/
def start : Scan → State
  | .code => .code
  | .quoted _ => .code
  | .textBlock => .textBlock
  | .blockComment => .blockComment

/-- The state of the lexer in the middle of a line. -/
def middle : Scan → State
  | .code => .code
  | .quoted quote => .quoted (if quote = '"' then .double else .single)
  | .textBlock => .textBlock
  | .blockComment => .blockComment

/-- A literal is opened by one of the two quotes. -/
def Proper : Scan → Prop
  | .quoted quote => quote = '"' ∨ quote = '\''
  | _ => True

/-- The states of the lexer in which the line scanner may be in `scan` at a line's end. -/
def Agrees : Scan → State → Prop
  | .code, state => state = .code ∨ state = .lineComment
  | .quoted _, state => ∃ quote, state = .quoted quote ∨ state = .escaped quote
  | .textBlock, state => state = .textBlock ∨ state = .blockEscaped
  | .blockComment, state => state = .blockComment

theorem agrees_lineComment {line : Text} (free : '\n' ∉ line) :
    after .line .lineComment line = .lineComment := by
  induction line with
  | nil => rfl
  | cons c rest ih =>
      simp only [List.mem_cons, not_or] at free
      rw [after]
      · exact ih free.2
      · exact fun feed => free.1 feed.symm

/-- At the end of a line the line scanner stands where the lexer stands. -/
theorem agrees_after {scan : Scan} {line : Text} (proper : Proper scan) (free : '\n' ∉ line) :
    Agrees (scanLine scan line) (after .line (middle scan) line) := by
  fun_induction scanLine scan line with
  | case1 scan => cases scan <;> simp [after, middle, Agrees]
  | case2 rest ih => exact ih trivial (by simp_all)
  | case3 rest => exact .inr (agrees_lineComment (by simp_all))
  | case4 rest ih => exact ih trivial (by simp_all)
  | case5 c rest notBlock notLine notComment quotes ih =>
      have inside := ih quotes (by simp_all)
      rcases quotes with rfl | rfl
      · rw [middle, after]
        · simpa [middle] using inside
        · exact fun rest same => notBlock rest rfl same
      · simpa [middle, after] using inside
  | case6 c rest notBlock notLine notComment plain ih =>
      rw [middle, after] <;> grind [middle]
  | case7 quote c rest ih =>
      have inside := ih proper (by simp_all)
      rw [middle, after, after]
      · exact inside
      · grind
  | case8 quote c rest notEscape closes ih =>
      obtain ⟨notBackslash, rfl⟩ := closes
      have outside := ih trivial (by simp_all)
      rw [middle, after]
      · rcases proper with rfl | rfl <;> simpa [Quote.char, middle] using outside
      · grind
      · exact fun same => notBackslash same
  | case9 quote c rest notEscape stays ih =>
      by_cases backslash : c = '\\'
      · subst backslash
        cases rest with
        | nil => simp [scanLine, middle, after, Agrees]
        | cons d rest => exact absurd rfl (notEscape d rest rfl)
      · have inside := ih proper (by simp_all)
        have other : c ≠ quote := fun same => stays ⟨backslash, same⟩
        rw [middle, after]
        · rcases proper with rfl | rfl <;> simpa [Quote.char, other, middle] using inside
        · grind
        · exact fun same => backslash same
  | case10 c rest ih => simpa [middle, after] using ih trivial (by simp_all)
  | case11 rest ih => exact ih trivial (by simp_all)
  | case12 c rest notEscape notClose ih =>
      by_cases backslash : c = '\\'
      · subst backslash
        cases rest with
        | nil => simp [scanLine, middle, after, Agrees]
        | cons d rest => exact absurd rfl (notEscape d rest rfl)
      · have inside := ih trivial (by simp_all)
        rw [middle, after]
        · exact inside
        · exact fun rest same => notClose rest same
        · exact fun same => backslash same
  | case13 rest ih => exact ih trivial (by simp_all)
  | case14 c rest notClose ih =>
      have inside := ih trivial (by simp_all)
      rw [middle, after]
      · exact inside
      · exact fun rest same => notClose rest same

/-- What the line feed at the end of a line is part of. -/
def feedMark : Scan → Mark
  | .textBlock => .inside
  | .blockComment => .comment
  | _ => .code

theorem clear_feed : Clear '\n' := by
  simp [Clear]

/-- Behind a line feed the lexer starts a line. -/
theorem scan_feed {s : Scan} {state : State} (agrees : Agrees s state) (rest : Text) :
    scan .line state ('\n' :: rest) = ('\n', feedMark s) :: scan .line (start s) rest ∧
      after .line state ('\n' :: rest) = after .line (start s) rest := by
  cases s with
  | code => rcases agrees with rfl | rfl <;> simp [scan, after, feedMark, start]
  | quoted quote =>
      obtain ⟨opened, rfl | rfl⟩ := agrees <;> simp [scan, after, feedMark, start]
  | textBlock => rcases agrees with rfl | rfl <;> simp [scan, after, feedMark, start]
  | blockComment => subst agrees; simp [scan, after, feedMark, start]

/-- The lexer goes line by line, as the line scanner does. -/
theorem scan_line (s : Scan) {line : Text} (free : '\n' ∉ line) (rest : Text) :
    scan .line (start s) (line ++ '\n' :: rest) =
        scan .line (start s) line ++ [('\n', feedMark (scanLine s.enterLine line))] ++
          scan .line (start (scanLine s.enterLine line)) rest ∧
      after .line (start s) (line ++ '\n' :: rest) =
        after .line (start (scanLine s.enterLine line)) rest := by
  have entered : start s = middle s.enterLine := by cases s <;> rfl
  have proper : Proper s.enterLine := by cases s <;> trivial
  have fed := scan_feed (agrees_after proper free) rest
  obtain ⟨scanned, ended⟩ := scan_append_cons clear_feed .line (start s) line rest
  rw [scanned, ended, entered, fed.1, List.append_cons]
  exact ⟨rfl, fed.2⟩

/-! ## Indentation -/

/-- Blanks at the start of a line that is not in a text block are read as nothing. -/
theorem complete_indent {s : Scan} (outside : s ≠ .textBlock) (n : Nat) (t : Text) :
    words.complete .none (scan .line (start s) (List.replicate n ' ' ++ t)) =
        words.complete .none (scan .line (start s) t) ∧
      after .line (start s) (List.replicate n ' ' ++ t) = after .line (start s) t := by
  have blank : Pending.none.take (' ', .code) = ([], .none) := by decide
  induction n with
  | zero => exact ⟨rfl, rfl⟩
  | succ n ih =>
      rw [List.replicate_succ, List.cons_append]
      cases s with
      | code | quoted =>
          simpa [start, scan, after, blank] using ih
      | textBlock => exact absurd rfl outside
      | blockComment =>
          simpa [start, scan, after, Pending.take, Pending.flush] using ih

/-- The rows of lines that are scanned from a state. -/
def rowsFrom (depth : Nat) (s : Scan) (ls : List Text) : List Row :=
  ls.zipWith (fun line raw => { depth := if raw then none else some depth, text := line })
    (flagLines s ls)

theorem renderAll_rowsFrom_cons (depth : Nat) (s : Scan) (line : Text) (more : List Text) :
    ∃ n, (s = .textBlock → n = 0) ∧
      Row.renderAll (rowsFrom depth s (line :: more)) =
        List.replicate n ' ' ++ (line ++ '\n' ::
          Row.renderAll (rowsFrom depth (scanLine s.enterLine line) more)) := by
  by_cases raw : s = .textBlock
  · exact ⟨0, fun _ => rfl, by simp [rowsFrom, flagLines, Row.renderAll, Row.render, raw]⟩
  · by_cases empty : line = []
    · exact ⟨0, fun _ => rfl, by
        simp [rowsFrom, flagLines, Row.renderAll, Row.render, raw, empty]⟩
    · exact ⟨4 * depth, fun inside => absurd inside raw, by
        simp [rowsFrom, flagLines, Row.renderAll, Row.render, raw, empty, Row.indent]⟩

/-- Rows hold no characters but those of the lines, spaces and line feeds. -/
theorem not_mem_rowsFrom {c : Char} (noSpace : c ≠ ' ') (noFeed : c ≠ '\n') (depth : Nat)
    (s : Scan) {ls : List Text} (free : ∀ line ∈ ls, c ∉ line) :
    c ∉ Row.renderAll (rowsFrom depth s ls) := by
  induction ls generalizing s with
  | nil => simp [rowsFrom, Row.renderAll]
  | cons line more ih =>
      rw [List.forall_mem_cons] at free
      obtain ⟨n, -, rendered⟩ := renderAll_rowsFrom_cons depth s line more
      rw [rendered]
      simp [noSpace, noFeed, free.1, ih (scanLine s.enterLine line) free.2]

/-- Laying lines out in rows changes neither their tokens nor what they leave open. -/
theorem complete_rowsFrom (depth : Nat) (s : Scan) (pending : Pending)
    (ready : s ≠ .textBlock → pending = .none) {ls : List Text}
    (free : ∀ line ∈ ls, '\n' ∉ line) :
    words.complete pending (scan .line (start s) (Row.renderAll (rowsFrom depth s ls))) =
        words.complete pending (scan .line (start s) (Text.unlines ls)) ∧
      after .line (start s) (Row.renderAll (rowsFrom depth s ls)) =
        after .line (start s) (Text.unlines ls) := by
  induction ls generalizing s pending with
  | nil => exact ⟨rfl, rfl⟩
  | cons line more ih =>
      rw [List.forall_mem_cons] at free
      obtain ⟨n, unindented, rendered⟩ := renderAll_rowsFrom_cons depth s line more
      have skipped : ∀ t : Text,
          words.complete pending (scan .line (start s) (List.replicate n ' ' ++ t)) =
              words.complete pending (scan .line (start s) t) ∧
            after .line (start s) (List.replicate n ' ' ++ t) = after .line (start s) t := by
        intro t
        by_cases inside : s = .textBlock
        · simp [unindented inside]
        · rw [ready inside]
          exact complete_indent inside n t
      -- The line feed leaves a token pending only inside a text block.
      have ready' : scanLine s.enterLine line ≠ .textBlock →
          (words.carried pending (scan .line (start s) line ++
            [('\n', feedMark (scanLine s.enterLine line))])) = .none := by
        intro outside
        rw [Grouping.carried, List.foldl_append]
        cases shape : scanLine s.enterLine line <;> first | exact absurd shape outside | rfl
      have tail := ih (scanLine s.enterLine line) _ ready' free.2
      rw [rendered, (skipped _).1, (skipped _).2, Text.unlines_cons]
      obtain ⟨rowScan, rowAfter⟩ := scan_line s free.1
        (Row.renderAll (rowsFrom depth (scanLine s.enterLine line) more))
      obtain ⟨lineScan, lineAfter⟩ := scan_line s free.1 (Text.unlines more)
      rw [rowScan, lineScan, rowAfter, lineAfter, tail.2, Grouping.complete_append,
        Grouping.complete_append, tail.1]
      exact ⟨rfl, rfl⟩

/-! ## Line comments at the end -/

theorem holds_iff {needle t : Text} : Text.holds needle t = true ↔ needle <:+: t := by
  induction t with
  | nil => simp [Text.holds]
  | cons c rest ih =>
      rw [Text.holds, Bool.or_eq_true, ih, List.infix_cons_iff, Text.startsWith,
        List.isPrefixOf_iff_prefix]

theorem holds_cons {needle t : Text} (found : Text.holds needle t = true) (c : Char) :
    Text.holds needle (c :: t) = true := by
  rw [Text.holds, found, Bool.or_true]

/-- A line comment that is open at the end was opened by two slashes. -/
theorem holds_of_after {reach : Reach} {state : State} {t : Text} (entered : state ≠ .lineComment)
    (ended : after reach state t = .lineComment) : Text.holds "//".toList t = true := by
  fun_induction after reach state t with
  | case1 => exact absurd ended entered
  | case3 rest => rfl
  | case8 | case9 => exact absurd rfl entered
  | case12 quote rest ih | case15 quote rest ih =>
      refine holds_cons (ih ?_ ended) '\n'
      cases reach <;> simp
  | case14 quote c rest _ _ ih =>
      refine holds_cons (ih ?_ ended) c
      split <;> simp
  | case2 rest ih | case17 rest ih =>
      exact holds_cons (holds_cons (holds_cons (ih (by simp) ended) _) _) _
  | case4 rest ih | case10 rest ih => exact holds_cons (holds_cons (ih (by simp) ended) _) _
  | _ => exact holds_cons (by simp_all) _

/-- The state behind a line feed. -/
def State.fed (reach : Reach) : State → State
  | .blockComment => .blockComment
  | .textBlock => .textBlock
  | .blockEscaped => .textBlock
  | .quoted quote => reach.behind quote
  | .escaped quote => reach.behind quote
  | _ => .code

theorem after_feed (reach : Reach) (state : State) (rest : Text) :
    after reach state ('\n' :: rest) = after reach (state.fed reach) rest := by
  cases state <;> simp [after, State.fed]

/-- A line feed leaves no line comment open. -/
theorem fed_ne_lineComment (reach : Reach) (state : State) : state.fed reach ≠ .lineComment := by
  cases state <;> cases reach <;> simp [State.fed]

theorem after_unlines_ne (reach : Reach) (ls : List Text) :
    after reach .code (Text.unlines ls) ≠ .lineComment := by
  rcases List.eq_nil_or_concat ls with rfl | ⟨init, line, rfl⟩
  · simp [after]
  · have ended : Text.unlines (init ++ [line]) = (Text.unlines init ++ line) ++ ['\n'] := by
      simp [Text.unlines]
    rw [List.concat_eq_append, ended, (scan_append_cons clear_feed reach .code _ []).2, after_feed,
      after]
    exact fed_ne_lineComment reach _

/-- A line comment that is open at the end can be seen on the last line. -/
theorem mayEndInComment_of_after {reach : Reach} {state : State} {t : Text}
    (entered : state ≠ .lineComment) (ended : after reach state t = .lineComment) :
    Layout.mayEndInComment t = true := by
  induction t using Text.byLines generalizing state with
  | last line free =>
      have found := holds_of_after entered ended
      cases line with
      | nil => exact absurd ended entered
      | cons c rest => simpa [Layout.mayEndInComment, Text.lines_of_not_mem free] using found
  | more line rest free ih =>
      rw [(scan_append_cons clear_feed reach state line rest).2, after_feed] at ended
      have visible := ih (fed_ne_lineComment reach _) ended
      unfold Layout.mayEndInComment at visible ⊢
      rw [Text.lines_append free]
      cases shape : Text.lines rest with
      | nil => simp [shape] at visible
      | cons first others => rwa [List.getLast?_cons_cons, ← shape]

theorem closed_of_loose {reach : Reach} {t : Text} (loose : Loose reach t)
    (complete : Layout.mayEndInComment t = false) : Closed reach t := by
  rcases loose with closed | open_
  · exact closed
  · rw [mayEndInComment_of_after (by simp) open_] at complete
    exact absurd complete (by simp)

/-! ## Fragments in rows -/

theorem tokens_feed {t : Text} (loose : Loose .line t) : tokens (t ++ ['\n']) = tokens t := by
  have blank : ∀ pending : Pending, words.complete pending [('\n', .code)] = pending.flush := by
    intro pending
    rw [Grouping.complete_cons, words_take, Pending.take_code (by decide)]
    simp [Pending.flush, show Text.isBlank '\n' = true by decide]
  have ended : scan .line (after .line .code t) ['\n'] = [('\n', .code)] := by
    rcases loose with closed | open_
    · rw [closed]; simp [scan]
    · rw [open_]; simp [scan]
  rw [tokens, (scan_append_cons clear_feed .line .code t []).1, ended, Grouping.complete_append,
    blank]
  rfl

theorem closed_feed {t : Text} (loose : Loose .line t) : Closed .line (t ++ ['\n']) := by
  rw [Closed, (scan_append_cons clear_feed .line .code t []).2]
  rcases loose with closed | open_
  · rw [closed]; simp [after]
  · rw [open_]; simp [after]

/-- A fragment in rows has the tokens of the fragment. -/
theorem tokens_ofText {t : Text} (depth : Nat) (plain : '\r' ∉ t) (loose : Loose .line t) :
    tokens (Row.renderAll (Row.ofText depth t)) = tokens t := by
  have same := (complete_rowsFrom depth .code .none (fun _ => rfl)
    fun line isLine => Text.not_mem_of_mem_lines (t := t) isLine).1
  rw [tokens]
  refine same.trans ?_
  rcases Text.unlines_lines plain with ended | unended
  · rw [ended]; rfl
  · rw [unended]
    exact tokens_feed loose

/-- A fragment in rows leaves nothing open: its last row ends with a line feed. -/
theorem closed_ofText {t : Text} (depth : Nat) (plain : '\r' ∉ t) (loose : Loose .line t) :
    Closed .line (Row.renderAll (Row.ofText depth t)) := by
  have same := (complete_rowsFrom depth .code .none (fun _ => rfl)
    fun line isLine => Text.not_mem_of_mem_lines (t := t) isLine).2
  refine same.trans ?_
  rcases Text.unlines_lines plain with ended | unended
  · rcases loose with closed | open_
    · rw [ended]
      exact closed
    · rw [← ended] at open_
      exact absurd open_ (after_unlines_ne .line (Text.lines t))
  · rw [unended]
    exact closed_feed loose

end Rethrow.Lexical
