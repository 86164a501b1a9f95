import Rethrow.Proofs.Lexical.Rows

/-!
# Where lines start

The line scanner answers one question for every line: does it start inside a text block? The
lexer answers it by the state it is in behind all that stands in front of the line. The two
agree on every text (`textBlockLines_exact`): a line may end in a carriage return that the
scanner never sees, and a literal or comment may be open at its end.
-/

namespace Rethrow

namespace Text

/-- What stands in front of the line with the given index: the text up to and including that
many line feeds. -/
def front : Nat → Text → Text
  | 0, _ => []
  | _ + 1, [] => []
  | index + 1, c :: rest => c :: front (if c = '\n' then index else index + 1) rest

@[simp] theorem front_zero (t : Text) : front 0 t = [] := by
  cases t <;> rfl

theorem front_of_not_mem {line : Text} (free : '\n' ∉ line) (index : Nat) :
    front (index + 1) line = line := by
  induction line with
  | nil => rfl
  | cons c rest ih =>
      simp only [List.mem_cons, not_or] at free
      rw [front, if_neg (Ne.symm free.1), ih free.2]

theorem front_append {line : Text} (free : '\n' ∉ line) (index : Nat) (rest : Text) :
    front (index + 1) (line ++ '\n' :: rest) = line ++ '\n' :: front index rest := by
  induction line with
  | nil => rw [List.nil_append, front, if_pos rfl, List.nil_append]
  | cons c line ih =>
      simp only [List.mem_cons, not_or] at free
      rw [List.cons_append, front, if_neg (Ne.symm free.1), ih free.2, List.cons_append]

end Text

namespace Lexical

open Fragment (Scan scanLine flagLines textBlockLines)

/-- Behind what stands in front of a line the rest of the lines follow, and there the lexer
may pause: no mark of a comment or text block lies across the start of a line. -/
theorem line_start (t : Text) (index : Nat) (state : State) :
    ∃ rest, t = Text.front index t ++ rest ∧ Text.lines rest = (Text.lines t).drop index ∧
      after .line state t = after .line (after .line state (Text.front index t)) rest := by
  induction t using Text.byLines generalizing index state with
  | last line free =>
      cases index with
      | zero => exact ⟨line, by simp, by simp, by simp [after]⟩
      | succ index =>
          rw [Text.front_of_not_mem free]
          refine ⟨[], by simp, ?_, by simp [after]⟩
          rw [Text.lines_of_not_mem free]
          split <;> simp
  | more line rest free ih =>
      cases index with
      | zero => exact ⟨line ++ '\n' :: rest, by simp, by simp, by simp [after]⟩
      | succ index =>
          obtain ⟨tail, split, lines, paused⟩ := ih index ((after .line state line).fed .line)
          refine ⟨tail, ?_, ?_, ?_⟩
          · rw [Text.front_append free, List.append_assoc, List.cons_append, ← split]
          · rw [Text.lines_append free, lines, List.drop_succ_cons]
          · rw [Text.front_append free, (scan_append_cons clear_feed .line state line _).2,
              (scan_append_cons clear_feed .line state line _).2, after_feed, after_feed, paused]

/-- In front of a line feed a carriage return is lost on the lexer. -/
theorem after_return (state : State) :
    after .line state ['\r', '\n'] = after .line state ['\n'] := by
  cases state with
  | quoted quote => cases quote <;> simp [after, Quote.char]
  | _ => simp [after]

/-- The carriage return at the end of a line makes no difference for the next line. -/
theorem start_scanLine_dropReturn (s : Scan) {line : Text} (free : '\n' ∉ line) :
    start (scanLine s.enterLine (Text.dropReturn line)) = start (scanLine s.enterLine line) := by
  -- The scanner is read off the lexer behind the line feed, where the return is forgotten.
  have ended : ∀ {line : Text}, '\n' ∉ line →
      after .line (start s) (line ++ ['\n']) = start (scanLine s.enterLine line) := by
    intro line free
    rw [(scan_line s free []).2, after]
  rcases Text.dropReturn_cases line with same | returns
  · rw [same]
  · have kept : '\n' ∉ Text.dropReturn line := fun feed => free (Text.mem_of_mem_dropReturn feed)
    have clear : Clear '\r' := by simp [Clear]
    rw [← ended kept, ← ended free]
    conv => rhs; rw [returns, List.append_assoc]
    rw [List.singleton_append, (scan_append_cons clear .line _ _ _).2, after_return,
      (scan_append_cons clear_feed .line _ _ _).2]

/-- The flags of the line scanner, line by line, as the lexer gives them. -/
theorem flagLines_eq (s : Scan) (t : Text) :
    flagLines s (Text.lines t) = (List.range (Text.lines t).length).map fun index =>
      decide (after .line (start s) (Text.front index t) = .textBlock) := by
  have first : ∀ s : Scan, decide (s = .textBlock) = decide (start s = .textBlock) := by
    intro s
    cases s <;> simp [start]
  induction t using Text.byLines generalizing s with
  | last line free =>
      rw [Text.lines_of_not_mem free]
      split
      · rfl
      · simp [flagLines, first, after]
  | more line rest free ih =>
      rw [Text.lines_append free, flagLines, ih, List.length_cons, List.range_succ_eq_map,
        List.map_cons, List.map_map, Text.front_zero, after, first]
      refine congrArg (_ :: ·) (List.map_congr_left fun index _ => ?_)
      rw [Function.comp_apply, Nat.succ_eq_add_one, Text.front_append free,
        (scan_line s free _).2, start_scanLine_dropReturn s free]

/-- Text-block detection is right: there is one flag for each line, and it is set exactly when
the lexer, on its way through the whole text, is in a text block where the line starts. -/
theorem textBlockLines_exact (t : Text) :
    (textBlockLines t).length = (Text.lines t).length ∧
      ∀ index (inside : index < (textBlockLines t).length),
        ∃ rest, t = Text.front index t ++ rest ∧ Text.lines rest = (Text.lines t).drop index ∧
          after .line .code t = after .line (after .line .code (Text.front index t)) rest ∧
          ((textBlockLines t)[index] = true ↔
            after .line .code (Text.front index t) = .textBlock) := by
  have flags := flagLines_eq .code t
  refine ⟨?_, fun index inside => ?_⟩
  · simp [textBlockLines, flags]
  · obtain ⟨rest, split, lines, paused⟩ := line_start t index .code
    refine ⟨rest, split, lines, paused, ?_⟩
    simp [textBlockLines, flags, start]

/-- Neither the line comment nor the escaped quotes in the block end it, and the string behind
it is given up at the end of its line. -/
example : textBlockLines "f(\"\"\"\r\n // \\\"\"\"\r\n\"\"\", \"/*\\\r\n\"\"\"".toList =
    [false, true, true, false] := by
  decide

end Lexical

end Rethrow
