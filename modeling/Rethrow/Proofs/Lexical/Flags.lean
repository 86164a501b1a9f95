import Rethrow.Proofs.Lexical.Dedent

/-!
# Flagged lines

The line scanner flags the lines that start inside a text block. It does not see the blanks at the
ends of lines (`scanLine_trim`), so lines keep their flags when those change
(`flagLines_of_trim`). Dedenting and the layout both change lines one by one, each by its flag.
-/

namespace Rethrow.Fragment

open Lexical (Proper)
open Text (Blank Firm)

/-- A blank is none of the marks of comments and literals. -/
theorem scanLine_blank_cons {s : Scan} (proper : Proper s) {c : Char}
    (blank : Text.isBlank c = true) (line : Text) : scanLine s (c :: line) = scanLine s line := by
  obtain ⟨⟨noDouble, noSlash, noStar⟩, noSingle, noBackslash⟩ := Lexical.blank_cases blank
  cases s with
  | code => rw [scanLine] <;> simp_all
  | quoted quote =>
      have other : c ≠ quote := by rcases proper with rfl | rfl <;> assumption
      rw [scanLine] <;> simp_all
  | textBlock => rw [scanLine] <;> simp_all
  | blockComment =>
      rw [scanLine]
      simp_all

theorem scanLine_blank_append {s : Scan} (proper : Proper s) {lead : Text} (blank : Blank lead)
    (line : Text) : scanLine s (lead ++ line) = scanLine s line := by
  induction lead with
  | nil => rfl
  | cons c lead ih =>
      simp only [Blank, List.forall_mem_cons] at blank
      rw [List.cons_append, scanLine_blank_cons proper blank.1, ih blank.2]

theorem scanLine_blank {s : Scan} (proper : Proper s) {line : Text} (blank : Blank line) :
    scanLine s line = s := by
  have skipped := scanLine_blank_append proper blank []
  rwa [List.append_nil, scanLine] at skipped

/-- A backslash that ends a line hides blanks only. -/
theorem scanLine_backslash {s : Scan} (proper : Proper s) {tail : Text} (blank : Blank tail) :
    scanLine s ('\\' :: tail) = s := by
  cases s with
  | code =>
      rw [scanLine]
      · simpa using scanLine_blank proper blank
      all_goals simp
  | quoted quote =>
      cases tail with
      | nil => simp [scanLine]
      | cons c tail =>
          simp only [Blank, List.forall_mem_cons] at blank
          rw [scanLine, scanLine_blank proper blank.2]
  | textBlock =>
      cases tail with
      | nil => simp [scanLine]
      | cons c tail =>
          simp only [Blank, List.forall_mem_cons] at blank
          rw [scanLine, scanLine_blank proper blank.2]
  | blockComment =>
      rw [scanLine]
      · exact scanLine_blank proper blank
      · simp

theorem cons_of_append {p : Char} (dark : Text.isBlank p = false) {rest tail rest' : Text}
    (blank : Blank tail) (shape : rest ++ tail = p :: rest') :
    ∃ lead, rest = p :: lead ∧ lead ++ tail = rest' := by
  cases rest with
  | nil =>
      have marked := blank p (by rw [show tail = p :: rest' from shape]; simp)
      rw [dark] at marked
      exact absurd marked (by simp)
  | cons d lead =>
      obtain ⟨rfl, below⟩ := List.cons.inj shape
      exact ⟨lead, rfl, below⟩

/-- Blanks at the end of a line are lost on the line scanner. -/
theorem scanLine_append_blank {s : Scan} (proper : Proper s) (line : Text) {tail : Text}
    (blank : Blank tail) : scanLine s (line ++ tail) = scanLine s line := by
  -- No mark of a comment or text block lies across the cut.
  have quotes : ∀ {rest rest'}, rest ++ tail = '"' :: '"' :: rest' →
      ∃ lead, rest = '"' :: '"' :: lead := by
    intro rest rest' shape
    obtain ⟨lead, rfl, below⟩ := cons_of_append (by decide) blank shape
    obtain ⟨lead, rfl, -⟩ := cons_of_append (by decide) blank below
    exact ⟨lead, rfl⟩
  have slash : ∀ {rest rest'}, rest ++ tail = '/' :: rest' → ∃ lead, rest = '/' :: lead := by
    intro rest rest' shape
    obtain ⟨lead, rfl, -⟩ := cons_of_append (by decide) blank shape
    exact ⟨lead, rfl⟩
  have star : ∀ {rest rest'}, rest ++ tail = '*' :: rest' → ∃ lead, rest = '*' :: lead := by
    intro rest rest' shape
    obtain ⟨lead, rfl, -⟩ := cons_of_append (by decide) blank shape
    exact ⟨lead, rfl⟩
  fun_induction scanLine s line with
  | case1 s => rw [List.nil_append, scanLine_blank proper blank]
  | case3 rest => simp [scanLine]
  | case2 rest ih | case4 rest ih | case10 c rest ih | case11 rest ih | case13 rest ih =>
      exact ih trivial
  | case5 c rest notBlock notLine notComment opens ih =>
      rw [List.cons_append, scanLine, if_pos opens, ih opens]
      all_goals grind
  | case6 c rest notBlock notLine notComment plain ih =>
      rw [List.cons_append, scanLine, if_neg plain, ih trivial]
      all_goals grind
  | case7 quote c rest ih => exact ih proper
  | case8 quote c rest notEscape closes ih =>
      rw [List.cons_append, scanLine, if_pos closes, ih trivial]
      grind
  | case9 quote c rest notEscape stays ih =>
      by_cases backslash : c = '\\'
      · subst backslash
        cases rest with
        | nil => rw [List.singleton_append, scanLine_backslash proper blank, scanLine]
        | cons d rest => exact absurd rfl (notEscape d rest rfl)
      · rw [List.cons_append, scanLine, if_neg stays, ih proper]
        exact fun _ _ same => absurd same backslash
  | case12 c rest notEscape notClose ih =>
      by_cases backslash : c = '\\'
      · subst backslash
        cases rest with
        | nil => rw [List.singleton_append, scanLine_backslash proper blank, scanLine]
        | cons d rest => exact absurd rfl (notEscape d rest rfl)
      · rw [List.cons_append, scanLine, ih proper]
        all_goals grind
  | case14 c rest notClose ih =>
      rw [List.cons_append, scanLine, ih trivial]
      grind

theorem scanLine_trim {s : Scan} (proper : Proper s) (line : Text) :
    scanLine s (Text.trim line) = scanLine s line := by
  obtain ⟨lead, tail, blankLead, blankTail, shape⟩ := Text.trim_append_blanks line
  conv => rhs; rw [shape]
  rw [scanLine_append_blank proper _ blankTail, scanLine_blank_append proper blankLead]

theorem proper_enterLine (s : Scan) : Proper s.enterLine := by
  cases s <;> trivial

/-- Which lines start inside a text block does not depend on the blanks at the ends of the
lines. -/
theorem flagLines_of_trim {ls others : List Text} (same : ls.map Text.trim = others.map Text.trim)
    (s : Scan) : flagLines s ls = flagLines s others := by
  induction ls generalizing s others with
  | nil =>
      rw [List.map_nil, eq_comm, List.map_eq_nil_iff] at same
      rw [same]
  | cons line more ih =>
      cases others with
      | nil => simp at same
      | cons other others =>
          rw [List.map_cons, List.map_cons, List.cons.injEq] at same
          rw [flagLines, flagLines, ← scanLine_trim (proper_enterLine s) line, same.1,
            scanLine_trim (proper_enterLine s), ih same.2]

theorem length_flagLines (s : Scan) (ls : List Text) : (flagLines s ls).length = ls.length := by
  induction ls generalizing s with
  | nil => rfl
  | cons line more ih => rw [flagLines, List.length_cons, ih, List.length_cons]

/-- The flags of lines depend on the lines in front of them only. -/
theorem getElem?_flagLines (s : Scan) (init : List Text) {line other : Text}
    {more others : List Text} {index : Nat} (inside : index ≤ init.length) :
    (flagLines s (init ++ line :: more))[index]? =
      (flagLines s (init ++ other :: others))[index]? := by
  induction init generalizing s index with
  | nil =>
      obtain rfl : index = 0 := by simpa using inside
      rfl
  | cons first init ih =>
      cases index with
      | zero => rfl
      | succ index =>
          rw [List.cons_append, List.cons_append, flagLines, flagLines, List.getElem?_cons_succ,
            List.getElem?_cons_succ]
          exact ih _ (by simpa using inside)

/-! ## Changes line by line -/

/-- A change that keeps lines up to the blanks at their ends. -/
theorem map_trim_zipWith {change : Text → Bool → Text}
    (same : ∀ line raw, Text.trim (change line raw) = Text.trim line) {ls : List Text}
    {flags : List Bool} (flagged : flags.length = ls.length) :
    (ls.zipWith change flags).map Text.trim = ls.map Text.trim := by
  induction ls generalizing flags with
  | nil => rfl
  | cons line more ih =>
      cases flags with
      | nil => simp at flagged
      | cons raw flags =>
          rw [List.zipWith_cons_cons, List.map_cons, List.map_cons, same,
            ih (by simpa using flagged)]

theorem mem_zipWith {change : Text → Bool → Text} {ls : List Text} {flags : List Bool}
    {changed : Text} (listed : changed ∈ ls.zipWith change flags) :
    ∃ line ∈ ls, ∃ raw, changed = change line raw := by
  induction ls generalizing flags with
  | nil => simp at listed
  | cons line more ih =>
      cases flags with
      | nil => simp at listed
      | cons raw flags =>
          rw [List.zipWith_cons_cons] at listed
          rcases List.mem_cons.mp listed with rfl | later
          · exact ⟨line, List.mem_cons_self, raw, rfl⟩
          · obtain ⟨line', listed', raw', shape⟩ := ih later
            exact ⟨line', List.mem_cons_of_mem _ listed', raw', shape⟩

theorem mem_getLast?_zipWith {change : Text → Bool → Text} {ls : List Text} {flags : List Bool}
    (flagged : flags.length = ls.length) {changed : Text}
    (last : changed ∈ (ls.zipWith change flags).getLast?) :
    ∃ line ∈ ls.getLast?, ∃ raw, changed = change line raw := by
  induction ls generalizing flags with
  | nil => simp at last
  | cons line more ih =>
      cases flags with
      | nil => simp at last
      | cons raw flags =>
          cases more with
          | nil => exact ⟨line, rfl, raw, by simpa [eq_comm] using last⟩
          | cons next more =>
              cases flags with
              | nil => simp at flagged
              | cons raw' flags =>
                  rw [List.getLast?_cons_cons]
                  exact @ih (raw' :: flags) (by simpa using flagged) (by simpa using last)

theorem zipWith_zipWith {first second : Text → Bool → Text} (ls : List Text) (flags : List Bool) :
    (ls.zipWith first flags).zipWith second flags =
      ls.zipWith (fun line raw => second (first line raw) raw) flags := by
  induction ls generalizing flags with
  | nil => rfl
  | cons line more ih =>
      cases flags with
      | nil => rfl
      | cons raw flags => simp [ih]

theorem mem_of_mem_dedentLine {column : Nat} {line : Text} {raw : Bool} {c : Char}
    (found : c ∈ dedentLine column line raw) : c ∈ line := by
  unfold dedentLine at found
  split at found
  · exact found
  · replace found := Text.mem_of_mem_trimEnd found
    fun_induction dropIndent column line with
    | case1 | case2 | case4 => exact found
    | case3 column d rest indent ih => exact List.mem_cons_of_mem _ (ih found)

theorem dropIndent_of_dark {c : Char} (dark : Text.isBlank c = false) (column : Nat)
    (line : Text) : dropIndent column (c :: line) = c :: line := by
  cases column with
  | zero => rfl
  | succ column =>
      rw [dropIndent, if_neg]
      rintro (rfl | rfl)
      · exact absurd dark (by decide)
      · exact absurd dark (by decide)

theorem dedentLines_cons (column : Nat) (first : Text) (raw : Bool) (more : List Text)
    (flags : List Bool) :
    dedentLines column ((first :: more).zip (raw :: flags)) =
      Text.trimEnd first :: more.zipWith (dedentLine column) flags := by
  rw [List.zip_cons_cons, dedentLines, List.map_zip_eq_zipWith]
  rfl

/-- A first line that starts with no blank has no indentation to lose, so all lines are dedented
alike. -/
theorem dedentLines_of_dark {c : Char} (dark : Text.isBlank c = false) (column : Nat)
    (line : Text) (more : List Text) :
    dedentLines column (((c :: line) :: more).zip (flagLines .code ((c :: line) :: more))) =
      ((c :: line) :: more).zipWith (dedentLine column)
        (flagLines .code ((c :: line) :: more)) := by
  have first : dedentLine column (c :: line) false = Text.trimEnd (c :: line) := by
    rw [dedentLine, if_neg (by simp), dropIndent_of_dark dark]
  rw [flagLines, dedentLines_cons, List.zipWith_cons_cons, ← first]
  rfl

theorem map_trim_dedentLines (column : Nat) (ls : List Text) :
    (dedentLines column (ls.zip (flagLines .code ls))).map Text.trim = ls.map Text.trim := by
  cases ls with
  | nil => rfl
  | cons first more =>
      rw [flagLines, dedentLines_cons, List.map_cons, List.map_cons, Lexical.trim_trimEnd,
        map_trim_zipWith (Lexical.trim_dedentLine column) (length_flagLines _ more)]

theorem length_dedentLines (column : Nat) (ls : List Text) :
    (dedentLines column (ls.zip (flagLines .code ls))).length = ls.length := by
  simpa using congrArg List.length (map_trim_dedentLines column ls)

end Rethrow.Fragment
