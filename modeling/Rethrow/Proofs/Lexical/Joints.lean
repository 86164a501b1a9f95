import Rethrow.Proofs.Lexical.Scanner
import Rethrow.Proofs.Unit.Lexing

/-!
# Scanning what a separator keeps apart

The separators of the layout are no part of the mark of a comment or literal, so a text
that leaves nothing open is scanned by itself if a separator stands between it and what
follows.
-/

namespace Rethrow.Lexical

theorem separator_cases {c : Char} (separator : isSeparator c = true) :
    Clear c ∧ c ≠ '\'' ∧ Text.isWordPart c = false := by
  simp only [isSeparator, List.contains_iff_mem, List.mem_cons, List.not_mem_nil, or_false]
    at separator
  rcases separator with rfl | rfl | rfl | rfl | rfl | rfl | rfl | rfl | rfl | rfl | rfl | rfl |
    rfl <;> exact ⟨by simp [Clear], by decide, by decide⟩

theorem unmarked_cases {c : Char} (unmarked : isUnmarked c = true) :
    Clear c ∧ c ≠ '\'' ∧ c ≠ '\r' := by
  refine ⟨⟨?_, ?_, ?_⟩, ?_, ?_⟩ <;> · rintro rfl; revert unmarked; decide

/-- A separator on either side makes no mark with what stands on the other. -/
theorem apart_of_joint {reach : Reach} {a b : Text} (joint : Joint a b) :
    Apart (scan reach .code a) b := by
  have last : ∀ {x : Char × Mark}, (scan reach .code a).getLast? = some x →
      a.getLast? = some x.1 := by
    intro x ended
    rw [← scan_fst reach .code a, List.getLast?_map, ended]
    rfl
  rcases joint with rfl | rfl | ⟨c, ended, separator⟩ | ⟨c, head, separator⟩
  · exact ⟨by simp [scan], by simp [scan]⟩
  · exact ⟨by simp, by simp⟩
  · obtain ⟨⟨noQuote, noSlash, -⟩, -, -⟩ := separator_cases separator
    constructor
    · intro slash
      rw [last slash, Option.some_inj] at ended
      exact absurd ended.symm noSlash
    · intro quote
      rw [last quote, Option.some_inj] at ended
      exact absurd ended.symm noQuote
  · obtain ⟨⟨noQuote, noSlash, noStar⟩, -, -⟩ := separator_cases separator
    constructor <;> simp_all

/-- Texts that a separator keeps apart are scanned apart. -/
theorem scan_joint {reach : Reach} {a b : Text} (closed : Closed reach a) (joint : Joint a b) :
    scan reach .code (a ++ b) = scan reach .code a ++ scan reach .code b ∧
      after reach .code (a ++ b) = after reach .code b :=
  scan_append closed (apart_of_joint joint)

theorem closed_plain (reach : Reach) {t : Text} (plain : t.all isUnmarked = true) :
    Closed reach t := by
  induction t with
  | nil => rfl
  | cons c rest ih =>
      rw [List.all_cons, Bool.and_eq_true] at plain
      obtain ⟨clear, noQuote, -⟩ := unmarked_cases plain.1
      rw [Closed, (scan_code_cons clear noQuote reach rest).2]
      exact ih plain.2

end Rethrow.Lexical
