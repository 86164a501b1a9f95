import Rethrow.Proofs.Lexical.Comments
import Rethrow.Proofs.Lexical.Joints
import Rethrow.Proofs.Unit.Layout

/-!
# The comments of a laid-out unit

Comments are a lexing, for texts with carriage returns too: rows differ from the lines of a
fragment in blanks only.
-/

namespace Rethrow.Lexical

theorem fed_of_loose {t : Text} (loose : Loose .text t) :
    (after .text .code t).fed .text = .code := by
  rcases loose with closed | open_
  · rw [closed]; rfl
  · rw [open_]; rfl

/-- The words and signs of the layout hold no comment. -/
theorem comments_plain {t : Text} (plain : t.all isUnmarked = true) : comments t = [] := by
  induction t with
  | nil => rfl
  | cons c rest ih =>
      rw [List.all_cons, Bool.and_eq_true] at plain
      obtain ⟨clear, noQuote, -⟩ := unmarked_cases plain.1
      rw [comments, (scan_code_cons clear noQuote .text rest).1, Grouping.complete_cons]
      exact ih plain.2

/-- The lexing of comments. -/
def commentLexing : Lexing Text where
  out := comments
  Closed := Closed .text
  Loose := Loose .text
  loose_of_closed := .inl
  out_append closed joint := comments_of_scan (scan_joint closed joint).1
  closed_append left joint right := (scan_joint left joint).2.trans right
  loose_append left joint right := by
    rw [Loose, (scan_joint left joint).2]
    exact right
  out_newline {t} _ := comments_append_blank t blank_feed
  closed_newline {t} loose := by
    rw [Closed, (scan_append_blank .code t blank_feed).2, after_feed, after]
    exact fed_of_loose loose
  closed_of_loose := closed_of_loose
  closed_plain := closed_plain .text
  out_space := by decide
  out_rows {t} depth _ := (comments_ofText depth t).1
  closed_rows {t} depth loose := (comments_ofText depth t).2.trans (fed_of_loose loose)

@[simp] theorem commentLexing_out : commentLexing.out = comments := rfl

end Rethrow.Lexical
