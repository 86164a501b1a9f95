import Rethrow.Proofs.Lexical.Normalised
import Rethrow.Proofs.Lexical.Reindent
import Rethrow.Proofs.Text.Replace

/-!
# Fragments that are collapsed, laid out and read again

What collapsing leaves is tidy, whichever way it goes, so it can be laid out at a depth and cut
into the same lines again. Which way the laid-out text is collapsed is settled by the same marks:
a mark without blanks lies inside a word, and neither collapsing nor the layout changes words.

Without a text block the layout is then undone (`collapse_reindented`): trimming takes the depth
off the lines again, and a fragment on one line was not indented in the first place. A fragment
with a text block is dedented by nothing, so what the layout puts in front of its lines outside
the block stays.
-/

namespace Rethrow

open Text (Blank Firm)

namespace Lexical

/-! ## Marks without blanks -/

section

variable {mark : Text} (dark : Dark mark) (some : mark ≠ [])

include dark

theorem Dark.foreign {c : Char} (blank : Text.isBlank c = true) : c ∉ mark := by
  intro found
  rw [dark c found] at blank
  exact absurd blank (by simp)

include some

/-- Blanks in front of a text hold nothing of a mark. -/
theorem infix_lead {lead : Text} (blank : Blank lead) (b : Text) :
    mark <:+: lead ++ b ↔ mark <:+: b := by
  induction lead with
  | nil => rfl
  | cons c lead ih =>
      simp only [Blank, List.forall_mem_cons] at blank
      have cut := @Text.infix_append_cons mark c some (dark.foreign blank.1) [] (lead ++ b)
      rw [List.nil_append] at cut
      rw [List.cons_append, cut, ih blank.2]
      simp [some]

/-- A run of blanks parts a text: a mark lies in front of it or behind it. -/
theorem infix_run {run : Text} (blank : Blank run) (parted : run ≠ []) (a b : Text) :
    mark <:+: a ++ (run ++ b) ↔ mark <:+: a ∨ mark <:+: b := by
  cases run with
  | nil => exact absurd rfl parted
  | cons c run =>
      simp only [Blank, List.forall_mem_cons] at blank
      rw [List.cons_append, Text.infix_append_cons some (dark.foreign blank.1),
        infix_lead dark some blank.2]

theorem infix_trim (t : Text) : mark <:+: Text.trim t ↔ mark <:+: t := by
  obtain ⟨lead, tail, leadBlank, tailBlank, shape⟩ := Text.trim_append_blanks t
  conv => rhs; rw [shape]
  rw [List.append_assoc, infix_lead dark some leadBlank]
  cases tail with
  | nil => rw [List.append_nil]
  | cons c tail =>
      have cut := infix_run dark some tailBlank (by simp) (Text.trim t) []
      rw [List.append_nil] at cut
      rw [cut]
      simp [some]

theorem infix_joinLines_cons (line : Text) (more : List Text) :
    mark <:+: Text.joinLines (line :: more) ↔ mark <:+: line ∨ mark <:+: Text.joinLines more := by
  cases more with
  | nil => simp [Text.joinLines, Text.joinWith, some]
  | cons next more =>
      rw [joinLines_cons_cons]
      exact infix_run dark some blank_feed (by simp) line _

/-- Lines that are the same up to blanks hold the same marks. -/
theorem infix_sameLines {ls others : List Text} (same : SameLines ls others) :
    mark <:+: Text.joinLines ls ↔ mark <:+: Text.joinLines others := by
  induction same with
  | nil => rfl
  | cons same' _ ih =>
      rw [infix_joinLines_cons dark some, infix_joinLines_cons dark some, ih,
        ← infix_trim dark some, same', infix_trim dark some]
  | skip blank _ ih =>
      rw [infix_joinLines_cons dark some, ih, ← infix_trim dark some, blank]
      simp [some]

/-- Texts of the same words hold the same marks. -/
theorem infix_sameRuns {t t' : Text} (same : SameRuns t t') : mark <:+: t ↔ mark <:+: t' := by
  induction same with
  | word => rfl
  | cons _ _ blank blank' parted parted' _ _ ih =>
      rw [infix_run dark some blank parted, infix_run dark some blank' parted', ih]

end

theorem holds_congr {mark a b : Text} (same : mark <:+: a ↔ mark <:+: b) :
    Text.holds mark a = Text.holds mark b := by
  rw [Bool.eq_iff_iff, holds_iff, holds_iff, same]

theorem dark_replicate {c : Char} (dark : Text.isBlank c = false) (count : Nat) :
    Dark (List.replicate count c) := by
  intro d listed
  rw [List.eq_of_mem_replicate listed]
  exact dark

theorem dark_quotes : Dark "\"\"\"".toList :=
  dark_replicate (c := '"') rfl 3

theorem dark_slashes : Dark "//".toList :=
  dark_replicate (c := '/') rfl 2

end Lexical

namespace Fragment

open Lexical (dark_quotes dark_slashes)

/-! ## What collapsing leaves is tidy -/

theorem zipWith_of_fixed {change : Text → Bool → Text} {ls : List Text} {flags : List Bool}
    (flagged : flags.length = ls.length) (fixed : ∀ line ∈ ls, ∀ raw, change line raw = line) :
    ls.zipWith change flags = ls := by
  induction ls generalizing flags with
  | nil => rfl
  | cons line more ih =>
      rw [List.forall_mem_cons] at fixed
      cases flags with
      | nil => simp at flagged
      | cons raw flags =>
          rw [List.zipWith_cons_cons, fixed.1, ih (by simpa using flagged) fixed.2]

/-- Lines without blanks at their ends are tidy. -/
theorem tidy_of_trimmed {ls : List Text} (listed : ls ≠ []) (free : ∀ line ∈ ls, '\n' ∉ line)
    (full : ∀ line ∈ ls, line ≠ []) (trimmed : ∀ line ∈ ls, Text.trim line = line) : Tidy ls := by
  have firm : ∀ line ∈ ls, Firm line := fun line among => by
    rw [← trimmed line among]
    exact Text.firm_trim line
  refine ⟨?_, ?_, free, fun line among => Text.dropReturn_of_firm (firm line among), ?_⟩
  · obtain ⟨first, more, rfl⟩ := List.exists_cons_of_ne_nil listed
    obtain ⟨c, line, rfl⟩ := List.exists_cons_of_ne_nil (full first List.mem_cons_self)
    exact ⟨c, line, more, rfl, Text.head_trim (trimmed _ List.mem_cons_self)⟩
  · clear listed free trimmed
    induction ls with
    | nil => exact fun c last => absurd last (by simp [Text.joinLines, Text.joinWith])
    | cons line more ih =>
        rw [List.forall_mem_cons] at full firm
        cases more with
        | nil => simpa using firm.1
        | cons next more =>
            rw [Lexical.joinLines_cons_cons]
            refine Lexical.firm_append (ih full.2 firm.2) fun empty => ?_
            obtain ⟨c, line', shape⟩ := List.exists_cons_of_ne_nil (full.2 next List.mem_cons_self)
            have head := Lexical.head_joinLines c line' more
            rw [← shape, empty] at head
            exact absurd head (by simp)
  · refine zipWith_of_fixed (length_flagLines _ ls) fun line among raw => ?_
    cases raw with
    | true => rfl
    | false => exact Text.trimEnd_of_firm (firm line among)

theorem trimmed_trimmedLines {t line : Text} (among : line ∈ trimmedLines t) :
    line ≠ [] ∧ Text.trim line = line := by
  simp only [trimmedLines, List.mem_filter, List.mem_map] at among
  obtain ⟨⟨whole, -, rfl⟩, some⟩ := among
  exact ⟨by simpa using some, Lexical.trim_trim whole⟩

theorem firm_collapseRuns {run t : Text} (firm : Firm t) : Firm (collapseRuns run t) := by
  induction t generalizing run with
  | nil => exact fun c last => absurd last (by simp [collapseRuns])
  | cons c t ih =>
      have below : Firm t := @Lexical.Firm.of_append [c] t firm
      rw [collapseRuns]
      split
      · exact ih below
      · rename_i isDark
        intro d last
        rw [List.getLast?_append, List.getLast?_cons] at last
        cases ended : (collapseRuns [] t).getLast? with
        | none =>
            obtain rfl : c = d := by simpa [ended] using last
            simpa using isDark
        | some e =>
            obtain rfl : e = d := by simpa [ended] using last
            exact ih below e ended

/-- Runs without a line feed are kept. -/
theorem collapseRuns_of_not_mem {run t : Text} (blank : Blank run) (free : '\n' ∉ run ++ t)
    (firm : Firm (run ++ t)) : collapseRuns run t = run ++ t := by
  induction t generalizing run with
  | nil =>
      rw [List.append_nil] at firm
      rw [Text.eq_nil_of_blank_of_firm blank firm]
      rfl
  | cons c t ih =>
      have onward : run ++ c :: t = run ++ [c] ++ t := List.append_cons run c t
      rw [collapseRuns]
      split
      · rename_i isBlank
        have longer : Blank (run ++ [c]) :=
          Text.blank_append.mpr ⟨blank, by simpa [Blank] using isBlank⟩
        rw [onward] at free firm ⊢
        exact ih longer free firm
      · have kept : closeRun run = run := by
          rw [closeRun, if_neg]
          simp only [List.contains_iff_mem]
          exact fun found => free (List.mem_append_left _ found)
        rw [onward] at firm
        have below : collapseRuns [] t = t := ih Text.blank_nil
          (fun found => free (List.mem_append_right _ (List.mem_cons_of_mem _ found)))
          (Lexical.Firm.of_append firm)
        rw [kept, below]

/-- The way a fragment is collapsed is settled by its marks, the blanks at its ends apart. -/
theorem collapse_eq (t : Text) :
    collapse t =
      if Text.holds "\"\"\"".toList t then dedent (Text.trim t) 0
      else if Text.holds "//".toList t then Text.joinLines (trimmedLines (Text.trim t))
      else collapseRuns [] (Text.trim t) := by
  unfold collapse
  dsimp only
  rw [Lexical.holds_congr (Lexical.infix_trim dark_quotes (by simp) t),
    Lexical.holds_congr (Lexical.infix_trim dark_slashes (by simp) t)]

/-- What collapsing leaves of a fragment that is not blank: tidy lines with the same marks. Unless
there is a text block they are trimmed, and without a line comment there is one line. -/
structure Collapsed (t : Text) (ls : List Text) : Prop where
  joined : collapse t = Text.joinLines ls
  tidy : Tidy ls
  marks : ∀ {mark}, Lexical.Dark mark → mark ≠ [] →
    (mark <:+: Text.joinLines ls ↔ mark <:+: t)
  trimmed : Text.holds "\"\"\"".toList t = false → ∀ line ∈ ls, line ≠ [] ∧ Text.trim line = line
  single : Text.holds "\"\"\"".toList t = false → Text.holds "//".toList t = false →
    ∃ line, ls = [line] ∧ '\n' ∉ line

theorem collapsed_block {t : Text} {c : Char} {rest : Text} (plain : '\r' ∉ t)
    (shape : Text.trim t = c :: rest) (block : Text.holds "\"\"\"".toList t = true) :
    ∃ ls, Collapsed t ls := by
  have firm := Text.firm_trim t
  have single : ¬['\r', '\r', '\n'] <:+: Text.trim t := fun found =>
    plain (Text.mem_of_mem_trim (found.subset (by simp)))
  rw [shape] at firm single
  have tidy := tidy_dedentLines (Text.head_trim shape) firm single 0
  have same := Lexical.sameLines_dedentLines 0
    ((Text.lines (c :: rest)).zip (textBlockLines (c :: rest)))
  rw [Lexical.map_fst_zip_flags] at same
  have pieces := (Lexical.sameLines_closeLines (Text.splitAtChar '\n' (c :: rest))).trans same
  refine ⟨_, ?_, tidy, fun dark some => ?_, ?_, ?_⟩
  · rw [collapse_eq, if_pos block, shape, dedent, Text.trimEnd_of_firm firm]
  · rw [← Lexical.infix_sameLines dark some pieces, Lexical.joinLines_splitAtChar, ← shape,
      Lexical.infix_trim dark some]
  · exact fun noBlock => absurd (block.symm.trans noBlock) (by simp)
  · exact fun noBlock => absurd (block.symm.trans noBlock) (by simp)

theorem collapsed_comment {t : Text} (noBlock : Text.holds "\"\"\"".toList t = false)
    (comment : Text.holds "//".toList t = true) : ∃ ls, Collapsed t ls := by
  have pieces := (Lexical.sameLines_closeLines (Text.splitAtChar '\n' (Text.trim t))).trans
    (Lexical.sameLines_trimmedLines (Text.trim t))
  have marks : ∀ {mark}, Lexical.Dark mark → mark ≠ [] →
      (mark <:+: Text.joinLines (trimmedLines (Text.trim t)) ↔ mark <:+: t) := by
    intro mark dark some
    rw [← Lexical.infix_sameLines dark some pieces, Lexical.joinLines_splitAtChar,
      Lexical.infix_trim dark some]
  have listed : trimmedLines (Text.trim t) ≠ [] := by
    intro none
    have found := (marks dark_slashes (by simp)).mpr (Lexical.holds_iff.mp comment)
    rw [none] at found
    exact absurd found (by simp [Text.joinLines, Text.joinWith])
  refine ⟨_, ?_, ?_, marks, fun _ line => trimmed_trimmedLines, ?_⟩
  · rw [collapse_eq, noBlock, if_neg Bool.false_ne_true, if_pos comment]
  · exact tidy_of_trimmed listed
      (not_mem_trimmedLines fun _ => Text.not_mem_of_mem_lines)
      (fun _ among => (trimmed_trimmedLines among).1)
      fun _ among => (trimmed_trimmedLines among).2
  · exact fun _ noComment => absurd (comment.symm.trans noComment) (by simp)

theorem collapsed_words {t : Text} {c : Char} {rest : Text} (shape : Text.trim t = c :: rest)
    (noBlock : Text.holds "\"\"\"".toList t = false)
    (noComment : Text.holds "//".toList t = false) : ∃ ls, Collapsed t ls := by
  have firm := Text.firm_trim t
  have isDark := Text.head_trim shape
  rw [shape] at firm
  have same := Lexical.sameRuns_collapseRuns (Lexical.dark_singleton isDark) (by simp)
    Text.blank_nil (@Lexical.Firm.of_append [c] rest firm)
  have collapsed : collapseRuns [] (c :: rest) = [c] ++ collapseRuns [] rest := by
    simp [collapseRuns, isDark, closeRun]
  have trimmed : Text.trim (collapseRuns [] (c :: rest)) = collapseRuns [] (c :: rest) := by
    have ended : Firm (collapseRuns [] (c :: rest)) := firm_collapseRuns firm
    rw [collapsed, List.singleton_append] at ended ⊢
    rw [Lexical.trim_cons isDark, Text.trimEnd_of_firm ended]
  have free : '\n' ∉ collapseRuns [] (c :: rest) := by
    intro found
    rcases mem_collapseRuns found with space | ⟨noFeed, -⟩
    · exact absurd space (by decide)
    · exact noFeed rfl
  have kept : collapseRuns [] (c :: rest) ≠ [] ∧
      Text.trim (collapseRuns [] (c :: rest)) = collapseRuns [] (c :: rest) :=
    ⟨by simp [collapsed], trimmed⟩
  refine ⟨[collapseRuns [] (c :: rest)], ?_, ?_, fun dark some => ?_, ?_, ?_⟩
  · rw [collapse_eq, noBlock, if_neg Bool.false_ne_true, noComment, if_neg Bool.false_ne_true,
      shape, Lexical.joinLines_singleton]
  · exact tidy_of_trimmed (by simp) (by simpa using free) (by simpa using kept.1)
      (by simpa using kept.2)
  · rw [Lexical.joinLines_singleton, collapsed, ← Lexical.infix_sameRuns dark some same,
      List.nil_append, List.singleton_append, ← shape, Lexical.infix_trim dark some]
  · intro _ line among
    obtain rfl := List.mem_singleton.mp among
    exact kept
  · exact fun _ _ => ⟨_, rfl, free⟩

/-- What collapsing leaves is tidy, whichever way it goes. -/
theorem collapsed_cases {t : Text} (plain : '\r' ∉ t) :
    collapse t = [] ∧ Text.holds "\"\"\"".toList t = false ∨ ∃ ls, Collapsed t ls := by
  cases noBlock : Text.holds "\"\"\"".toList t with
  | true =>
      cases shape : Text.trim t with
      | nil =>
          rw [← Lexical.holds_congr (Lexical.infix_trim dark_quotes (by simp) t), shape] at noBlock
          exact absurd noBlock (by decide)
      | cons c rest => exact .inr (collapsed_block plain shape noBlock)
  | false =>
      cases noComment : Text.holds "//".toList t with
      | true => exact .inr (collapsed_comment noBlock noComment)
      | false =>
          cases shape : Text.trim t with
          | nil =>
              refine .inl ⟨?_, rfl⟩
              rw [collapse_eq, noBlock, noComment, shape]
              rfl
          | cons c rest => exact .inr (collapsed_words shape noBlock noComment)

/-! ## Tidy lines at a depth -/

/-- The blanks at the end of a line are dropped alike, indented or not. -/
theorem dedentLine_layLine_comm (depth : Nat) (line : Text) (raw : Bool) :
    dedentLine 0 (layLine depth line raw) raw = layLine depth (dedentLine 0 line raw) raw := by
  cases raw with
  | true => rfl
  | false =>
      obtain ⟨tail, blank, shape⟩ := Text.trimEnd_append_blank line
      show Text.trimEnd (layLine depth line false) = layLine depth (Text.trimEnd line) false
      by_cases kept : Text.trimEnd line = []
      · rw [kept, List.nil_append] at shape
        subst shape
        have vanishes :=
          Text.trimEnd_append (t := []) (Text.blank_append.mpr ⟨blank_indent depth, blank⟩)
        rw [kept, layLine]
        split
        · exact kept
        · exact vanishes
      · have firm := firm_layLine (Text.firm_trimEnd line) depth false
        have laid : layLine depth line false = layLine depth (Text.trimEnd line) false ++ tail := by
          have some : line ≠ [] := by rintro rfl; exact kept rfl
          rw [layLine, layLine, if_neg (by simpa using some), if_neg (by simpa using kept),
            List.append_assoc, ← shape]
        rw [laid, Text.trimEnd_append blank, Text.trimEnd_of_firm firm]

namespace Tidy

variable {ls : List Text}

theorem trim_joinLines (tidy : Tidy ls) : Text.trim (Text.joinLines ls) = Text.joinLines ls := by
  have firm := tidy.firm
  obtain ⟨c, line, more, rfl, isDark⟩ := tidy.starts
  obtain ⟨rest, shape⟩ := List.head?_eq_some_iff.mp (Lexical.head_joinLines c line more)
  rw [shape] at firm ⊢
  rw [Lexical.trim_cons isDark, Text.trimEnd_of_firm firm]

/-- Tidy lines have no indentation to lose. -/
theorem dedent_joinLines (tidy : Tidy ls) : dedent (Text.joinLines ls) 0 = Text.joinLines ls := by
  unfold dedent textBlockLines
  rw [Text.trimEnd_of_firm tidy.firm]
  dsimp only
  rw [tidy.lines_joined]
  have trimmed := tidy.trimmed
  obtain ⟨c, line, more, rfl, isDark⟩ := tidy.starts
  rw [dedentLines_of_dark isDark, trimmed]

/-- Tidy lines are tidy at every depth. -/
theorem laid (tidy : Tidy ls) (depth : Nat) : Tidy (laidLines depth ls) where
  starts := by
    obtain ⟨c, line, more, rfl, isDark⟩ := tidy.starts
    exact ⟨c, line, _, rfl, isDark⟩
  firm := tidy.firm_laidLines depth
  free := tidy.free_laidLines depth
  settled := tidy.settled_laidLines depth
  trimmed := by
    have trimmed := tidy.trimmed
    rw [flagLines_of_trim (map_trim_laidLines depth)]
    obtain ⟨c, line, more, rfl, -⟩ := tidy.starts
    have entered : Scan.code.enterLine = .code := rfl
    rw [flagLines, List.zipWith_cons_cons, List.cons.injEq, entered] at trimmed
    rw [flagLines, laidLines, List.zipWith_cons_cons, trimmed.1, entered, zipWith_zipWith]
    simp only [dedentLine_layLine_comm]
    rw [← zipWith_zipWith, trimmed.2]

end Tidy

theorem layLine_eq_self {depth : Nat} {line : Text} {raw : Bool} :
    layLine depth line raw = line ↔ depth = 0 ∨ raw = true ∨ line = [] := by
  unfold layLine
  split
  · rename_i kept
    simp [kept]
  · rename_i indented
    rw [List.append_left_eq_self, Row.indent, List.replicate_eq_nil_iff]
    simp only [indented, or_false]
    omega

/-- Lines are written as they are at depth zero, or if each of them is empty or starts inside a
text block. -/
theorem zipWith_layLine_eq_self {depth : Nat} {ls : List Text} {flags : List Bool}
    (flagged : flags.length = ls.length) :
    ls.zipWith (layLine depth) flags = ls ↔
      depth = 0 ∨ ∀ (index : Nat) (line : Text), ls[index]? = some line →
        flags[index]? = some true ∨ line = [] := by
  induction ls generalizing flags with
  | nil => simp
  | cons line more ih =>
      cases flags with
      | nil => simp at flagged
      | cons raw flags =>
          rw [List.zipWith_cons_cons, List.cons.injEq, layLine_eq_self,
            ih (by simpa using flagged), ← or_and_left]
          refine or_congr_right ⟨fun ⟨first, later⟩ index => ?_, fun all => ⟨?_, fun index => ?_⟩⟩
          · cases index with
            | zero => simpa using first
            | succ index => exact later index
          · simpa using all 0 line rfl
          · exact all (index + 1)

/-! ## Collapsing again -/

namespace Collapsed

variable {t : Text} {ls : List Text}

theorem lines_collapse (collapsed : Collapsed t ls) : Text.lines (collapse t) = ls := by
  rw [collapsed.joined, collapsed.tidy.lines_joined]

/-- The layout keeps marks. -/
theorem holds_laidLines (collapsed : Collapsed t ls) {mark : Text} (dark : Lexical.Dark mark)
    (some : mark ≠ []) (depth : Nat) :
    Text.holds mark (Text.joinLines (laidLines depth ls)) = Text.holds mark t := by
  have same := Lexical.sameLines_of_map_trim (@Tidy.map_trim_laidLines ls depth)
  exact Lexical.holds_congr
    ((Lexical.infix_sameLines dark some same).trans (collapsed.marks dark some))

/-- With a text block the lines stay as the layout wrote them. -/
theorem collapse_laidLines_block (collapsed : Collapsed t ls)
    (block : Text.holds "\"\"\"".toList t = true) (depth : Nat) :
    collapse (Text.joinLines (laidLines depth ls)) = Text.joinLines (laidLines depth ls) := by
  have laid := collapsed.tidy.laid depth
  rw [collapse_eq, collapsed.holds_laidLines dark_quotes (by simp), if_pos block,
    laid.trim_joinLines, laid.dedent_joinLines]

/-- Without one, what the layout put in front of the lines is taken off again. -/
theorem collapse_laidLines (collapsed : Collapsed t ls)
    (noBlock : Text.holds "\"\"\"".toList t = false) (depth : Nat) :
    collapse (Text.joinLines (laidLines depth ls)) = Text.joinLines ls := by
  have laid := collapsed.tidy.laid depth
  rw [collapse_eq, collapsed.holds_laidLines dark_quotes (by simp), noBlock,
    if_neg Bool.false_ne_true, collapsed.holds_laidLines dark_slashes (by simp),
    laid.trim_joinLines]
  cases noComment : Text.holds "//".toList t with
  | true =>
      have trimmed := collapsed.trimmed noBlock
      have same : ls.map Text.trim = ls := by
        rw [List.map_congr_left fun line among => (trimmed line among).2, List.map_id']
      have full : ls.filter (fun line => !line.isEmpty) = ls :=
        List.filter_eq_self.mpr fun line among => by simpa using (trimmed line among).1
      rw [if_pos rfl, trimmedLines, laid.lines_joined, Tidy.map_trim_laidLines, same, full]
  | false =>
      obtain ⟨line, rfl, free⟩ := collapsed.single noBlock noComment
      have firm := collapsed.tidy.firm
      rw [Lexical.joinLines_singleton] at firm
      have alone : laidLines depth [line] = [line] := rfl
      rw [if_neg Bool.false_ne_true, alone, Lexical.joinLines_singleton]
      exact collapseRuns_of_not_mem Text.blank_nil (by simpa using free) (by simpa using firm)

/-- The layout leaves the lines of a collapsed fragment alone exactly if it indents none of them. -/
theorem joinLines_laidLines_eq (collapsed : Collapsed t ls) (depth : Nat) :
    Text.joinLines (laidLines depth ls) = Text.joinLines ls ↔
      depth = 0 ∨ ∀ (index : Nat) (line : Text), ls[index + 1]? = some line →
        (flagLines .code ls)[index + 1]? = some true ∨ line = [] := by
  have tidy := collapsed.tidy
  have whole :
      Text.joinLines (laidLines depth ls) = Text.joinLines ls ↔ laidLines depth ls = ls := by
    refine ⟨fun same => ?_, fun same => by rw [same]⟩
    rw [← (tidy.laid depth).lines_joined, same, tidy.lines_joined]
  rw [whole]
  obtain ⟨c, line, more, rfl, -⟩ := tidy.starts
  rw [laidLines, List.cons.injEq, zipWith_layLine_eq_self (length_flagLines _ more)]
  simp [flagLines, Scan.enterLine]

end Collapsed

/-- Collapsing a collapsed fragment that was laid out. At every depth the rows of the collapsed
fragment `k` are the indentation of the first row and a text `g`. Collapsing `g` gives `k` back
exactly if the fragment holds no text block, or nothing was indented: at depth zero, or if every
further line of `k` is empty or starts inside a text block. With a text block `g` is collapsed to
itself. -/
theorem collapse_reindented {t : Text} (plain : '\r' ∉ t) (depth : Nat) :
    let k := collapse t
    let g := Text.joinLines (laidLines depth (Text.lines k))
    (k ≠ [] → Row.renderAll (Row.ofText depth k) = Row.indent depth ++ g ++ ['\n']) ∧
      (collapse g = k ↔ Text.holds "\"\"\"".toList t = false ∨ depth = 0 ∨
        ∀ (index : Nat) (line : Text), (Text.lines k)[index + 1]? = some line →
          (textBlockLines k)[index + 1]? = some true ∨ line = []) ∧
      (Text.holds "\"\"\"".toList t = true → collapse g = g) := by
  intro k g
  rcases collapsed_cases plain with ⟨none, noBlock⟩ | ⟨ls, collapsed⟩
  · have empty : k = [] := none
    refine ⟨fun some => absurd empty some, ?_, fun block => ?_⟩
    · refine iff_of_true ?_ (.inl noBlock)
      simp only [g, empty]
      rfl
    · exact absurd (block.symm.trans noBlock) (by simp)
  · have lines : Text.lines k = ls := collapsed.lines_collapse
    have joined : k = Text.joinLines ls := collapsed.joined
    have laid : g = Text.joinLines (laidLines depth ls) := by simp only [g, lines]
    refine ⟨fun _ => ?_, ?_, fun block => ?_⟩
    · rw [joined, laid, collapsed.tidy.renderAll_joinLines]
      obtain ⟨c, line, more, rfl, -⟩ := collapsed.tidy.starts
      rw [laidLines, Lexical.unlines_eq_joinLines, List.append_assoc]
    · cases block : Text.holds "\"\"\"".toList t with
      | false =>
          refine iff_of_true ?_ (.inl rfl)
          rw [laid, joined, collapsed.collapse_laidLines block]
      | true =>
          rw [laid, collapsed.collapse_laidLines_block block, textBlockLines, lines, joined,
            collapsed.joinLines_laidLines_eq]
          simp
    · rw [laid, collapsed.collapse_laidLines_block block]

/-- A list of failures over several lines, one of them empty and one behind a line comment. -/
def commentedClause : Text :=
  "A, // b\n\n      C,\t\n\tD /* e\n f */\n ".toList

theorem collapse_reindented_commentedClause :
    '\r' ∉ commentedClause ∧ collapse commentedClause = "A, // b\nC,\nD /* e\nf */".toList ∧
      Row.renderAll (Row.ofText 2 (collapse commentedClause)) =
        "        A, // b\n        C,\n        D /* e\n        f */\n".toList ∧
      collapse "A, // b\n        C,\n        D /* e\n        f */".toList =
        collapse commentedClause := by
  have plain : '\r' ∉ commentedClause := by decide +kernel
  have noBlock : Text.holds "\"\"\"".toList commentedClause = false := by decide +kernel
  have written : Text.joinLines (laidLines 2 (Text.lines (collapse commentedClause))) =
      "A, // b\n        C,\n        D /* e\n        f */".toList := by decide +kernel
  obtain ⟨rows, again, -⟩ := collapse_reindented plain 2
  rw [written] at rows again
  exact ⟨plain, by decide +kernel, rows (by decide +kernel), again.mpr (.inl noBlock)⟩

/-- An annotation with a text block and a line behind it. -/
def blockAnnotation : Text :=
  "@B(\"\"\"\n\"\"\"\n)".toList

/-- The layout indents the line behind a text block, and collapsing leaves it so. -/
theorem collapse_reindented_blockAnnotation :
    '\r' ∉ blockAnnotation ∧
      Text.joinLines (laidLines 1 (Text.lines (collapse blockAnnotation))) =
        "@B(\"\"\"\n\"\"\"\n    )".toList ∧
      collapse (Text.joinLines (laidLines 1 (Text.lines (collapse blockAnnotation)))) ≠
        collapse blockAnnotation := by
  decide +kernel

end Fragment

end Rethrow
