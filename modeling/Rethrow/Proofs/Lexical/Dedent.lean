import Rethrow.Proofs.Lexical.Comments

/-!
# Comments of dedented fragments

Removing indentation changes blanks at the ends of lines and nothing else, so a fragment
keeps its comments and what it leaves open. `comments_of_sameLines` and `after_of_sameLines`
say this of all lines that are the same up to blanks.
-/

namespace Rethrow.Lexical

open Text (Blank Firm)

/-! ## The last line -/

theorem SameLines.trans {a b c : List Text} (first : SameLines a b) (second : SameLines b c) :
    SameLines a c := by
  induction first generalizing c with
  | nil => exact second
  | cons same rest ih =>
      cases second with
      | cons same' rest' => exact .cons (same.trans same') (ih rest')
      | skip blank rest' => exact .skip (same.trans blank) (ih rest')
  | skip blank rest ih => exact .skip blank (ih second)

theorem joinLines_cons_cons (line next : Text) (more : List Text) :
    Text.joinLines (line :: next :: more) = line ++ '\n' :: Text.joinLines (next :: more) := by
  simp [Text.joinLines, Text.joinWith, List.intercalate_cons_cons]

@[simp] theorem joinLines_singleton (line : Text) : Text.joinLines [line] = line := by
  simp [Text.joinLines, Text.joinWith]

theorem joinLines_splitAtChar (t : Text) : Text.joinLines (Text.splitAtChar '\n' t) = t := by
  induction t using Text.byLines with
  | last line free => rw [Text.splitAtChar_of_not_mem free, joinLines_singleton]
  | more line rest free ih =>
      rw [Text.splitAtChar_append free]
      cases shape : Text.splitAtChar '\n' rest with
      | nil => exact absurd shape (Text.splitAtChar_ne_nil '\n' rest)
      | cons piece pieces => rw [joinLines_cons_cons, ← shape, ih]

theorem firm_of_append {a b : Text} (firm : Firm (a ++ '\n' :: b)) : Firm b ∧ b ≠ [] := by
  cases b with
  | nil =>
      have dark := firm '\n' (by simp)
      exact absurd dark (by decide)
  | cons c rest =>
      refine ⟨fun d last => firm d ?_, by simp⟩
      rw [List.getLast?_append, List.getLast?_cons_cons, last]
      rfl

theorem firm_append {a b : Text} (firm : Firm b) (some : b ≠ []) : Firm (a ++ '\n' :: b) := by
  cases b with
  | nil => exact absurd rfl some
  | cons c rest =>
      intro d last
      rw [List.getLast?_append, List.getLast?_cons_cons] at last
      cases ended : (c :: rest).getLast? with
      | none => simp at ended
      | some e =>
          rw [ended] at last
          exact firm d (by rw [ended]; exact last)

theorem eq_append_trim_of_firm {t : Text} (firm : Firm t) :
    ∃ lead, Blank lead ∧ t = lead ++ Text.trim t := by
  obtain ⟨lead, blank, shape⟩ := Text.trimStart_append_blank t
  have rest : Firm (Text.trimStart t) := by
    intro c last
    refine firm c ?_
    rw [shape, List.getLast?_append, last]
    rfl
  exact ⟨lead, blank, by rw [Text.trim, Text.trimEnd_of_firm rest, ← shape]⟩

theorem after_of_firm {state : State} (starts : state.fed .text = state) {t : Text}
    (firm : Firm t) :
    after .text state t = after .text state (Text.trim t) := by
  obtain ⟨lead, blank, shape⟩ := eq_append_trim_of_firm firm
  conv => lhs; rw [shape]
  exact (@complete_lead state starts none (fun _ => rfl) lead blank _).2

theorem blank_joinLines_cons {line : Text} {more : List Text} :
    Blank (Text.joinLines (line :: more)) ↔ Blank line ∧ Blank (Text.joinLines more) := by
  cases more with
  | nil => simp [Text.joinLines, Text.joinWith]
  | cons next more =>
      rw [joinLines_cons_cons, Text.blank_append]
      simp only [Blank, List.forall_mem_cons, show Text.isBlank '\n' = true by decide, true_and]

theorem blank_of_sameLines {ls others : List Text} (same : SameLines ls others)
    (blank : Blank (Text.joinLines others)) : Blank (Text.joinLines ls) := by
  induction same with
  | nil => exact Text.blank_nil
  | cons same rest ih =>
      rw [blank_joinLines_cons] at blank ⊢
      rw [Text.trim_eq_nil_of_blank blank.1] at same
      exact ⟨Text.blank_of_trim_eq_nil same, ih blank.2⟩
  | skip vanishes rest ih =>
      rw [blank_joinLines_cons]
      exact ⟨Text.blank_of_trim_eq_nil vanishes, ih blank⟩

theorem not_firm_of_blank {a b : Text} (blank : Blank b) : ¬Firm (a ++ '\n' :: b) := by
  intro firm
  obtain ⟨rest, nonempty⟩ := firm_of_append firm
  exact nonempty (Text.eq_nil_of_blank_of_firm blank rest)

/-- Joined lines that are the same up to blanks leave the same open, if neither ends in a
blank. -/
theorem after_joinLines {ls others : List Text} (same : SameLines ls others) {state : State}
    (starts : state.fed .text = state) (firm : Firm (Text.joinLines ls))
    (firm' : Firm (Text.joinLines others)) :
    after .text state (Text.joinLines ls) = after .text state (Text.joinLines others) := by
  induction same generalizing state with
  | nil => rfl
  | @cons line line' more others same rest ih =>
      cases rest with
      | nil =>
          rw [joinLines_singleton] at firm firm' ⊢
          rw [joinLines_singleton, after_of_firm starts firm, after_of_firm starts firm', same]
      | @cons next next' more others same' rest =>
          rw [joinLines_cons_cons] at firm firm' ⊢
          rw [joinLines_cons_cons, after_line starts, after_line starts, ← same]
          exact ih (fed_fed _) (firm_of_append firm).1 (firm_of_append firm').1
      | @skip next more others blank rest =>
          rw [joinLines_cons_cons] at firm ⊢
          cases others with
          | nil => exact absurd firm (not_firm_of_blank
              (blank_of_sameLines (.skip blank rest) Text.blank_nil))
          | cons next' others =>
              rw [joinLines_cons_cons] at firm' ⊢
              rw [after_line starts, after_line starts, ← same]
              exact ih (fed_fed _) (firm_of_append firm).1 (firm_of_append firm').1
  | @skip line more others blank rest ih =>
      cases more with
      | nil =>
          cases rest
          rw [joinLines_singleton] at firm ⊢
          rw [after_of_firm starts firm, blank]
          rfl
      | cons next more =>
          rw [joinLines_cons_cons] at firm ⊢
          rw [after_line starts, blank, after, starts]
          exact ih starts (firm_of_append firm).1 firm'

/-- A list of lines that is the same up to blanks, and whose last line ends in no blank,
ends in no blank if the other does not. -/
theorem firm_of_sameLines {ls others : List Text} (same : SameLines ls others)
    (firm : Firm (Text.joinLines ls)) (ends : ∀ line ∈ others.getLast?, Firm line) :
    Firm (Text.joinLines others) := by
  induction same with
  | nil => exact firm
  | @cons line line' more others same rest ih =>
      cases rest with
      | nil =>
          rw [joinLines_singleton]
          exact ends line' (by simp)
      | @cons next next' more others same' rest =>
          rw [joinLines_cons_cons] at firm ⊢
          have below := ih (firm_of_append firm).1 (by simpa using ends)
          refine firm_append below fun vanishes => not_firm_of_blank ?_ firm
          exact blank_of_sameLines (.cons same' rest) (by rw [vanishes]; exact Text.blank_nil)
      | @skip next more others blank rest =>
          rw [joinLines_cons_cons] at firm
          cases others with
          | nil =>
              rw [joinLines_singleton]
              exact ends line' (by simp)
          | cons next' others =>
              have below := ih (firm_of_append firm).1 (by simpa using ends)
              rw [joinLines_cons_cons]
              refine firm_append below fun vanishes => not_firm_of_blank ?_ firm
              exact blank_of_sameLines (.skip blank rest) (by rw [vanishes]; exact Text.blank_nil)
  | @skip line more others blank rest ih =>
      cases more with
      | nil =>
          cases rest
          exact fun c last => absurd last (by simp [Text.joinLines, Text.joinWith])
      | cons next more =>
          rw [joinLines_cons_cons] at firm
          exact ih (firm_of_append firm).1 ends

theorem sameLines_of_map_trim {ls others : List Text}
    (same : ls.map Text.trim = others.map Text.trim) : SameLines ls others := by
  induction ls generalizing others with
  | nil =>
      rw [List.map_nil, eq_comm, List.map_eq_nil_iff] at same
      subst same
      exact .nil
  | cons line more ih =>
      cases others with
      | nil => simp at same
      | cons other others =>
          rw [List.map_cons, List.map_cons, List.cons.injEq] at same
          exact .cons same.1 (ih same.2)

theorem unlines_eq_joinLines {line : Text} {more : List Text} :
    Text.unlines (line :: more) = Text.joinLines (line :: more) ++ ['\n'] := by
  induction more generalizing line with
  | nil => simp
  | cons next more ih =>
      rw [Text.unlines_cons, ih, joinLines_cons_cons, List.append_assoc, List.cons_append]

theorem comments_joinLines (ls : List Text) :
    comments (Text.joinLines ls) = comments (Text.unlines ls) := by
  cases ls with
  | nil => rfl
  | cons line more => rw [unlines_eq_joinLines, comments_append_blank _ blank_feed]

/-- What replaces the lines of a text by lines that are the same up to blanks keeps its
comments and what it leaves open. -/
theorem comments_of_sameLines {t : Text} {others : List Text}
    (same : SameLines (Text.lines t) others) :
    comments (Text.joinLines others) = comments t := by
  rw [comments_joinLines, ← comments_sameLines same]
  exact (comments_lines t).1

theorem firm_last_line {t : Text} (firm : Firm t) :
    ∀ line ∈ (Text.lines t).getLast?, Firm line := by
  induction t using Text.byLines with
  | last line free =>
      rw [Text.lines_of_not_mem free]
      split <;> simp_all
  | more line rest free ih =>
      obtain ⟨below, nonempty⟩ := firm_of_append firm
      rw [Text.lines_append free]
      cases shape : Text.lines rest with
      | nil => exact absurd (Text.eq_nil_of_lines shape) nonempty
      | cons next others =>
          rw [List.getLast?_cons_cons, ← shape]
          exact ih below

theorem after_of_sameLines {t : Text} {others : List Text} (firm : Firm t)
    (same : SameLines (Text.lines t) others) (ends : ∀ line ∈ others.getLast?, Firm line) :
    after .text .code (Text.joinLines others) = after .text .code t := by
  have pieces : SameLines (Text.splitAtChar '\n' t) (Text.lines t) := sameLines_closeLines _
  rw [← joinLines_splitAtChar t] at firm
  have both := pieces.trans same
  rw [← after_joinLines both rfl firm (firm_of_sameLines both firm ends), joinLines_splitAtChar]

/-! ## Removing indentation -/

theorem trim_trimEnd (t : Text) : Text.trim (Text.trimEnd t) = Text.trim t := by
  obtain ⟨tail, blank, ended⟩ := Text.trimEnd_append_blank t
  conv => rhs; rw [ended]
  rw [Text.trim_append_tail blank]

theorem trim_dedentLine (column : Nat) (line : Text) (raw : Bool) :
    Text.trim (Fragment.dedentLine column line raw) = Text.trim line := by
  have indented : ∃ lead, Blank lead ∧ line = lead ++ Fragment.dropIndent column line := by
    fun_induction Fragment.dropIndent column line with
    | case1 line => exact ⟨[], Text.blank_nil, rfl⟩
    | case2 => exact ⟨[], Text.blank_nil, rfl⟩
    | case3 column c rest indent ih =>
        obtain ⟨lead, blank, shape⟩ := ih
        refine ⟨c :: lead, ?_, congrArg (c :: ·) shape⟩
        simp only [Blank, List.forall_mem_cons]
        exact ⟨by rcases indent with rfl | rfl <;> decide, blank⟩
    | case4 => exact ⟨[], Text.blank_nil, rfl⟩
  unfold Fragment.dedentLine
  split
  · rfl
  · obtain ⟨lead, leadBlank, shape⟩ := indented
    conv => rhs; rw [shape]
    rw [Text.trim_append leadBlank, trim_trimEnd]

theorem sameLines_dedentLines (column : Nat) (pairs : List (Text × Bool)) :
    SameLines (pairs.map Prod.fst) (Fragment.dedentLines column pairs) := by
  refine sameLines_of_map_trim ?_
  cases pairs with
  | nil => rfl
  | cons first later => simp [Fragment.dedentLines, trim_dedentLine, trim_trimEnd]

theorem last_dedentLines (column : Nat) {pairs : List (Text × Bool)}
    (ends : ∀ line ∈ (pairs.map Prod.fst).getLast?, Firm line) :
    ∀ line ∈ (Fragment.dedentLines column pairs).getLast?, Firm line := by
  rcases List.eq_nil_or_concat pairs with rfl | ⟨init, last, rfl⟩
  · simp [Fragment.dedentLines]
  · have firm := ends last.1 (by simp)
    cases init with
    | nil => simpa [Fragment.dedentLines] using Text.firm_trimEnd last.1
    | cons first later =>
        have shape : Fragment.dedentLines column ((first :: later).concat last) =
            (Fragment.dedentLines column (first :: later)).concat
              (Fragment.dedentLine column last.1 last.2) := by
          simp [Fragment.dedentLines]
        rw [shape, List.concat_eq_append, List.getLast?_concat]
        rintro line ⟨⟩
        unfold Fragment.dedentLine
        split
        · exact firm
        · exact Text.firm_trimEnd _

theorem map_fst_zip_flags (t : Text) :
    ((Text.lines t).zip (Fragment.textBlockLines t)).map Prod.fst = Text.lines t := by
  have lengths : ∀ (s : Fragment.Scan) (ls : List Text),
      (Fragment.flagLines s ls).length = ls.length := by
    intro s ls
    induction ls generalizing s with
    | nil => rfl
    | cons line more ih => simp [Fragment.flagLines, ih]
  exact List.map_fst_zip (Nat.le_of_eq (lengths .code (Text.lines t)).symm)

/-- Removing indentation keeps the comments of a fragment and, blanks at its end apart,
what it leaves open. -/
theorem comments_dedent (t : Text) (column : Nat) :
    comments (Fragment.dedent t column) = comments t ∧
      after .text .code (Fragment.dedent t column) = after .text .code (Text.trimEnd t) := by
  have same := sameLines_dedentLines column
    ((Text.lines (Text.trimEnd t)).zip (Fragment.textBlockLines (Text.trimEnd t)))
  have ends := @last_dedentLines column
    ((Text.lines (Text.trimEnd t)).zip (Fragment.textBlockLines (Text.trimEnd t)))
  rw [map_fst_zip_flags] at same ends
  constructor
  · obtain ⟨tail, blank, ended⟩ := Text.trimEnd_append_blank t
    refine (comments_of_sameLines same).trans ?_
    conv => rhs; rw [ended]
    rw [comments_append_blank _ blank]
  · have firm := Text.firm_trimEnd t
    exact after_of_sameLines firm same (ends (firm_last_line firm))

/-! ## The ends of a dedented fragment -/

theorem loose_of_after_blank {state : State} {tail : Text} (blank : Blank tail)
    (ended : after .text state tail = .code ∨ after .text state tail = .lineComment) :
    state = .code ∨ state = .lineComment := by
  induction tail generalizing state with
  | nil => exact ended
  | cons c tail ih =>
      simp only [Blank, List.forall_mem_cons] at blank
      rw [(scan_blank blank.1 state tail).2] at ended
      have stepped := ih blank.2 ended
      cases state <;> simp_all [blankStep]

theorem loose_trimEnd {t : Text} (loose : Loose .text t) : Loose .text (Text.trimEnd t) := by
  obtain ⟨tail, blank, ended⟩ := Text.trimEnd_append_blank t
  rw [Loose, ended, (scan_append_blank .code _ blank).2] at loose
  exact loose_of_after_blank blank loose

theorem loose_dedent {t : Text} (loose : Loose .text t) (column : Nat) :
    Loose .text (Fragment.dedent t column) := by
  rw [Loose, (comments_dedent t column).2]
  exact loose_trimEnd loose

theorem trimEnd_cons {c : Char} (dark : Text.isBlank c = false) (rest : Text) :
    ∃ kept, Text.trimEnd (c :: rest) = c :: kept := by
  rw [Text.trimEnd]
  split
  · exact ⟨[], by simp [dark]⟩
  · exact ⟨_, rfl⟩

theorem lines_cons {c : Char} (dark : Text.isBlank c = false) (rest : Text) :
    ∃ line more, Text.lines (c :: rest) = (c :: line) :: more := by
  have noFeed : c ≠ '\n' := by rintro rfl; exact absurd dark (by decide)
  have noReturn : c ≠ '\r' := by rintro rfl; exact absurd dark (by decide)
  generalize whole : c :: rest = t
  induction t using Text.byLines with
  | last line free =>
      subst whole
      exact ⟨rest, [], by rw [Text.lines_of_not_mem free]; rfl⟩
  | more line below free ih =>
      cases line with
      | nil => exact absurd (List.cons.inj whole).1 noFeed
      | cons d line =>
          obtain ⟨rfl, -⟩ := List.cons.inj whole
          refine ⟨Text.dropReturn line, Text.lines below, ?_⟩
          rw [Text.lines_append free, Text.dropReturn]
          simp [noReturn]

theorem head_joinLines (c : Char) (line : Text) (more : List Text) :
    (Text.joinLines ((c :: line) :: more)).head? = some c := by
  cases more with
  | nil => rw [joinLines_singleton]; rfl
  | cons next more => rw [joinLines_cons_cons]; rfl

theorem head_dedent {c : Char} (dark : Text.isBlank c = false) (rest : Text) (column : Nat) :
    (Fragment.dedent (c :: rest) column).head? = some c := by
  obtain ⟨kept, trimmed⟩ := trimEnd_cons dark rest
  obtain ⟨line, more, shape⟩ := lines_cons dark kept
  obtain ⟨kept', trimmed'⟩ := trimEnd_cons dark line
  unfold Fragment.dedent Fragment.textBlockLines
  rw [trimmed]
  dsimp only
  rw [shape, Fragment.flagLines, List.zip_cons_cons, Fragment.dedentLines, trimmed']
  exact head_joinLines c kept' _

end Rethrow.Lexical
