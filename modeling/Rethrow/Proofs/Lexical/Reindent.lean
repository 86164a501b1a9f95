import Rethrow.Proofs.Lexical.Flags

/-!
# Fragments that are laid out and read again

The layout puts a fragment's lines at a depth, and reading the laid-out lines takes that depth
off them again. Either side asks the line scanner which lines start inside a text block, and gets
the same answer: those lines are left as they are, and in the others only the blanks at their ends
change.

`dedent_reindented` is what follows for a fragment that has been dedented once: laying it out at
any depth and dedenting it by that depth gives it back.
-/

namespace Rethrow

namespace Text

/-! ## Joined lines -/

/-- Joined with line feeds, lines that end in no carriage return are the lines of the text. -/
theorem lines_joinLines {ls : List Text} (free : ∀ line ∈ ls, '\n' ∉ line)
    (settled : ∀ line ∈ ls, dropReturn line = line) (ended : ls.getLast? ≠ some []) :
    lines (joinLines ls) = ls := by
  induction ls with
  | nil => rfl
  | cons line more ih =>
      rw [List.forall_mem_cons] at free settled
      cases more with
      | nil =>
          rw [Lexical.joinLines_singleton, lines_of_not_mem free.1, if_neg]
          simpa using ended
      | cons next more =>
          rw [Lexical.joinLines_cons_cons, lines_append free.1, settled.1,
            ih free.2 settled.2 (by simpa using ended)]

theorem lines_unlines {ls : List Text} (free : ∀ line ∈ ls, '\n' ∉ line)
    (settled : ∀ line ∈ ls, dropReturn line = line) : lines (unlines ls) = ls := by
  induction ls with
  | nil => rfl
  | cons line more ih =>
      rw [List.forall_mem_cons] at free settled
      rw [unlines_cons, lines_append free.1, settled.1, ih free.2 settled.2]

/-- No line ends in a carriage return if no line feed stands behind two of them. -/
theorem settled_lines {t : Text} (firm : Firm t) (single : ¬['\r', '\r', '\n'] <:+: t) :
    ∀ line ∈ lines t, dropReturn line = line := by
  induction t using byLines with
  | last line free =>
      rw [lines_of_not_mem free]
      split
      · simp
      · simpa using dropReturn_of_firm firm
  | more line rest free ih =>
      rw [lines_append free, List.forall_mem_cons]
      constructor
      · rcases dropReturn_cases line with same | returns
        · rw [same, same]
        · rcases dropReturn_cases (dropReturn line) with same | doubled
          · exact same
          · refine absurd ?_ single
            rw [returns, doubled]
            exact ⟨dropReturn (dropReturn line), rest, by simp⟩
      · refine ih (Lexical.firm_of_append firm).1 fun found => single ?_
        obtain ⟨before, behind, shape⟩ := found
        exact ⟨line ++ '\n' :: before, behind, by rw [← shape]; simp⟩

theorem last_ne_nil {ls : List Text} (firm : Firm (joinLines ls)) (some : joinLines ls ≠ []) :
    ls.getLast? ≠ Option.some [] := by
  induction ls with
  | nil => simp
  | cons line more ih =>
      cases more with
      | nil => simpa using some
      | cons next more =>
          rw [Lexical.joinLines_cons_cons] at firm
          obtain ⟨below, nonempty⟩ := Lexical.firm_of_append firm
          rw [List.getLast?_cons_cons]
          exact ih below nonempty

/-! ## Blanks at the end of a text -/

/-- Blanks behind a text lengthen its last line or add blank lines. -/
theorem lines_append_blank {body tail : Text} (some : body ≠ []) (firm : Firm body)
    (blank : Blank tail) :
    ∃ init last pad below, lines body = init ++ [last] ∧ Firm last ∧ Blank pad ∧
      (∀ line ∈ below, Blank line) ∧ lines (body ++ tail) = init ++ (last ++ pad) :: below := by
  induction body using byLines with
  | last line free =>
      have single : lines line = [line] := by
        rw [lines_of_not_mem free, if_neg]
        simpa using some
      refine ⟨[], line, ?_⟩
      induction tail using byLines with
      | last tail none =>
          refine ⟨tail, [], single, firm, blank, by simp, ?_⟩
          rw [lines_of_not_mem (by simp [free, none]), if_neg (by simp [some]), List.nil_append]
      | more tail rest none _ =>
          obtain ⟨blankTail, blankRest⟩ := blank_append.mp blank
          have below : ∀ line ∈ lines rest, Blank line := fun line listed c found =>
            blankRest c (List.mem_cons_of_mem _ (mem_of_mem_lines listed found))
          have extended : lines (line ++ (tail ++ '\n' :: rest)) =
              dropReturn (line ++ tail) :: lines rest := by
            rw [← List.append_assoc, lines_append (by simp [free, none])]
          by_cases padded : tail = []
          · subst padded
            refine ⟨[], lines rest, single, firm, blank_nil, below, ?_⟩
            rw [extended, List.append_nil, dropReturn_of_firm firm, List.nil_append]
          · refine ⟨dropReturn tail, lines rest, single, firm,
              fun c found => blankTail c (mem_of_mem_dropReturn found), below, ?_⟩
            rw [extended, dropReturn_append padded, List.nil_append]
  | more line rest free ih =>
      obtain ⟨firmRest, someRest⟩ := Lexical.firm_of_append firm
      obtain ⟨init, last, pad, below, whole, ended, blankPad, blankBelow, longer⟩ :=
        ih someRest firmRest
      refine ⟨dropReturn line :: init, last, pad, below, ?_, ended, blankPad, blankBelow, ?_⟩
      · rw [lines_append free, whole, List.cons_append]
      · rw [List.append_assoc, List.cons_append, lines_append free, longer, List.cons_append]

end Text

open Text (Blank Firm)

namespace Fragment

/-! ## Tidy lines -/

/-- Lines as dedenting leaves them. -/
structure Tidy (ls : List Text) : Prop where
  starts : ∃ c line more, ls = (c :: line) :: more ∧ Text.isBlank c = false
  firm : Firm (Text.joinLines ls)
  free : ∀ line ∈ ls, '\n' ∉ line
  settled : ∀ line ∈ ls, Text.dropReturn line = line
  /-- A line that does not start inside a text block ends in no blank. -/
  trimmed : ls.zipWith (dedentLine 0) (flagLines .code ls) = ls

namespace Tidy

variable {ls : List Text}

theorem ne_nil (tidy : Tidy ls) : Text.joinLines ls ≠ [] := by
  obtain ⟨c, line, more, rfl, -⟩ := tidy.starts
  intro empty
  have head := Lexical.head_joinLines c line more
  rw [empty] at head
  exact absurd head (by simp)

theorem lines_joined (tidy : Tidy ls) : Text.lines (Text.joinLines ls) = ls :=
  Text.lines_joinLines tidy.free tidy.settled (Text.last_ne_nil tidy.firm tidy.ne_nil)

end Tidy

theorem dedentLine_dedentLine (column : Nat) (line : Text) (raw : Bool) :
    dedentLine 0 (dedentLine column line raw) raw = dedentLine column line raw := by
  cases raw with
  | true => rfl
  | false => exact Text.trimEnd_of_firm (Text.firm_trimEnd _)

/-- What dedenting leaves of a fragment that starts and ends with no blank. -/
theorem tidy_dedentLines {c : Char} {rest : Text} (dark : Text.isBlank c = false)
    (firm : Firm (c :: rest)) (single : ¬['\r', '\r', '\n'] <:+: c :: rest) (column : Nat) :
    Tidy (dedentLines column ((Text.lines (c :: rest)).zip (textBlockLines (c :: rest)))) := by
  obtain ⟨line, more, shape⟩ := Lexical.lines_cons dark rest
  have ends := @Lexical.last_dedentLines column
    ((Text.lines (c :: rest)).zip (textBlockLines (c :: rest)))
  rw [Lexical.map_fst_zip_flags] at ends
  replace ends := ends (Lexical.firm_last_line firm)
  have free : ∀ line ∈ Text.lines (c :: rest), '\n' ∉ line := fun _ => Text.not_mem_of_mem_lines
  have settled := Text.settled_lines firm single
  have pieces : Lexical.SameLines (Text.splitAtChar '\n' (c :: rest)) (Text.lines (c :: rest)) :=
    Lexical.sameLines_closeLines _
  rw [← Lexical.joinLines_splitAtChar (c :: rest)] at firm
  unfold textBlockLines at ends ⊢
  rw [shape] at free settled pieces ends ⊢
  rw [dedentLines_of_dark dark] at ends ⊢
  have same := map_trim_zipWith (Lexical.trim_dedentLine column)
    (length_flagLines .code ((c :: line) :: more))
  refine ⟨?_, ?_, ?_, ?_, ?_⟩
  · obtain ⟨kept, trimmed⟩ := Lexical.trimEnd_cons dark line
    rw [flagLines, List.zipWith_cons_cons, dedentLine, if_neg (by simp), dropIndent_of_dark dark,
      trimmed]
    exact ⟨c, kept, _, rfl, dark⟩
  · have both := pieces.trans (Lexical.sameLines_of_map_trim same.symm)
    exact Lexical.firm_of_sameLines both firm ends
  · intro changed listed feed
    obtain ⟨line', listed', raw, rfl⟩ := mem_zipWith listed
    exact free line' listed' (mem_of_mem_dedentLine feed)
  · intro changed listed
    obtain ⟨line', listed', raw, rfl⟩ := mem_zipWith listed
    cases raw with
    | true => exact settled line' listed'
    | false => exact Text.dropReturn_of_firm (Text.firm_trimEnd _)
  · rw [flagLines_of_trim same, zipWith_zipWith]
    simp only [dedentLine_dedentLine]

/-! ## Lines in rows -/

/-- A line as its row is written, the line feed apart. -/
def layLine (depth : Nat) (line : Text) (raw : Bool) : Text :=
  if raw = true ∨ line = [] then line else Row.indent depth ++ line

theorem renderAll_ofText (depth : Nat) (t : Text) :
    Row.renderAll (Row.ofText depth t) =
      Text.unlines ((Text.lines t).zipWith (layLine depth) (textBlockLines t)) := by
  have row : ∀ line raw, Row.render { depth := if raw then none else some depth, text := line } =
      layLine depth line raw ++ ['\n'] := by
    intro line raw
    cases raw <;> cases line <;> simp [Row.render, layLine]
  unfold Row.renderAll Row.ofText Text.unlines
  generalize textBlockLines t = flags
  induction Text.lines t generalizing flags with
  | nil => rfl
  | cons line more ih =>
      cases flags with
      | nil => rfl
      | cons raw flags => rw [List.zipWith_cons_cons, List.flatMap_cons, row, ih]; rfl

theorem blank_indent (depth : Nat) : Blank (Row.indent depth) := by
  intro c found
  rw [List.eq_of_mem_replicate found]
  decide

theorem trim_layLine (depth : Nat) (line : Text) (raw : Bool) :
    Text.trim (layLine depth line raw) = Text.trim line := by
  unfold layLine
  split
  · rfl
  · exact Text.trim_append (blank_indent depth) line

theorem dropIndent_append (spaces : Nat) (line : Text) :
    dropIndent spaces (List.replicate spaces ' ' ++ line) = line := by
  induction spaces with
  | zero => rfl
  | succ spaces ih => rw [List.replicate_succ, List.cons_append, dropIndent, if_pos (.inl rfl), ih]

/-- Dedenting by the depth takes back what the row put in front of its line. -/
theorem dedentLine_layLine (depth : Nat) (line : Text) (raw : Bool) :
    dedentLine (4 * depth) (layLine depth line raw) raw = dedentLine 0 line raw := by
  cases raw with
  | true => rfl
  | false =>
      unfold dedentLine layLine
      by_cases empty : line = []
      · subst empty
        cases depth <;> rfl
      · have indented : ¬(false = true ∨ line = []) := by simpa using empty
        rw [if_neg indented, if_neg (by simp), if_neg (by simp), Row.indent, dropIndent_append]
        rfl

theorem firm_layLine {line : Text} (firm : Firm line) (depth : Nat) (raw : Bool) :
    Firm (layLine depth line raw) := by
  unfold layLine
  split
  · exact firm
  · rename_i shown
    intro c last
    rw [List.getLast?_append] at last
    cases ended : line.getLast? with
    | none => exact absurd (List.getLast?_eq_none_iff.mp ended) (by simp_all)
    | some d =>
        rw [ended] at last
        exact firm c (ended.trans last)

theorem settled_layLine {line : Text} (settled : Text.dropReturn line = line) (depth : Nat)
    (raw : Bool) : Text.dropReturn (layLine depth line raw) = layLine depth line raw := by
  unfold layLine
  split
  · exact settled
  · rename_i shown
    rw [Text.dropReturn_append (by simp_all), settled]

theorem mem_of_mem_layLine {depth : Nat} {line : Text} {raw : Bool} {c : Char} (other : c ≠ ' ')
    (found : c ∈ layLine depth line raw) : c ∈ line := by
  unfold layLine at found
  split at found
  · exact found
  · rcases List.mem_append.mp found with inside | inside
    · exact absurd (List.eq_of_mem_replicate inside) other
    · exact inside

/-- The lines of a fragment as they are written at a depth, the spaces in front of the first one
apart. -/
def laidLines (depth : Nat) : List Text → List Text
  | [] => []
  | first :: more => first :: more.zipWith (layLine depth) (flagLines (scanLine .code first) more)

theorem laidLines_cons (depth : Nat) (first : Text) (more : List Text) :
    laidLines depth (first :: more) =
      (first :: more).zipWith (layLine depth) (true :: flagLines (scanLine .code first) more) := rfl

/-- A line that starts inside a text block is written as it is. -/
theorem laidLines_raw {depth index : Nat} {ls : List Text}
    (raw : (flagLines .code ls)[index]? = some true) :
    (laidLines depth ls)[index]? = ls[index]? := by
  cases ls with
  | nil => rfl
  | cons first more =>
      cases index with
      | zero => rfl
      | succ index =>
          rw [flagLines, List.getElem?_cons_succ, show Scan.code.enterLine = .code from rfl] at raw
          rw [laidLines, List.getElem?_cons_succ, List.getElem?_cons_succ, List.getElem?_zipWith,
            raw]
          cases more[index]? <;> rfl

namespace Tidy

variable {ls : List Text}

theorem map_trim_laidLines (depth : Nat) :
    (laidLines depth ls).map Text.trim = ls.map Text.trim := by
  cases ls with
  | nil => rfl
  | cons first more =>
      rw [laidLines_cons]
      exact map_trim_zipWith (trim_layLine depth) (by simp [length_flagLines])

theorem free_laidLines (tidy : Tidy ls) (depth : Nat) :
    ∀ line ∈ laidLines depth ls, '\n' ∉ line := by
  obtain ⟨c, line, more, rfl, -⟩ := tidy.starts
  rw [laidLines_cons]
  intro changed listed feed
  obtain ⟨line', listed', raw, rfl⟩ := mem_zipWith listed
  exact tidy.free line' listed' (mem_of_mem_layLine (by decide) feed)

theorem settled_laidLines (tidy : Tidy ls) (depth : Nat) :
    ∀ line ∈ laidLines depth ls, Text.dropReturn line = line := by
  obtain ⟨c, line, more, rfl, -⟩ := tidy.starts
  rw [laidLines_cons]
  intro changed listed
  obtain ⟨line', listed', raw, rfl⟩ := mem_zipWith listed
  exact settled_layLine (tidy.settled line' listed') depth raw

/-- The rows of tidy lines. -/
theorem renderAll_joinLines (tidy : Tidy ls) (depth : Nat) :
    Row.renderAll (Row.ofText depth (Text.joinLines ls)) =
      Row.indent depth ++ Text.unlines (laidLines depth ls) := by
  rw [renderAll_ofText, textBlockLines, tidy.lines_joined]
  obtain ⟨c, line, more, rfl, -⟩ := tidy.starts
  rw [flagLines, List.zipWith_cons_cons, laidLines, Text.unlines_cons, Text.unlines_cons,
    ← List.append_assoc]
  rfl

theorem firm_laidLines (tidy : Tidy ls) (depth : Nat) :
    Firm (Text.joinLines (laidLines depth ls)) := by
  refine Lexical.firm_of_sameLines (Lexical.sameLines_of_map_trim (map_trim_laidLines depth).symm)
    tidy.firm ?_
  have ends := Lexical.firm_last_line tidy.firm
  rw [tidy.lines_joined] at ends
  obtain ⟨c, line, more, rfl, -⟩ := tidy.starts
  rw [laidLines_cons]
  intro changed last
  obtain ⟨line', last', raw, rfl⟩ := mem_getLast?_zipWith (by simp [length_flagLines]) last
  exact firm_layLine (ends line' last') depth raw

/-- Without the blanks at their end the rows of tidy lines are the written lines. -/
theorem trimEnd_unlines (tidy : Tidy ls) (depth : Nat) :
    Text.trimEnd (Text.unlines (laidLines depth ls)) = Text.joinLines (laidLines depth ls) := by
  have firm := tidy.firm_laidLines depth
  obtain ⟨c, line, more, rfl, -⟩ := tidy.starts
  rw [laidLines] at firm ⊢
  rw [Lexical.unlines_eq_joinLines, Text.trimEnd_append Lexical.blank_feed,
    Text.trimEnd_of_firm firm]

theorem lines_laidLines (tidy : Tidy ls) (depth : Nat) :
    Text.lines (Text.joinLines (laidLines depth ls)) = laidLines depth ls := by
  refine Text.lines_joinLines (tidy.free_laidLines depth) (tidy.settled_laidLines depth)
    (Text.last_ne_nil (tidy.firm_laidLines depth) ?_)
  obtain ⟨c, line, more, rfl, -⟩ := tidy.starts
  intro empty
  have head := Lexical.head_joinLines c line
    (more.zipWith (layLine depth) (flagLines (scanLine .code (c :: line)) more))
  rw [← laidLines, empty] at head
  exact absurd head (by simp)

/-- Dedenting takes the depth off the rows of tidy lines. -/
theorem dedent_unlines (tidy : Tidy ls) (depth : Nat) :
    dedent (Text.unlines (laidLines depth ls)) (4 * depth) = Text.joinLines ls := by
  unfold dedent textBlockLines
  rw [tidy.trimEnd_unlines]
  dsimp only
  rw [tidy.lines_laidLines, flagLines_of_trim (map_trim_laidLines depth)]
  have trimmed := tidy.trimmed
  obtain ⟨c, line, more, rfl, -⟩ := tidy.starts
  rw [flagLines, List.zipWith_cons_cons, List.cons.injEq] at trimmed
  have first : Text.trimEnd (c :: line) = c :: line := trimmed.1
  have below : ((more.zipWith (layLine depth) (flagLines (scanLine .code (c :: line)) more)).zipWith
      (dedentLine (4 * depth)) (flagLines (scanLine .code (c :: line)) more)) = more := by
    rw [zipWith_zipWith]
    simp only [dedentLine_layLine]
    exact trimmed.2
  rw [flagLines, laidLines, dedentLines_cons, first]
  exact congrArg (fun later => Text.joinLines ((c :: line) :: later)) below

end Tidy

/-! ## Laying out and dedenting again -/

/-- A line that starts inside a text block is dedented to itself, and then written as it is. -/
theorem dedentLines_raw {ls : List Text} {index : Nat}
    (raw : (flagLines .code ls)[index]? = some true) (column depth : Nat) :
    (dedentLines column (ls.zip (flagLines .code ls)))[index]? = ls[index]? ∧
      (laidLines depth (dedentLines column (ls.zip (flagLines .code ls))))[index]? =
        ls[index]? := by
  have dedented : (dedentLines column (ls.zip (flagLines .code ls)))[index]? = ls[index]? := by
    cases ls with
    | nil => rfl
    | cons first more =>
        cases index with
        | zero => simp [flagLines] at raw
        | succ index =>
            rw [flagLines, List.getElem?_cons_succ] at raw
            rw [flagLines, dedentLines_cons, List.getElem?_cons_succ, List.getElem?_cons_succ,
              List.getElem?_zipWith, raw]
            cases more[index]? <;> rfl
  refine ⟨dedented, (laidLines_raw ?_).trans dedented⟩
  rw [flagLines_of_trim (map_trim_dedentLines column ls), raw]

/-- The lines of a text and of what trimming its end leaves: they differ in the last line that is
left, by blanks, and in blank lines behind it. -/
theorem lines_trimEnd {t : Text} (some : Text.trimEnd t ≠ []) {index : Nat} {line : Text}
    (listed : (Text.lines t)[index]? = Option.some line) :
    ((Text.lines (Text.trimEnd t)).length ≤ index → Blank line) ∧
      (index + 1 < (Text.lines (Text.trimEnd t)).length →
        (Text.lines (Text.trimEnd t))[index]? = Option.some line) ∧
      (index + 1 = (Text.lines (Text.trimEnd t)).length →
        (Text.lines (Text.trimEnd t))[index]? = Option.some (Text.trimEnd line)) ∧
      (index < (Text.lines (Text.trimEnd t)).length →
        (textBlockLines (Text.trimEnd t))[index]? = (textBlockLines t)[index]?) := by
  obtain ⟨tail, blank, shape⟩ := Text.trimEnd_append_blank t
  obtain ⟨init, last, pad, below, whole, firmLast, blankPad, blankBelow, longer⟩ :=
    Text.lines_append_blank some (Text.firm_trimEnd t) blank
  rw [← shape] at longer
  rw [longer] at listed
  unfold textBlockLines
  rw [whole, longer, List.length_append, List.length_singleton]
  refine ⟨fun beyond => ?_, fun inside => ?_, fun ends => ?_, fun inside => ?_⟩
  · rw [List.append_cons, List.getElem?_append_right (by simpa using beyond)] at listed
    exact blankBelow line (List.mem_of_getElem? listed)
  · rw [List.getElem?_append_left (by omega)] at listed ⊢
    exact listed
  · obtain rfl : index = init.length := by omega
    rw [List.getElem?_concat_length]
    rw [List.getElem?_append_right (Nat.le_refl _), Nat.sub_self, List.getElem?_cons_zero,
      Option.some.injEq] at listed
    rw [← listed, Text.trimEnd_append blankPad, Text.trimEnd_of_firm firmLast]
  · exact getElem?_flagLines .code init (by omega)

theorem not_infix_trimEnd {needle t : Text} (free : ¬needle <:+: t) :
    ¬needle <:+: Text.trimEnd t := by
  obtain ⟨tail, -, shape⟩ := Text.trimEnd_append_blank t
  rw [shape] at free
  exact fun found => free (found.trans (List.prefix_append _ _).isInfix)

/-- Dedenting undoes the layout. A fragment that starts with no blank, and in which no line ends
in two carriage returns, is dedented to some `n`. At every depth the rows of `n` are the
indentation of the first row and a text `g`, and dedenting `g` by that indentation gives `n` back.
A line that starts inside a text block stands in `n` and in `g` as it stands in the fragment; only
the blanks at the very end of the fragment are lost. -/
theorem dedent_reindented {t : Text} {c : Char} (head : t.head? = some c)
    (dark : Text.isBlank c = false) (single : ¬['\r', '\r', '\n'] <:+: t) (column depth : Nat) :
    ∃ n g, dedent t column = n ∧
      Row.renderAll (Row.ofText depth n) = Row.indent depth ++ g ∧
      dedent g (4 * depth) = n ∧
      ∀ index line, (Text.lines t)[index]? = some line →
        ((Text.lines n).length ≤ index → Blank line) ∧
          ((textBlockLines t)[index]? = some true →
            (index + 1 < (Text.lines n).length →
              (Text.lines n)[index]? = some line ∧ (Text.lines g)[index]? = some line) ∧
            (index + 1 = (Text.lines n).length →
              (Text.lines n)[index]? = some (Text.trimEnd line) ∧
                (Text.lines g)[index]? = some (Text.trimEnd line))) := by
  obtain ⟨rest, rfl⟩ := List.head?_eq_some_iff.mp head
  obtain ⟨kept, trimmed⟩ := Lexical.trimEnd_cons dark rest
  have firm := Text.firm_trimEnd (c :: rest)
  have single' := not_infix_trimEnd single
  have nonempty : Text.trimEnd (c :: rest) ≠ [] := by simp [trimmed]
  rw [trimmed] at firm single'
  have tidy := tidy_dedentLines dark firm single' column
  rw [← trimmed] at tidy
  refine ⟨_, _, rfl, tidy.renderAll_joinLines depth, tidy.dedent_unlines depth, ?_⟩
  intro index line listed
  obtain ⟨beyond, before, last, flags⟩ := lines_trimEnd nonempty listed
  have written := Text.lines_unlines (tidy.free_laidLines depth) (tidy.settled_laidLines depth)
  have length := length_dedentLines column (Text.lines (Text.trimEnd (c :: rest)))
  have joined : Text.lines (dedent (c :: rest) column) = _ := tidy.lines_joined
  rw [written, joined]
  unfold textBlockLines at flags ⊢
  rw [length]
  refine ⟨beyond, fun raw => ?_⟩
  have same := fun inside => dedentLines_raw ((flags inside).trans raw) column depth
  refine ⟨fun inside => ?_, fun ends => ?_⟩
  · rw [← before inside]
    exact same (by omega)
  · rw [← last ends]
    exact same (by omega)

/-- A call with a text block, lines of which end in blanks and in carriage returns, an empty line
and a line that is indented less than the others. -/
def wrappedCall : Text :=
  "f(\"\"\"\r\n      a  \r\n\t\"\"\", // b \r\n\r\n        c,\n  d);\t\n ".toList

theorem dedent_reindented_wrappedCall :
    wrappedCall.head? = some 'f' ∧ Text.isBlank 'f' = false ∧
      ¬['\r', '\r', '\n'] <:+: wrappedCall ∧
      (textBlockLines wrappedCall)[1]? = some true ∧
      ∃ n g, dedent wrappedCall 4 = n ∧
        Row.renderAll (Row.ofText 2 n) = Row.indent 2 ++ g ∧ dedent g 8 = n ∧
        (Text.lines n)[1]? = some "      a  ".toList ∧
        (Text.lines g)[1]? = some "      a  ".toList := by
  have single : ¬['\r', '\r', '\n'] <:+: wrappedCall := by decide +kernel
  have raw : (textBlockLines wrappedCall)[1]? = some true := by decide +kernel
  have inside : 2 < (Text.lines (dedent wrappedCall 4)).length := by decide +kernel
  obtain ⟨n, g, rfl, rows, dedented, kept⟩ :=
    @dedent_reindented wrappedCall 'f' rfl (by decide) single 4 2
  obtain ⟨-, within⟩ := kept 1 "      a  ".toList (by decide +kernel)
  obtain ⟨inner, written⟩ := (within raw).1 inside
  exact ⟨rfl, by decide, single, raw, _, g, rfl, rows, dedented, inner, written⟩

end Fragment

end Rethrow
