import Rethrow.Proofs.Lexical.Collapse
import Rethrow.Proofs.Lexical.LineStarts

/-!
# Line ends

A line may end in a line feed, or in a carriage return and a line feed. `unreturned` reads the
second as the first. Fragments are dedented and collapsed alike before and after that
(`dedent_unreturned`, `collapse_unreturned`), and the lexer leaves the same open.

So no rule of the library can tell a source from the same source with its line ends written the
other way (`returned_alike`).
-/

namespace Rethrow

namespace Text

/-- A text with each carriage return and line feed read as a line feed. -/
def unreturned : Text → Text
  | [] => []
  | '\r' :: '\n' :: rest => '\n' :: unreturned rest
  | c :: rest => c :: unreturned rest

/-- Every carriage return stands in front of a line feed. -/
def Paired (t : Text) : Prop :=
  ∀ before rest, t = before ++ '\r' :: rest → rest.head? = some '\n'

theorem unreturned_cons {c : Char} (other : c ≠ '\r') (rest : Text) :
    unreturned (c :: rest) = c :: unreturned rest := by
  rw [unreturned]
  exact fun _ same => absurd same other

theorem mem_of_mem_unreturned {t : Text} {c : Char} (found : c ∈ unreturned t) : c ∈ t := by
  fun_induction unreturned t with
  | case1 => exact found
  | case2 rest ih =>
      rcases List.mem_cons.mp found with rfl | later
      · simp
      · exact List.mem_cons_of_mem _ (List.mem_cons_of_mem _ (ih later))
  | case3 d rest _ ih =>
      rcases List.mem_cons.mp found with rfl | later
      · exact List.mem_cons_self
      · exact List.mem_cons_of_mem _ (ih later)

theorem getLast?_unreturned (t : Text) : (unreturned t).getLast? = t.getLast? := by
  fun_induction unreturned t with
  | case1 => rfl
  | case2 rest ih => rw [List.getLast?_cons, ih, List.getLast?_cons_cons, List.getLast?_cons]
  | case3 c rest _ ih => rw [List.getLast?_cons, ih, List.getLast?_cons]

/-- Two texts may be read apart unless a line end lies across the cut. -/
theorem unreturned_append {a b : Text} (apart : a.getLast? = some '\r' → b.head? ≠ some '\n') :
    unreturned (a ++ b) = unreturned a ++ unreturned b := by
  fun_induction unreturned a with
  | case1 => rfl
  | case2 rest ih =>
      have below := ih fun last =>
        apart (by rw [List.getLast?_cons_cons, List.getLast?_cons, last]; rfl)
      rw [List.cons_append, List.cons_append, unreturned, below, List.cons_append]
  | case3 c rest notEnd ih =>
      have below := ih fun last => apart (by rw [List.getLast?_cons, last]; rfl)
      rw [List.cons_append, unreturned, below, List.cons_append]
      rintro after rfl shape
      cases rest with
      | nil => exact apart rfl (by rw [show b = '\n' :: after from shape]; rfl)
      | cons d rest =>
          obtain ⟨rfl, -⟩ := List.cons.inj shape
          exact notEnd rest rfl rfl

theorem Paired.tail {c : Char} {rest : Text} (paired : Paired (c :: rest)) : Paired rest := by
  intro before behind shape
  exact paired (c :: before) behind (by rw [shape, List.cons_append])

/-- No carriage return is left if each one stands in front of a line feed. -/
theorem paired_iff {t : Text} : Paired t ↔ '\r' ∉ unreturned t := by
  constructor
  · intro paired
    fun_induction unreturned t with
    | case1 => simp
    | case2 rest ih => simpa using ih paired.tail.tail
    | case3 c rest notEnd ih =>
        have other : c ≠ '\r' := by
          rintro rfl
          obtain ⟨behind, rfl⟩ : ∃ behind, rest = '\n' :: behind :=
            List.head?_eq_some_iff.mp (paired [] rest rfl)
          exact notEnd behind rfl rfl
        simpa [Ne.symm other] using ih paired.tail
  · rintro plain before rest rfl
    rw [unreturned_append (by simp), List.mem_append, not_or] at plain
    cases rest with
    | nil => exact absurd plain.2 (by simp [unreturned])
    | cons c rest =>
        by_cases feed : c = '\n'
        · rw [feed]
          rfl
        · have kept : unreturned ('\r' :: c :: rest) = '\r' :: unreturned (c :: rest) := by
            rw [unreturned]
            exact fun _ _ shape => feed (List.cons.inj shape).1
          rw [kept] at plain
          exact absurd List.mem_cons_self plain.2

instance (t : Text) : Decidable (Paired t) :=
  decidable_of_iff _ paired_iff.symm

theorem unreturned_of_not_mem {line : Text} (free : '\n' ∉ line) : unreturned line = line := by
  fun_induction unreturned line with
  | case1 => rfl
  | case2 => simp at free
  | case3 c rest _ ih =>
      simp only [List.mem_cons, not_or] at free
      rw [ih free.2]

theorem unreturned_of_plain {t : Text} (plain : '\r' ∉ t) : unreturned t = t := by
  induction t with
  | nil => rfl
  | cons c rest ih =>
      simp only [List.mem_cons, not_or] at plain
      rw [unreturned_cons (Ne.symm plain.1), ih plain.2]

theorem unreturned_line {line : Text} (free : '\n' ∉ line) (rest : Text) :
    unreturned (line ++ '\n' :: rest) = dropReturn line ++ '\n' :: unreturned rest := by
  have feed : unreturned ('\n' :: rest) = '\n' :: unreturned rest :=
    unreturned_cons (by decide) rest
  rcases List.eq_nil_or_concat line with rfl | ⟨init, c, rfl⟩
  · exact feed
  · rw [List.concat_eq_append] at free ⊢
    have freeInit : '\n' ∉ init := fun found => free (List.mem_append_left _ found)
    rw [dropReturn_append (by simp)]
    by_cases returns : c = '\r'
    · subst returns
      rw [List.append_assoc, unreturned_append (by simp), unreturned_of_not_mem freeInit]
      simp [unreturned, dropReturn]
    · rw [unreturned_append (by simp [returns]), unreturned_of_not_mem free, feed]
      simp [dropReturn, returns]

/-- A text with a carriage return put in front of each line feed. -/
def returned (t : Text) : Text :=
  t.flatMap fun c => if c = '\n' then ['\r', '\n'] else [c]

theorem unreturned_returned {t : Text} (plain : '\r' ∉ t) : unreturned (returned t) = t := by
  induction t with
  | nil => rfl
  | cons c rest ih =>
      simp only [List.mem_cons, not_or] at plain
      rw [returned, List.flatMap_cons, ← returned]
      by_cases feed : c = '\n'
      · subst feed
        rw [if_pos rfl, List.cons_append, List.cons_append, List.nil_append, unreturned,
          ih plain.2]
      · rw [if_neg feed, List.singleton_append, unreturned_cons (Ne.symm plain.1), ih plain.2]

/-- Reading line ends alike keeps the lines. -/
theorem lines_unreturned {t : Text} (plain : '\r' ∉ unreturned t) :
    lines (unreturned t) = lines t := by
  induction t using byLines with
  | last line free => rw [unreturned_of_not_mem free]
  | more line rest free ih =>
      rw [unreturned_line free] at plain ⊢
      simp only [List.mem_append, List.mem_cons, not_or] at plain
      have kept : '\n' ∉ dropReturn line := fun feed => free (mem_of_mem_dropReturn feed)
      rw [lines_append kept, lines_append free, dropReturn_of_not_mem plain.1, ih plain.2.2]

theorem firm_unreturned {t : Text} (firm : Firm t) : Firm (unreturned t) := by
  intro c last
  rw [getLast?_unreturned] at last
  exact firm c last

theorem blank_unreturned {t : Text} (blank : Blank t) : Blank (unreturned t) :=
  fun c found => blank c (mem_of_mem_unreturned found)

theorem trimEnd_unreturned (t : Text) : trimEnd (unreturned t) = unreturned (trimEnd t) := by
  obtain ⟨tail, blank, shape⟩ := trimEnd_append_blank t
  have firm := firm_trimEnd t
  have apart : (trimEnd t).getLast? = some '\r' → tail.head? ≠ some '\n' := fun last =>
    absurd (firm '\r' last) (by decide)
  conv => lhs; rw [shape, unreturned_append apart]
  rw [trimEnd_append (blank_unreturned blank), trimEnd_of_firm (firm_unreturned firm)]

theorem trimStart_unreturned (t : Text) : trimStart (unreturned t) = unreturned (trimStart t) := by
  obtain ⟨lead, blank, shape⟩ := trimStart_append_blank t
  cases kept : trimStart t with
  | nil =>
      rw [kept, List.append_nil] at shape
      rw [shape]
      have vanishes := trimStart_append (blank_unreturned blank) []
      rwa [List.append_nil] at vanishes
  | cons c rest =>
      have dark : isBlank c = false := by
        have first := List.head?_dropWhile_not isBlank t
        rw [show t.dropWhile isBlank = trimStart t from rfl, kept] at first
        simpa using first
      have noFeed : c ≠ '\n' := by rintro rfl; exact absurd dark (by decide)
      have noReturn : c ≠ '\r' := by rintro rfl; exact absurd dark (by decide)
      rw [kept] at shape
      rw [shape, unreturned_append (by simp [noFeed]), trimStart_append (blank_unreturned blank),
        unreturned_cons noReturn, trimStart, List.dropWhile_cons_of_neg (by simp [dark])]

theorem trim_unreturned (t : Text) : trim (unreturned t) = unreturned (trim t) := by
  rw [trim, trimStart_unreturned, trimEnd_unreturned, trim]

end Text

namespace Lexical

open Fragment (Scan scanLine)

/-- The lexer leaves the same open, however lines end. -/
theorem after_unreturned (s : Scan) (t : Text) :
    after .line (start s) (Text.unreturned t) = after .line (start s) t := by
  induction t using Text.byLines generalizing s with
  | last line free => rw [Text.unreturned_of_not_mem free]
  | more line rest free ih =>
      have kept : '\n' ∉ Text.dropReturn line := fun feed => free (Text.mem_of_mem_dropReturn feed)
      rw [Text.unreturned_line free, (scan_line s kept _).2, (scan_line s free _).2,
        start_scanLine_dropReturn s free, ih]

end Lexical

namespace Fragment

/-- The line scanner flags the same lines, however they end. -/
theorem textBlockLines_unreturned {t : Text} (plain : '\r' ∉ Text.unreturned t) :
    textBlockLines (Text.unreturned t) = textBlockLines t := by
  rw [textBlockLines, Text.lines_unreturned plain, textBlockLines]

/-- A fragment is laid out alike, however its lines end. -/
theorem ofText_unreturned {t : Text} (plain : '\r' ∉ Text.unreturned t) (depth : Nat) :
    Row.ofText depth (Text.unreturned t) = Row.ofText depth t := by
  rw [Row.ofText, Text.lines_unreturned plain, textBlockLines_unreturned plain, Row.ofText]

/-- A fragment is dedented alike, however its lines end. -/
theorem dedent_unreturned {t : Text} (paired : Text.Paired t) (column : Nat) :
    dedent (Text.unreturned t) column = dedent t column := by
  have plain : '\r' ∉ Text.unreturned (Text.trimEnd t) := by
    rw [← Text.trimEnd_unreturned]
    exact fun found => Text.paired_iff.mp paired (Text.mem_of_mem_trimEnd found)
  unfold dedent textBlockLines
  rw [Text.trimEnd_unreturned]
  dsimp only
  rw [Text.lines_unreturned plain]

theorem startsWith_of_not_mem {needle : Text} (some : needle ≠ []) {c : Char} (other : c ∉ needle)
    (t : Text) : Text.startsWith (c :: t) needle = false := by
  obtain ⟨n, needle, rfl⟩ := List.exists_cons_of_ne_nil some
  simp only [List.mem_cons, not_or] at other
  simp [Text.startsWith, List.isPrefixOf_cons_cons, Ne.symm other.1]

/-- What is free of line ends is found alike, however lines end. -/
theorem startsWith_unreturned {needle : Text} (free : '\r' ∉ needle ∧ '\n' ∉ needle) (t : Text) :
    Text.startsWith (Text.unreturned t) needle = Text.startsWith t needle := by
  induction needle generalizing t with
  | nil => simp [Text.startsWith]
  | cons n needle ih =>
      fun_cases Text.unreturned t with
      | case1 => rfl
      | case2 rest =>
          rw [startsWith_of_not_mem (by simp) free.2, startsWith_of_not_mem (by simp) free.1]
      | case3 c rest _ =>
          simp only [List.mem_cons, not_or] at free
          have below := ih ⟨free.1.2, free.2.2⟩ rest
          unfold Text.startsWith at below ⊢
          rw [List.isPrefixOf_cons_cons, List.isPrefixOf_cons_cons, below]

theorem holds_unreturned {needle : Text} (free : '\r' ∉ needle ∧ '\n' ∉ needle)
    (some : needle ≠ []) (t : Text) :
    Text.holds needle (Text.unreturned t) = Text.holds needle t := by
  fun_induction Text.unreturned t with
  | case1 => rfl
  | case2 rest ih =>
      rw [Text.holds, Text.holds, Text.holds, startsWith_of_not_mem some free.2,
        startsWith_of_not_mem some free.1, startsWith_of_not_mem some free.2, ih]
      rfl
  | case3 c rest notEnd ih =>
      have kept : Text.unreturned (c :: rest) = c :: Text.unreturned rest := by
        rw [Text.unreturned]
        exact notEnd
      rw [Text.holds, Text.holds, ih, ← kept, startsWith_unreturned free]

/-- A run of blanks is closed alike, however lines end: the run read so far may have lost
carriage returns if it holds a line feed. -/
theorem collapseRuns_unreturned {run run' : Text} (same : run = run' ∨ '\n' ∈ run ∧ '\n' ∈ run')
    (t : Text) : collapseRuns run (Text.unreturned t) = collapseRuns run' t := by
  fun_induction Text.unreturned t generalizing run run' with
  | case1 => rfl
  | case2 rest ih =>
      rw [collapseRuns, if_pos (by decide), collapseRuns, if_pos (by decide), collapseRuns,
        if_pos (by decide)]
      exact ih (.inr ⟨by simp, by simp⟩)
  | case3 c rest _ ih =>
      have closed : closeRun run = closeRun run' := by
        rcases same with rfl | ⟨feed, feed'⟩
        · rfl
        · simp [closeRun, feed, feed']
      have below : collapseRuns [] (Text.unreturned rest) = collapseRuns [] rest := ih (.inl rfl)
      rw [collapseRuns, collapseRuns, closed, below]
      split
      · refine ih ?_
        rcases same with rfl | ⟨feed, feed'⟩
        · exact .inl rfl
        · exact .inr ⟨by simp [feed], by simp [feed']⟩
      · rfl

/-- A fragment is collapsed alike, however its lines end. -/
theorem collapse_unreturned {t : Text} (paired : Text.Paired t) :
    collapse (Text.unreturned t) = collapse t := by
  have plain : '\r' ∉ Text.unreturned (Text.trim t) := by
    rw [← Text.trim_unreturned]
    exact fun found => Text.paired_iff.mp paired (Text.mem_of_mem_trim found)
  unfold collapse trimmedLines
  rw [Text.trim_unreturned]
  dsimp only
  rw [holds_unreturned (by decide) (by decide), holds_unreturned (by decide) (by decide),
    dedent_unreturned (Text.paired_iff.mpr plain), Text.lines_unreturned plain,
    collapseRuns_unreturned (.inl rfl)]

/-! ## Both line ends -/

/-- The line ends of a source do not matter. A text without carriage returns and the text that has
one in front of each line feed have the same lines inside text blocks, are dedented and collapsed
to the same text from every column, and are laid out alike at every depth. -/
theorem returned_alike {t : Text} (plain : '\r' ∉ t) :
    textBlockLines (Text.returned t) = textBlockLines t ∧
      (∀ column, dedent (Text.returned t) column = dedent t column) ∧
      collapse (Text.returned t) = collapse t ∧
      ∀ depth, Row.renderAll (Row.ofText depth (Text.returned t)) =
        Row.renderAll (Row.ofText depth t) := by
  have same : Text.unreturned (Text.returned t) = t := Text.unreturned_returned plain
  have plain' : '\r' ∉ Text.unreturned (Text.returned t) := by rwa [same]
  have paired : Text.Paired (Text.returned t) := Text.paired_iff.mpr plain'
  refine ⟨?_, fun column => ?_, ?_, fun depth => ?_⟩
  · rw [← textBlockLines_unreturned plain', same]
  · rw [← dedent_unreturned paired, same]
  · rw [← collapse_unreturned paired, same]
  · rw [← ofText_unreturned plain', same]

/-- A call over several lines: a text block with an escaped line end and a blank line, a string
that is given up at the end of its line behind a backslash, and blanks at the end. -/
def brokenCall : Text :=
  "f(\"\"\"\n  a \\\n\n\"\"\", \"b\\\n   // c\n\t d)\n \n".toList

theorem returned_alike_brokenCall :
    '\r' ∉ brokenCall ∧ '\r' ∈ Text.returned brokenCall ∧
      textBlockLines (Text.returned brokenCall) = [false, true, true, true, false, false, false] ∧
      dedent (Text.returned brokenCall) 2 =
        "f(\"\"\"\n  a \\\n\n\"\"\", \"b\\\n // c\nd)".toList ∧
      collapse (Text.returned brokenCall) = collapse brokenCall ∧
      Row.renderAll (Row.ofText 1 (Text.returned brokenCall)) =
        Row.renderAll (Row.ofText 1 brokenCall) := by
  have plain : '\r' ∉ brokenCall := by decide +kernel
  obtain ⟨flags, dedented, collapsed, laid⟩ := returned_alike plain
  refine ⟨plain, by decide +kernel, ?_, ?_, collapsed, laid 1⟩
  · rw [flags]
    decide +kernel
  · rw [dedented]
    decide +kernel

end Fragment

end Rethrow
