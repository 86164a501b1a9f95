import Rethrow.Proofs.Lexical.Significant

/-!
# Normalised fragments

Fragments are dedented where they keep their lines and collapsed where they should stand on one
line. Neither changes more than their layout (`significant_normalised`): whichever way
`collapse` goes, by the signs it finds in comments and literals too, the significant text stays.
-/

namespace Rethrow

namespace Fragment

open Lexical (Reflow)

/-! ## Dedented lines -/

/-- A change of blanks at the ends of lines that leaves the lines of text blocks alone. -/
theorem reflow_zipWith {change : Text → Bool → Text} (raw : ∀ line, change line true = line)
    (trim : ∀ line raw, Text.trim (change line raw) = Text.trim line) (s : Scan)
    (ls : List Text) : Reflow s ls (ls.zipWith change (flagLines s ls)) := by
  induction ls generalizing s with
  | nil => exact .nil
  | cons line more ih =>
      rw [flagLines, List.zipWith_cons_cons]
      by_cases inside : s = .textBlock
      · subst inside
        rw [decide_eq_true rfl, raw]
        exact .raw (ih _)
      · exact .trim inside (trim line _).symm (ih _)

theorem reflow_dedentLines (column : Nat) (ls : List Text) :
    Reflow .code ls (dedentLines column (ls.zip (flagLines .code ls))) := by
  cases ls with
  | nil => exact .nil
  | cons first more =>
      rw [flagLines, dedentLines_cons]
      exact .trim (by simp) (Lexical.trim_trimEnd first).symm
        (reflow_zipWith (fun _ => rfl) (Lexical.trim_dedentLine column) _ more)

theorem not_mem_dedentLines {d : Char} {ls : List Text} (free : ∀ line ∈ ls, d ∉ line)
    (column : Nat) : ∀ line ∈ dedentLines column (ls.zip (flagLines .code ls)), d ∉ line := by
  cases ls with
  | nil => simp [dedentLines]
  | cons first more =>
      rw [List.forall_mem_cons] at free
      rw [flagLines, dedentLines_cons, List.forall_mem_cons]
      refine ⟨fun found => free.1 (Text.mem_of_mem_trimEnd found), ?_⟩
      intro changed listed found
      obtain ⟨line, listed', raw, rfl⟩ := mem_zipWith listed
      exact free.2 line listed' (mem_of_mem_dedentLine found)

theorem not_mem_joinLines {d : Char} (other : d ≠ '\n') {ls : List Text}
    (free : ∀ line ∈ ls, d ∉ line) : d ∉ Text.joinLines ls := by
  induction ls with
  | nil => simp [Text.joinLines, Text.joinWith]
  | cons line more ih =>
      rw [List.forall_mem_cons] at free
      cases more with
      | nil => simpa using free.1
      | cons next more =>
          rw [Lexical.joinLines_cons_cons]
          simp [free.1, other, ih free.2]

theorem return_not_mem_dedent {t : Text} (plain : '\r' ∉ t) (column : Nat) :
    '\r' ∉ dedent t column :=
  not_mem_joinLines (by decide) (not_mem_dedentLines (fun _ isLine found =>
    plain (Text.mem_of_mem_trimEnd (Text.mem_of_mem_lines isLine found))) column)

/-! ## Trimmed lines -/

/-- Only three quotes open a text block. -/
theorem holds_of_scanLine {s : Scan} {line : Text} (outside : s ≠ .textBlock)
    (opened : scanLine s line = .textBlock) : Text.holds "\"\"\"".toList line = true := by
  fun_induction scanLine s line with
  | case1 => exact absurd opened outside
  | case2 rest => rfl
  | case3 => exact absurd opened (by simp)
  | case10 | case11 | case12 => exact absurd rfl outside
  | case4 rest ih | case7 _ _ rest ih | case13 rest ih =>
      exact Lexical.holds_cons (Lexical.holds_cons (ih (by simp) opened) _) _
  | case5 _ _ _ _ _ _ ih | case6 _ _ _ _ _ _ ih | case8 _ _ _ _ _ ih | case9 _ _ _ _ _ ih
  | case14 _ _ _ ih =>
      exact Lexical.holds_cons (ih (by simp) opened) _

theorem reflow_trimmedLines {s : Scan} {ls : List Text} (outside : s ≠ .textBlock)
    (free : ∀ line ∈ ls, Text.holds "\"\"\"".toList line = false) :
    Reflow s ls ((ls.map Text.trim).filter fun line => !line.isEmpty) := by
  induction ls generalizing s with
  | nil => exact .nil
  | cons line more ih =>
      rw [List.forall_mem_cons] at free
      have entered : s.enterLine ≠ .textBlock := by cases s <;> simp_all [Scan.enterLine]
      have below := @ih (scanLine s.enterLine line) (fun opened => by
        rw [holds_of_scanLine entered opened] at free
        exact absurd free.1 (by simp)) free.2
      rw [List.map_cons, List.filter_cons]
      split
      · exact .trim outside (Lexical.trim_trim line).symm below
      · rename_i empty
        exact .skip outside (by simpa using empty) below

theorem not_mem_trimmedLines {d : Char} {t : Text} (free : ∀ line ∈ Text.lines t, d ∉ line) :
    ∀ line ∈ trimmedLines t, d ∉ line := by
  intro line listed found
  simp only [trimmedLines, List.mem_filter, List.mem_map] at listed
  obtain ⟨⟨whole, isLine, rfl⟩, -⟩ := listed
  exact free whole isLine (Text.mem_of_mem_trim found)

theorem infix_of_mem_lines {t line : Text} (listed : line ∈ Text.lines t) : line <:+: t := by
  induction t using Text.byLines with
  | last whole free =>
      rw [Text.lines_of_not_mem free] at listed
      split at listed
      · simp at listed
      · obtain rfl := List.mem_singleton.mp listed
        exact List.infix_refl line
  | more first rest free ih =>
      rw [Text.lines_append free] at listed
      rcases List.mem_cons.mp listed with rfl | later
      · rcases Text.dropReturn_cases first with same | returns
        · rw [same]
          exact (List.prefix_append _ _).isInfix
        · refine ⟨[], '\r' :: '\n' :: rest, ?_⟩
          conv => rhs; rw [returns]
          simp
      · exact (ih later).trans ⟨first ++ ['\n'], [], by simp⟩

/-! ## Collapsed runs -/

/-- Collapsing adds spaces only, and leaves no line feed. -/
theorem mem_collapseRuns {d : Char} {run t : Text} (found : d ∈ collapseRuns run t) :
    d = ' ' ∨ d ≠ '\n' ∧ (d ∈ run ∨ d ∈ t) := by
  induction t generalizing run with
  | nil => simp [collapseRuns] at found
  | cons c t ih =>
      rw [collapseRuns] at found
      split at found
      · have below := ih found
        simpa [or_assoc] using below
      · rename_i dark
        rcases List.mem_append.mp found with inRun | here
        · unfold closeRun at inRun
          split at inRun
          · exact .inl (List.mem_singleton.mp inRun)
          · rename_i unbroken
            refine .inr ⟨?_, .inl inRun⟩
            rintro rfl
            exact unbroken (by simpa using inRun)
        · rcases List.mem_cons.mp here with rfl | later
          · refine .inr ⟨?_, .inr List.mem_cons_self⟩
            rintro rfl
            exact dark (by decide)
          · rcases ih later with space | ⟨noFeed, inside⟩
            · exact .inl space
            · exact .inr ⟨noFeed, .inr (List.mem_cons_of_mem _ (by simpa using inside))⟩

theorem return_not_mem_collapse {t : Text} (plain : '\r' ∉ t) : '\r' ∉ collapse t := by
  have trimmed : '\r' ∉ Text.trim t := fun found => plain (Text.mem_of_mem_trim found)
  unfold collapse
  dsimp only
  split
  · exact return_not_mem_dedent trimmed 0
  · split
    · exact not_mem_joinLines (by decide) (not_mem_trimmedLines fun _ isLine found =>
        trimmed (Text.mem_of_mem_lines isLine found))
    · intro found
      rcases mem_collapseRuns found with space | ⟨-, inside⟩
      · exact absurd space (by decide)
      · exact trimmed (by simpa using inside)

end Fragment

namespace Lexical

open Text (Blank Firm)

/-! ## Runs of blanks -/

/-- Inside a text block. -/
def State.inBlock : State → Bool
  | .textBlock => true
  | .blockEscaped => true
  | _ => false

/-- Only three quotes open a text block. -/
theorem holds_of_inBlock {reach : Reach} {state : State} {t : Text}
    (entered : state.inBlock = false) (ended : (after reach state t).inBlock = true) :
    Text.holds "\"\"\"".toList t = true := by
  fun_induction after reach state t with
  | case1 => rw [entered] at ended; exact absurd ended (by simp)
  | case2 rest => rfl
  | case17 | case18 | case19 | case20 => exact absurd entered (by simp [State.inBlock])
  | case12 quote rest ih | case15 quote rest ih =>
      refine holds_cons (ih ?_ ended) '\n'
      cases reach <;> rfl
  | case14 quote c rest _ _ ih =>
      refine holds_cons (ih ?_ ended) c
      split <;> rfl
  | case3 rest ih | case4 rest ih | case10 rest ih =>
      exact holds_cons (holds_cons (ih rfl ended) _) _
  | _ => exact holds_cons (by simp_all [State.inBlock]) _

/-- The states that a text without line comments and text blocks can be in. -/
structure Inline (state : State) : Prop where
  entered : state ≠ .lineComment
  outside : state.inBlock = false

theorem Inline.after_word {state : State} (inline : Inline state) {word : Text}
    (noComment : Text.holds "//".toList word = false)
    (noBlock : Text.holds "\"\"\"".toList word = false) : Inline (after .line state word) := by
  refine ⟨fun ended => ?_, ?_⟩
  · rw [holds_of_after inline.entered ended] at noComment
    exact absurd noComment (by simp)
  · cases opened : (after .line state word).inBlock with
    | false => rfl
    | true =>
        rw [holds_of_inBlock inline.outside opened] at noBlock
        exact absurd noBlock (by simp)

/-- What the blanks of a run are part of. -/
def runMark : State → Mark
  | .blockComment => .comment
  | .quoted _ => .inside
  | .escaped _ => .inside
  | _ => .code

/-- The state behind a run of blanks. -/
def behindRun : State → State
  | .escaped quote => .quoted quote
  | state => state

theorem Inline.behindRun {state : State} (inline : Inline state) :
    Inline (Lexical.behindRun state) := by
  obtain ⟨entered, outside⟩ := inline
  constructor <;> cases state <;> simp_all [Lexical.behindRun, State.inBlock]

theorem isQuoted_behindRun (state : State) : (behindRun state).isQuoted = state.isQuoted := by
  cases state <;> rfl

theorem scan_run_cons {state : State} (inline : Inline state) {c : Char}
    (blank : Text.isBlank c = true) (unbroken : state.isQuoted = true → c ≠ '\n') (t : Text) :
    scan .line state (c :: t) = (c, runMark state) :: scan .line (behindRun state) t ∧
      after .line state (c :: t) = after .line (behindRun state) t := by
  obtain ⟨entered, outside⟩ := inline
  by_cases feed : c = '\n'
  · subst feed
    cases state <;> simp_all [State.isQuoted, State.inBlock, scan, after, runMark, behindRun]
  · obtain ⟨scanned, ended⟩ := scan_blank_cons .line blank feed state t
    rw [scanned, ended]
    cases state <;> simp_all [State.inBlock, blankStep, runMark, behindRun]

/-- A run of blanks is scanned as one. -/
theorem scan_run_append {state : State} (inline : Inline state) {run : Text} (blank : Blank run)
    (some : run ≠ []) (unbroken : state.isQuoted = true → '\n' ∉ run) (t : Text) :
    scan .line state (run ++ t) = run.map (·, runMark state) ++ scan .line (behindRun state) t ∧
      after .line state (run ++ t) = after .line (behindRun state) t := by
  induction run generalizing state with
  | nil => exact absurd rfl some
  | cons c run ih =>
      simp only [Blank, List.forall_mem_cons] at blank
      simp only [List.mem_cons, not_or] at unbroken
      obtain ⟨scanned, ended⟩ := scan_run_cons inline blank.1
        (fun quoted => Ne.symm (unbroken quoted).1) (run ++ t)
      rw [List.cons_append, scanned, ended]
      by_cases empty : run = []
      · subst empty
        exact ⟨rfl, rfl⟩
      · have mark : runMark (behindRun state) = runMark state := by cases state <;> rfl
        have settled : behindRun (behindRun state) = behindRun state := by cases state <;> rfl
        obtain ⟨scanned', ended'⟩ := ih inline.behindRun blank.2 empty fun quoted =>
          (unbroken (by rwa [isQuoted_behindRun] at quoted)).2
        rw [scanned', ended', mark, settled]
        exact ⟨rfl, rfl⟩

/-- A run of blanks outside literals is a gap, whatever its blanks. -/
theorem complete_gap {mark : Mark} (gap : mark = .code ∨ mark = .comment) {run : Text}
    (blank : Blank run) (some : run ≠ []) (pending : Option Stretch) (rest : List (Char × Mark)) :
    stretches.complete pending (run.map (·, mark) ++ rest) =
      stretches.flush pending ++ stretches.complete none rest := by
  induction run generalizing pending with
  | nil => exact absurd rfl some
  | cons c run ih =>
      simp only [Blank, List.forall_mem_cons] at blank
      have taken : stretches.take pending (c, mark) = (stretches.flush pending, none) := by
        rcases gap with rfl | rfl
        · exact take_blank_code blank.1 pending
        · exact take_comment c pending
      rw [List.map_cons, List.cons_append, Grouping.complete_cons, taken]
      by_cases empty : run = []
      · subst empty
        rfl
      · rw [ih blank.2 empty, flush_none, List.nil_append]

theorem cut_run {state : State} {run : Text} (blank : Blank run) (some : run ≠ []) (word t : Text) :
    scan .line state (word ++ (run ++ t)) =
        scan .line state word ++ scan .line (after .line state word) (run ++ t) ∧
      after .line state (word ++ (run ++ t)) =
        after .line (after .line state word) (run ++ t) := by
  cases run with
  | nil => exact absurd rfl some
  | cons c run =>
      exact scan_append_cons (blank_cases (blank c List.mem_cons_self)).1 .line state word _

/-- Runs of blanks in a literal hold no line feed. -/
theorem Unbroken.run {state : State} {word run rest : Text} (blank : Blank run)
    (unbroken : Unbroken state (word ++ (run ++ rest)))
    (quoted : (after .line state word).isQuoted = true) : '\n' ∉ run := by
  intro found
  obtain ⟨lead, tail, rfl, first⟩ := List.eq_append_cons_of_mem found
  have outside := unbroken (word ++ lead) (tail ++ rest) (by simp)
  have blankLead : Blank lead := (Text.blank_append.mp blank).1
  by_cases empty : lead = []
  · rw [empty, List.append_nil, quoted] at outside
    exact absurd outside (by simp)
  · have ended := (@cut_run state _ blankLead empty word []).2
    rw [List.append_nil] at ended
    rw [ended] at outside
    generalize after .line state word = inner at quoted outside
    have inline : Inline inner := by
      constructor <;> cases inner <;> simp_all [State.inBlock, State.isQuoted]
    have left := (scan_run_append inline blankLead empty (fun _ => first) []).2
    rw [List.append_nil] at left
    rw [left, after, isQuoted_behindRun, quoted] at outside
    exact absurd outside (by simp)

/-- A run that is replaced by a run without a line feed is read alike: outside literals every run
is a gap, and inside a literal the run is kept. -/
theorem complete_run_append {state : State} (inline : Inline state) {run run' : Text}
    (blank : Blank run) (blank' : Blank run') (some : run ≠ []) (some' : run' ≠ [])
    (shown : Fragment.closeRun run = Fragment.closeRun run') (free : '\n' ∉ run')
    (unbroken : state.isQuoted = true → '\n' ∉ run) {a b : Text}
    (below : ∀ pending, stretches.complete pending (scan .line (behindRun state) a) =
      stretches.complete pending (scan .line (behindRun state) b)) (pending : Option Stretch) :
    stretches.complete pending (scan .line state (run ++ a)) =
      stretches.complete pending (scan .line state (run' ++ b)) := by
  rw [(scan_run_append inline blank some unbroken a).1,
    (scan_run_append inline blank' some' (fun _ => free) b).1]
  cases quoted : state.isQuoted with
  | true =>
      have same : run = run' := by
        have kept := unbroken quoted
        simpa [Fragment.closeRun, kept, free] using shown
      rw [same, Grouping.complete_append, Grouping.complete_append, below]
  | false =>
      have gap : runMark state = .code ∨ runMark state = .comment := by
        cases state <;> simp_all [runMark, State.isQuoted]
      rw [complete_gap gap blank some, complete_gap gap blank' some', below]

/-- Texts of the same words have the same significant text if they hold neither a line comment nor
a text block, no literal of the one holds a line break and the other has none at all. -/
theorem complete_words {t t' : Text} (same : SameRuns t t')
    (noComment : Text.holds "//".toList t = false)
    (noBlock : Text.holds "\"\"\"".toList t = false) (free : '\n' ∉ t') {state : State}
    (inline : Inline state) (unbroken : Unbroken state t) (pending : Option Stretch) :
    stretches.complete pending (scan .line state t) =
      stretches.complete pending (scan .line state t') := by
  induction same generalizing state pending with
  | word => rfl
  | @cons word run run' rest rest' dark some blank blank' nonempty nonempty' shown below ih =>
      have lead : word <:+: word ++ (run ++ rest) := (List.prefix_append word _).isInfix
      have tail : rest <:+: word ++ (run ++ rest) := ⟨word ++ run, [], by simp⟩
      have noCommentWord := free_of_infix noComment lead
      have noBlockWord := free_of_infix noBlock lead
      have noCommentRest := free_of_infix noComment tail
      have noBlockRest := free_of_infix noBlock tail
      have inside := inline.after_word noCommentWord noBlockWord
      simp only [List.mem_append, not_or] at free
      have unbrokenRun := fun quoted => unbroken.run blank quoted
      have unbrokenRest : Unbroken (behindRun (after .line state word)) rest := by
        rintro before behind rfl
        have above := unbroken (word ++ (run ++ before)) behind (by simp)
        rwa [(cut_run blank nonempty word before).2, (scan_run_append inside
          blank nonempty unbrokenRun before).2] at above
      have alike := ih noCommentRest noBlockRest free.2.2 inside.behindRun unbrokenRest
      rw [(cut_run blank nonempty word rest).1, (cut_run blank' nonempty' word rest').1,
        Grouping.complete_append, Grouping.complete_append,
        complete_run_append inside blank blank' nonempty nonempty' shown free.2.1 unbrokenRun alike]

/-! ## Fragments -/

/-- A fragment without carriage returns that can be read by itself. -/
structure Sound (t : Text) : Prop where
  plain : '\r' ∉ t
  loose : Loose .line t
  unbroken : Unbroken .code t

namespace Sound

variable {t : Text}

theorem left {a tail : Text} (blank : Blank tail) (sound : Sound (a ++ tail)) :
    Sound a ∧ stretches.complete none (scan .line .code (a ++ tail)) =
      stretches.complete none (scan .line .code a) := by
  have loose := loose_of_append_blank blank sound.unbroken sound.loose
  refine ⟨⟨fun found => sound.plain (List.mem_append_left _ found), loose, sound.unbroken.left⟩, ?_⟩
  exact complete_append_blank loose blank

theorem right {lead b : Text} (blank : Blank lead) (sound : Sound (lead ++ b)) :
    Sound b ∧ stretches.complete none (scan .line .code (lead ++ b)) =
      stretches.complete none (scan .line .code b) := by
  have skipped : ∀ t, stretches.complete none (scan .line .code (lead ++ t)) =
      stretches.complete none (scan .line .code t) ∧
        after .line .code (lead ++ t) = after .line .code t := fun t =>
    @complete_blank_append .code (by simp) lead blank t
  refine ⟨⟨fun found => sound.plain (List.mem_append_right _ found), ?_, ?_⟩, (skipped b).1⟩
  · have loose := sound.loose
    rwa [Loose, (skipped b).2] at loose
  · rintro before behind rfl
    have outside := sound.unbroken (lead ++ before) behind (by simp)
    rwa [(skipped before).2] at outside

theorem trim (sound : Sound t) :
    Sound (Text.trim t) ∧ stretches.complete none (scan .line .code (Text.trim t)) =
      stretches.complete none (scan .line .code t) := by
  obtain ⟨lead, tail, leadBlank, tailBlank, shape⟩ := Text.trim_append_blanks t
  rw [shape] at sound
  obtain ⟨soundLead, dropped⟩ := sound.left tailBlank
  obtain ⟨soundTrim, skipped⟩ := soundLead.right leadBlank
  refine ⟨soundTrim, ?_⟩
  conv => rhs; rw [shape]
  rw [dropped, skipped]

theorem dedent (sound : Sound t) (column : Nat) :
    stretches.complete none (scan .line .code (Fragment.dedent t column)) =
      stretches.complete none (scan .line .code t) := by
  obtain ⟨tail, blank, shape⟩ := Text.trimEnd_append_blank t
  rw [shape] at sound
  obtain ⟨soundEnd, dropped⟩ := sound.left blank
  conv => rhs; rw [shape, dropped]
  exact complete_joinLines soundEnd.plain soundEnd.loose soundEnd.unbroken
    (Fragment.reflow_dedentLines column _)
    (Fragment.not_mem_dedentLines (fun _ => Text.not_mem_of_mem_lines) column)

/-- Whichever way a fragment is collapsed, its significant text stays. -/
theorem collapse (sound : Sound t) :
    stretches.complete none (scan .line .code (Fragment.collapse t)) =
      stretches.complete none (scan .line .code t) := by
  obtain ⟨soundTrim, trimmed⟩ := sound.trim
  rw [← trimmed]
  unfold Fragment.collapse
  dsimp only
  split
  · exact soundTrim.dedent 0
  · rename_i noBlock
    rw [Bool.not_eq_true] at noBlock
    split
    · have noBlockLine : ∀ line ∈ Text.lines (Text.trim t),
          Text.holds "\"\"\"".toList line = false := fun line listed =>
        free_of_infix noBlock (Fragment.infix_of_mem_lines listed)
      exact complete_joinLines soundTrim.plain soundTrim.loose soundTrim.unbroken
        (Fragment.reflow_trimmedLines (by simp) noBlockLine)
        (Fragment.not_mem_trimmedLines fun _ => Text.not_mem_of_mem_lines)
    · rename_i noComment
      rw [Bool.not_eq_true] at noComment
      have firm := Text.firm_trim t
      cases shape : Text.trim t with
      | nil => rfl
      | cons c rest =>
          rw [shape] at firm noBlock noComment soundTrim
          have isDark := Text.head_trim shape
          have same := sameRuns_collapseRuns (dark_singleton isDark) (by simp) Text.blank_nil
            (@Firm.of_append [c] rest firm)
          have collapsed : Fragment.collapseRuns [] (c :: rest) =
              [c] ++ Fragment.collapseRuns [] rest := by
            simp [Fragment.collapseRuns, isDark, Fragment.closeRun]
          have free : '\n' ∉ Fragment.collapseRuns [] (c :: rest) := by
            intro found
            rcases Fragment.mem_collapseRuns found with space | ⟨noFeed, -⟩
            · exact absurd space (by decide)
            · exact noFeed rfl
          rw [collapsed] at free ⊢
          exact (complete_words same noComment noBlock free ⟨by simp, rfl⟩ soundTrim.unbroken
            none).symm

end Sound

/-- A fragment that can be read by itself can be read so however its lines end. -/
theorem sound_unreturned {t : Text} (paired : Text.Paired t) (loose : Loose .line t)
    (unbroken : Unbroken .code t) : Sound (Text.unreturned t) where
  plain := Text.paired_iff.mp paired
  loose := by
    rw [Loose, show State.code = start .code from rfl, after_unreturned]
    exact loose
  unbroken := @Unbroken.unreturned .code t unbroken

end Lexical

/-- Normalising a fragment changes its layout only. If every carriage return of a fragment stands
in front of a line feed, all its literals and block comments are closed and no string or character
literal holds a line break, then the fragment keeps its significant text when it is dedented by
any column, and when it is collapsed. -/
theorem Fragment.significant_normalised {t : Text} (paired : Text.Paired t)
    (loose : Lexical.Loose .line t) (unbroken : Lexical.Unbroken .code t) (column : Nat) :
    Lexical.significant (dedent t column) = Lexical.significant t ∧
      Lexical.significant (collapse t) = Lexical.significant t := by
  have sound := Lexical.sound_unreturned paired loose unbroken
  have dedented := return_not_mem_dedent sound.plain column
  have collapsed := return_not_mem_collapse sound.plain
  unfold Lexical.significant
  rw [dedent_unreturned paired] at dedented
  rw [collapse_unreturned paired] at collapsed
  rw [Text.unreturned_of_plain dedented, Text.unreturned_of_plain collapsed,
    ← dedent_unreturned paired, ← collapse_unreturned paired, sound.dedent column, sound.collapse]
  exact ⟨rfl, rfl⟩

/-- A call with a literal that looks like a line comment, a block comment over two lines and a text
block with blanks at the ends of its lines. -/
def Fragment.mixedCall : Text :=
  "f(\"a  // b\", /* c\r\n   */ '\"',\r\n\r\n      \"\"\" \t\r\n    d  \r\n  e\"\"\") // f  ".toList

theorem Fragment.significant_normalised_mixedCall :
    Text.Paired mixedCall ∧ Lexical.Loose .line mixedCall ∧ Lexical.Unbroken .code mixedCall ∧
      Lexical.significant (dedent mixedCall 4) = Lexical.significant mixedCall ∧
      Lexical.significant (collapse mixedCall) = Lexical.significant mixedCall ∧
      Lexical.significant mixedCall =
        "f(\"a  // b\", '\"', \"\"\"\n    d  \n  e\"\"\")".toList := by
  have paired : Text.Paired mixedCall := by decide +kernel
  have loose : Lexical.Loose .line mixedCall := by decide +kernel
  have unbroken : Lexical.Unbroken .code mixedCall := by decide +kernel
  obtain ⟨dedented, collapsed⟩ := significant_normalised paired loose unbroken 4
  exact ⟨paired, loose, unbroken, dedented, collapsed, by decide +kernel⟩

end Rethrow
