import Rethrow.Proofs.Lexical.Dedent

/-!
# Comments of collapsed fragments

Collapsing replaces each run of blanks that holds a line feed by one space, unless the
fragment holds a line comment or a text block. Outside line comments runs of blanks are
read alike, so a fragment keeps its comments and what it leaves open.
-/

namespace Rethrow.Lexical

open Text (Blank Firm)

/-! ## Runs of blanks -/

/-- A text without blanks. -/
def Dark (t : Text) : Prop :=
  ∀ c ∈ t, Text.isBlank c = false

/-- Texts of the same words with runs of blanks between them that are shown alike. -/
inductive SameRuns : Text → Text → Prop where
  | word {word : Text} (dark : Dark word) : SameRuns word word
  | cons {word run run' rest rest' : Text} (dark : Dark word) (some : word ≠ [])
      (blank : Blank run) (blank' : Blank run') (some' : run ≠ []) (some'' : run' ≠ [])
      (shown : Fragment.closeRun run = Fragment.closeRun run') (below : SameRuns rest rest') :
      SameRuns (word ++ (run ++ rest)) (word ++ (run' ++ rest'))

theorem closeRun_closeRun (run : Text) :
    Fragment.closeRun (Fragment.closeRun run) = Fragment.closeRun run := by
  unfold Fragment.closeRun
  split
  · rfl
  · rfl

theorem blank_closeRun {run : Text} (blank : Blank run) : Blank (Fragment.closeRun run) := by
  unfold Fragment.closeRun
  split
  · simp [Blank, show Text.isBlank ' ' = true by decide]
  · exact blank

theorem closeRun_ne_nil {run : Text} (some : run ≠ []) : Fragment.closeRun run ≠ [] := by
  unfold Fragment.closeRun
  split
  · simp
  · exact some

theorem Dark.append {a b : Text} (dark : Dark a) (dark' : Dark b) : Dark (a ++ b) := by
  intro c found
  rcases List.mem_append.mp found with left | right
  · exact dark c left
  · exact dark' c right

theorem dark_singleton {c : Char} (dark : Text.isBlank c = false) : Dark [c] := by
  simpa [Dark] using dark

theorem Firm.of_append {a b : Text} (firm : Firm (a ++ b)) : Firm b := by
  intro c last
  exact firm c (by rw [List.getLast?_append, last]; rfl)

/-- Collapsing keeps the words. The word and the run in front of the text are generalised,
so that the text is read from the left. -/
theorem sameRuns_collapseRuns {t word run : Text} (dark : Dark word) (some : word ≠ [])
    (blank : Blank run) (firm : Firm (run ++ t)) :
    SameRuns (word ++ (run ++ t)) (word ++ Fragment.collapseRuns run t) := by
  induction t generalizing word run with
  | nil =>
      rw [List.append_nil] at firm
      rw [Text.eq_nil_of_blank_of_firm blank firm]
      simpa [Fragment.collapseRuns] using SameRuns.word dark
  | cons c t ih =>
      rw [Fragment.collapseRuns]
      split
      · rename_i isBlank
        have longer : Blank (run ++ [c]) :=
          Text.blank_append.mpr ⟨blank, by simpa [Blank] using isBlank⟩
        have below := ih dark some longer (by simpa using firm)
        simpa using below
      · rename_i isDark
        have single := dark_singleton (by simpa using isDark : Text.isBlank c = false)
        have rest : Firm ([] ++ t) := Firm.of_append (a := run ++ [c]) (by simpa using firm)
        by_cases empty : run = []
        · subst empty
          have below := ih (dark.append single) (by simp) Text.blank_nil rest
          simpa [Fragment.closeRun] using below
        · have below := ih single (by simp) Text.blank_nil rest
          exact .cons dark some blank (blank_closeRun blank) empty (closeRun_ne_nil empty)
            (closeRun_closeRun run).symm below

/-- The cut in front of a run of blanks. -/
theorem scan_run {state : State} {word run rest : Text} (blank : Blank run) (some : run ≠ []) :
    scan .text state (word ++ (run ++ rest)) =
        scan .text state word ++ scan .text (after .text state word) (run ++ rest) ∧
      after .text state (word ++ (run ++ rest)) =
        after .text (after .text state word) (run ++ rest) := by
  cases run with
  | nil => exact absurd rfl some
  | cons c run =>
      exact scan_append_cons (blank_cases (blank c List.mem_cons_self)).1 .text state word _

theorem take_outside {state : State} (entered : state ≠ .lineComment)
    (outside : state ≠ .blockComment) (c : Char) (note : Option Note) :
    notes.take note (c, (blankStep state c).1) = (notes.flush note, none) := by
  cases state <;> simp_all [blankStep, notes]

/-- Outside line comments all runs of blanks are read alike: only an open comment takes
them in. -/
theorem complete_run {state : State} (entered : state ≠ .lineComment) {run : Text}
    (blank : Blank run) (some : run ≠ []) (note : Option Note) (rest : Text) :
    notes.complete note (scan .text state (run ++ rest)) =
        (if state = .blockComment then
          notes.complete (note.map (·.pushRun run)) (scan .text .blockComment rest)
        else notes.flush note ++ notes.complete none (scan .text (state.fed .text) rest)) ∧
      after .text state (run ++ rest) = after .text (state.fed .text) rest := by
  cases run with
  | nil => exact absurd rfl some
  | cons c run =>
      simp only [Blank, List.forall_mem_cons] at blank
      obtain ⟨scanned, ended⟩ := scan_blank blank.1 state (run ++ rest)
      have stepped : (blankStep state c).2 = state.fed .text := by
        cases state <;> simp_all [blankStep, State.fed]
      rw [List.cons_append, scanned, ended, stepped, Grouping.complete_cons]
      by_cases block : state = .blockComment
      · subst block
        have led := @complete_lead .blockComment rfl (note.map (·.pushRun [c])) (by simp) run
          blank.2 rest
        rw [if_pos rfl]
        refine ⟨?_, led.2⟩
        have taken : notes.take note (c, (blankStep .blockComment c).1) =
            ([], note.map (·.pushRun [c])) := by
          cases note <;> simp [blankStep, notes, Note.push, Note.pushRun, blank.1]
        rw [taken]
        refine led.1.trans ?_
        cases note <;> simp [Note.pushRun]
      · have led := @complete_lead (state.fed .text) (fed_fed state) none (fun _ => rfl) run
          blank.2 rest
        rw [if_neg block]
        refine ⟨?_, led.2⟩
        rw [take_outside entered block, led.1]
        rfl

/-- Behind a character that is not blank no run is pending. -/
theorem run_carried {state : State} {word : Text} (dark : Dark word) (some : word ≠ [])
    (note : Option Note) : ∀ n ∈ notes.carried note (scan .text state word), n.run = [] := by
  have chars := scan_fst .text state word
  rcases List.eq_nil_or_concat (scan .text state word) with empty | ⟨init, x, shape⟩
  · rw [empty] at chars
    exact absurd chars.symm some
  · rw [shape, List.concat_eq_append] at chars ⊢
    have isDark : Text.isBlank x.1 = false := dark x.1 (by rw [← chars]; simp)
    rw [Grouping.carried, List.foldl_append, List.foldl_cons, List.foldl_nil]
    obtain ⟨c, mark⟩ := x
    intro n found
    generalize List.foldl _ note init = pending at found
    cases mark <;> cases pending <;> simp_all [notes, Note.push]
    all_goals rw [← found]

theorem shown_pushRun {note : Option Note} (settled : ∀ n ∈ note, n.run = []) {run run' : Text}
    (shown : Fragment.closeRun run = Fragment.closeRun run') :
    (note.map (·.pushRun run)).map Note.shown = (note.map (·.pushRun run')).map Note.shown := by
  cases note with
  | none => rfl
  | some n => simp [Note.pushRun, Note.shown, settled n rfl, shown]

theorem complete_of_shown {note other : Option Note}
    (alike : note.map Note.shown = other.map Note.shown) {word : Text} (dark : Dark word)
    (state : State) :
    notes.complete note (scan .text state word) = notes.complete other (scan .text state word) := by
  cases word with
  | nil =>
      cases note <;> cases other <;> simp_all [scan, notes, Note.shown]
  | cons c word =>
      obtain ⟨emitted, carried⟩ := settle_of_shown alike (dark c List.mem_cons_self) state word
      rw [Grouping.complete, emitted, carried, Grouping.complete]

theorem free_of_infix {needle t part : Text} (free : Text.holds needle t = false)
    (inside : part <:+: t) : Text.holds needle part = false := by
  rw [Bool.eq_false_iff, Ne, holds_iff] at free ⊢
  exact fun found => free (found.trans inside)

/-- Texts of the same words are read alike if they hold no line comment. -/
theorem complete_sameRuns {t t' : Text} (same : SameRuns t t')
    (free : Text.holds "//".toList t = false) {state : State} (entered : state ≠ .lineComment)
    {note other : Option Note} (alike : note.map Note.shown = other.map Note.shown) :
    notes.complete note (scan .text state t) = notes.complete other (scan .text state t') ∧
      after .text state t = after .text state t' := by
  induction same generalizing state note other with
  | word dark => exact ⟨complete_of_shown alike dark state, rfl⟩
  | @cons word run run' rest rest' dark some blank blank' nonempty nonempty' shown below ih =>
      have freeWord := free_of_infix free (List.prefix_append word _).isInfix
      have freeRest : Text.holds "//".toList rest = false :=
        free_of_infix free ⟨word ++ run, [], by simp⟩
      have outside : after .text state word ≠ .lineComment := fun ended => by
        rw [holds_of_after entered ended] at freeWord
        exact absurd freeWord (by simp)
      obtain ⟨c, word', rfl⟩ := List.exists_cons_of_ne_nil some
      obtain ⟨emitted, carried⟩ := settle_of_shown alike (dark c List.mem_cons_self) state word'
      obtain ⟨scanned, ended⟩ := @scan_run state (c :: word') _ rest blank nonempty
      obtain ⟨scanned', ended'⟩ := @scan_run state (c :: word') _ rest' blank' nonempty'
      have settled := @run_carried state _ dark some other
      rw [scanned, scanned', ended, ended', Grouping.complete_append, Grouping.complete_append,
        emitted, carried]
      generalize notes.carried other (scan .text state (c :: word')) = pending at settled ⊢
      obtain ⟨completed, left⟩ := complete_run outside blank nonempty pending rest
      obtain ⟨completed', left'⟩ := complete_run outside blank' nonempty' pending rest'
      rw [completed, completed', left, left']
      have behind := fed_ne_lineComment .text (after .text state (c :: word'))
      have outer := @ih freeRest _ behind none none rfl
      refine ⟨?_, outer.2⟩
      split
      · rw [(ih freeRest (by simp) (shown_pushRun settled shown)).1]
      · rw [outer.1]

theorem trim_trim (t : Text) : Text.trim (Text.trim t) = Text.trim t := by
  obtain ⟨lead, tail, leadBlank, tailBlank, shape⟩ := Text.trim_append_blanks t
  conv => rhs; rw [shape]
  rw [Text.trim_append_tail tailBlank, Text.trim_append leadBlank]

theorem sameLines_trimmedLines (t : Text) : SameLines (Text.lines t) (Fragment.trimmedLines t) := by
  unfold Fragment.trimmedLines
  induction Text.lines t with
  | nil => exact .nil
  | cons line more ih =>
      rw [List.map_cons, List.filter_cons]
      split
      · exact .cons (trim_trim line).symm ih
      · rename_i empty
        exact .skip (by simpa using empty) ih

theorem firm_trimmedLines (t : Text) : ∀ line ∈ (Fragment.trimmedLines t).getLast?, Firm line := by
  intro line last
  have listed := List.mem_of_getLast? last
  simp only [Fragment.trimmedLines, List.mem_filter, List.mem_map] at listed
  obtain ⟨⟨whole, -, rfl⟩, -⟩ := listed
  exact Text.firm_trim whole

/-- Collapsing line breaks keeps the comments of a fragment and, blanks at its ends apart,
what it leaves open. -/
theorem comments_collapse (t : Text) :
    comments (Fragment.collapse t) = comments t ∧
      after .text .code (Fragment.collapse t) = after .text .code (Text.trim t) := by
  have trimmed : comments (Text.trim t) = comments t := by
    obtain ⟨lead, tail, leadBlank, tailBlank, shape⟩ := Text.trim_append_blanks t
    conv => rhs; rw [shape]
    rw [comments_append_blank _ tailBlank, (comments_blank_append leadBlank _).1]
  have firm := Text.firm_trim t
  rw [← trimmed]
  unfold Fragment.collapse
  dsimp only
  split
  · have dedented := comments_dedent (Text.trim t) 0
    rwa [Text.trimEnd_of_firm firm] at dedented
  · split
    · have same := sameLines_trimmedLines (Text.trim t)
      exact ⟨comments_of_sameLines same, after_of_sameLines firm same (firm_trimmedLines _)⟩
    · rename_i noComment
      cases shape : Text.trim t with
      | nil => exact ⟨rfl, rfl⟩
      | cons c rest =>
          rw [shape] at firm noComment
          have isDark := Text.head_trim shape
          have same := sameRuns_collapseRuns (dark_singleton isDark) (by simp) Text.blank_nil
            (Firm.of_append (a := [c]) firm : Firm ([] ++ rest))
          have alike := @complete_sameRuns _ _ same (by simpa using noComment) .code (by simp) none
            none rfl
          have collapsed : Fragment.collapseRuns [] (c :: rest) =
              [c] ++ Fragment.collapseRuns [] rest := by
            simp [Fragment.collapseRuns, isDark, Fragment.closeRun]
          rw [collapsed]
          exact ⟨alike.1.symm, alike.2.symm⟩

/-! ## The ends of a collapsed fragment -/

theorem after_trim (t : Text) :
    after .text .code (Text.trim t) = after .text .code (Text.trimEnd t) := by
  have firm := Text.firm_trimEnd t
  rw [after_of_firm rfl firm, trim_trimEnd]

theorem loose_collapse {t : Text} (loose : Loose .text t) : Loose .text (Fragment.collapse t) := by
  rw [Loose, (comments_collapse t).2, after_trim]
  exact loose_trimEnd loose

theorem closed_collapse {t : Text} (closed : Closed .text t) (firm : Firm t) :
    Closed .text (Fragment.collapse t) := by
  rw [Closed, (comments_collapse t).2, ← after_of_firm rfl firm]
  exact closed

theorem trim_cons {c : Char} (dark : Text.isBlank c = false) (rest : Text) :
    Text.trim (c :: rest) = Text.trimEnd (c :: rest) := by
  rw [Text.trim, Text.trimStart, List.dropWhile_cons_of_neg (by simp [dark])]

/-- A fragment keeps the sign it starts with when it is collapsed. -/
theorem head_collapse {c : Char} (dark : Text.isBlank c = false) (rest : Text) :
    (Fragment.collapse (c :: rest)).head? = some c := by
  obtain ⟨kept, trimmed⟩ := trimEnd_cons dark rest
  unfold Fragment.collapse
  rw [trim_cons dark, trimmed]
  dsimp only
  split
  · exact head_dedent dark kept 0
  · split
    · obtain ⟨line, more, shape⟩ := lines_cons dark kept
      obtain ⟨kept', trimmed'⟩ := trimEnd_cons dark line
      unfold Fragment.trimmedLines
      rw [shape, List.map_cons, trim_cons dark, trimmed']
      exact head_joinLines c kept' _
    · simp [Fragment.collapseRuns, dark, Fragment.closeRun]

end Rethrow.Lexical
