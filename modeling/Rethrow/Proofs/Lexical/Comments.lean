import Rethrow.Fragment.Collapse
import Rethrow.Proofs.Lexical.Rows
import Rethrow.Proofs.Text.Blanks

/-!
# Comments

The comments of a text are read off the marks of the lexer as tokens are. Comments are
compared up to the blanks at the start and end of their lines and up to line breaks that
were collapsed: a run of blanks that holds a line feed counts as one space, and blanks at
the end of a comment do not count.

`comments_sameLines` says that the comments of a text do not depend on the blanks at the
ends of its lines, nor on blank lines.
-/

namespace Rethrow.Lexical

open Text (Blank)

/-- A comment that is being read: its text up to its last character that is not blank, and
the blanks behind that. -/
structure Note where
  text : Text
  run : Text
  deriving DecidableEq, Repr

namespace Note

/-- Adds a character. -/
def push (n : Note) (c : Char) : Note :=
  if Text.isBlank c then { n with run := n.run ++ [c] }
  else { text := n.text ++ Fragment.closeRun n.run ++ [c], run := [] }

/-- Adds a run of blanks. -/
def pushRun (n : Note) (run : Text) : Note :=
  { n with run := n.run ++ run }

/-- What a note makes of the next character that is not blank. -/
def shown (n : Note) : Text × Text :=
  (n.text, Fragment.closeRun n.run)

end Note

/-- The grouping into comments. -/
def notes : Grouping (Option Note) Text where
  take note x :=
    match x.2 with
    | .remark => (note.toList.map Note.text, some { text := [x.1], run := [] })
    | .comment => ([], note.map (·.push x.1))
    | _ => (note.toList.map Note.text, none)
  flush note := note.toList.map Note.text

/-- The comments of a text. -/
def comments (t : Text) : List Text :=
  notes.complete none (scan .text .code t)

/-! ## Blanks -/

theorem blank_cases {c : Char} (blank : Text.isBlank c = true) :
    Clear c ∧ c ≠ '\'' ∧ c ≠ '\\' := by
  refine ⟨⟨?_, ?_, ?_⟩, ?_, ?_⟩ <;> · rintro rfl; revert blank; decide

/-- The mark of a blank and the state behind it. -/
def blankStep (state : State) (c : Char) : Mark × State :=
  match state with
  | .code => (.code, .code)
  | .lineComment => if c = '\n' then (.code, .code) else (.comment, .lineComment)
  | .blockComment => (.comment, .blockComment)
  | .quoted quote => (.inside, .quoted quote)
  | .escaped quote => (.inside, .quoted quote)
  | .textBlock => (.inside, .textBlock)
  | .blockEscaped => (.inside, .textBlock)

/-- No mark of a comment or literal starts with a blank. -/
theorem scan_blank {c : Char} (blank : Text.isBlank c = true) (state : State) (t : Text) :
    scan .text state (c :: t) = (c, (blankStep state c).1) :: scan .text (blankStep state c).2 t ∧
      after .text state (c :: t) = after .text (blankStep state c).2 t := by
  obtain ⟨⟨noDouble, noSlash, noStar⟩, noSingle, noBackslash⟩ := blank_cases blank
  by_cases feed : c = '\n'
  · subst feed
    cases state <;> simp [scan, after, blankStep]
  · cases state with
    | code => exact scan_code_cons ⟨noDouble, noSlash, noStar⟩ noSingle .text t
    | quoted quote =>
        have other : c ≠ quote.char := by cases quote <;> simp_all [Quote.char]
        simp [scan, after, blankStep, other]
    | lineComment | escaped | blockEscaped => simp [scan, after, blankStep, feed]
    | blockComment | textBlock => rw [scan, after] <;> simp_all [blankStep]

theorem blankStep_fed (state : State) (c : Char) :
    (blankStep state c).2.fed .text = state.fed .text := by
  cases state <;> simp only [blankStep] <;> (try split) <;> rfl

theorem blankStep_block (state : State) (c : Char) :
    (blankStep state c).2 = .blockComment ↔ state = .blockComment := by
  cases state <;> simp only [blankStep] <;> (try split) <;> simp

/-- A blank that opens no comment changes nothing of what is shown of a note. -/
theorem take_blank {c : Char} (blank : Text.isBlank c = true) {mark : Mark}
    (other : mark ≠ .remark) (note : Option Note) :
    (notes.take note (c, mark)).1 ++ notes.flush (notes.take note (c, mark)).2 =
      notes.flush note := by
  cases mark <;> cases note <;> simp_all [notes, Note.push]

theorem blankStep_ne_remark (state : State) (c : Char) : (blankStep state c).1 ≠ .remark := by
  cases state <;> simp only [blankStep] <;> (try split) <;> simp

/-- A run of blanks and a line feed end a line, whatever the run: only a block comment
goes on. -/
theorem complete_feed (state : State) (note : Option Note) {tail : Text} (blank : Blank tail)
    (rest : Text) :
    notes.complete note (scan .text state (tail ++ '\n' :: rest)) =
        (if state = .blockComment then
          notes.complete (note.map (·.pushRun (tail ++ ['\n']))) (scan .text .blockComment rest)
        else notes.flush note ++ notes.complete none (scan .text (state.fed .text) rest)) ∧
      after .text state (tail ++ '\n' :: rest) = after .text (state.fed .text) rest := by
  induction tail generalizing state note with
  | nil =>
      refine ⟨?_, after_feed .text state rest⟩
      cases state <;> cases note <;>
        simp [scan, State.fed, notes, Note.push, Note.pushRun,
          show Text.isBlank '\n' = true by decide]
  | cons c tail ih =>
      simp only [Blank, List.forall_mem_cons] at blank
      obtain ⟨scanned, ended⟩ := scan_blank blank.1 state (tail ++ '\n' :: rest)
      obtain ⟨ihComplete, ihAfter⟩ := ih (blankStep state c).2
        (notes.take note (c, (blankStep state c).1)).2 blank.2
      rw [List.cons_append, scanned, ended, ihAfter, blankStep_fed, Grouping.complete_cons,
        ihComplete]
      refine ⟨?_, rfl⟩
      by_cases block : state = .blockComment
      · subst block
        cases note <;> simp [blankStep, notes, Note.push, Note.pushRun, blank.1]
      · have fresh : (blankStep state c).2 ≠ .blockComment := by
          rwa [Ne, blankStep_block]
        rw [if_neg fresh, if_neg block, ← List.append_assoc,
          take_blank blank.1 (blankStep_ne_remark state c), blankStep_fed]

/-- Blanks at the start of a line only make the run of an open comment longer. -/
theorem complete_lead {state : State} (starts : state.fed .text = state) {note : Option Note}
    (ready : state ≠ .blockComment → note = none) {lead : Text} (blank : Blank lead) (t : Text) :
    notes.complete note (scan .text state (lead ++ t)) =
        notes.complete (note.map (·.pushRun lead)) (scan .text state t) ∧
      after .text state (lead ++ t) = after .text state t := by
  induction lead generalizing note with
  | nil => cases note <;> simp [Note.pushRun]
  | cons c lead ih =>
      simp only [Blank, List.forall_mem_cons] at blank
      obtain ⟨scanned, ended⟩ := scan_blank blank.1 state (lead ++ t)
      have stays : (blankStep state c).2 = state := by
        cases state <;> simp_all [blankStep, State.fed]
      have taken : notes.take note (c, (blankStep state c).1) = ([], note.map (·.pushRun [c])) := by
        cases state <;> cases note <;>
          simp_all [blankStep, State.fed, notes, Note.push, Note.pushRun]
      have ready' : state ≠ .blockComment → note.map (·.pushRun [c]) = none := by
        intro outside
        rw [ready outside]
        rfl
      obtain ⟨ihComplete, ihAfter⟩ := ih ready' blank.2
      rw [List.cons_append, scanned, ended, stays, Grouping.complete_cons, taken, ihComplete,
        ihAfter]
      refine ⟨?_, rfl⟩
      cases note <;> simp [Note.pushRun]

/-! ## Lines up to blanks -/

/-- An open comment whose last blanks hold a line feed. -/
def Broken (note : Option Note) : Prop :=
  ∀ n ∈ note, '\n' ∈ n.run

theorem shown_of_broken {note other : Option Note}
    (same : note.map Note.text = other.map Note.text) (broken : Broken note)
    (broken' : Broken other) : note.map Note.shown = other.map Note.shown := by
  cases note <;> cases other <;> simp_all [Broken, Note.shown, Fragment.closeRun]

theorem take_of_shown {note other : Option Note}
    (same : note.map Note.shown = other.map Note.shown) {c : Char}
    (dark : Text.isBlank c = false) (mark : Mark) :
    notes.take note (c, mark) = notes.take other (c, mark) := by
  cases note <;> cases other <;> simp_all [Note.shown]
  cases mark <;> simp_all [notes, Note.push]

/-- A character that is not blank settles the blanks in front of it. -/
theorem settle_of_shown {note other : Option Note}
    (same : note.map Note.shown = other.map Note.shown) {c : Char}
    (dark : Text.isBlank c = false) (state : State) (t : Text) :
    notes.emitted note (scan .text state (c :: t)) =
        notes.emitted other (scan .text state (c :: t)) ∧
      notes.carried note (scan .text state (c :: t)) =
        notes.carried other (scan .text state (c :: t)) := by
  have chars := scan_fst .text state (c :: t)
  cases shape : scan .text state (c :: t) with
  | nil => simp [shape] at chars
  | cons x rest =>
      rw [shape, List.map_cons, List.cons.injEq] at chars
      obtain ⟨rfl, -⟩ := chars
      have taken := take_of_shown same dark x.2
      simp only [Grouping.emitted, Grouping.carried, List.foldl_cons]
      rw [show x = (x.1, x.2) from rfl, taken]
      exact ⟨rfl, rfl⟩

/-- Lists of lines that differ only in blanks at the ends of lines and in blank lines. -/
inductive SameLines : List Text → List Text → Prop where
  | nil : SameLines [] []
  | cons {line other : Text} {more others : List Text} (same : Text.trim line = Text.trim other)
      (rest : SameLines more others) : SameLines (line :: more) (other :: others)
  | skip {line : Text} {more others : List Text} (blank : Text.trim line = [])
      (rest : SameLines more others) : SameLines (line :: more) others

/-- A line is read by its trimmed text: the cut behind that stands in front of a blank. -/
theorem complete_line {state : State} (starts : state.fed .text = state) {note : Option Note}
    (ready : state ≠ .blockComment → note = none) (line : Text) :
    ∃ lead tail, Blank lead ∧ Blank tail ∧ ∀ rest,
      notes.complete note (scan .text state (line ++ '\n' :: rest)) =
        notes.emitted (note.map (·.pushRun lead)) (scan .text state (Text.trim line)) ++
          notes.complete
            (notes.carried (note.map (·.pushRun lead)) (scan .text state (Text.trim line)))
            (scan .text (after .text state (Text.trim line)) (tail ++ '\n' :: rest)) ∧
      after .text state (line ++ '\n' :: rest) =
        after .text (after .text state (Text.trim line)) (tail ++ '\n' :: rest) := by
  obtain ⟨lead, tail, leadBlank, tailBlank, shape⟩ := Text.trim_append_blanks line
  refine ⟨lead, tail, leadBlank, tailBlank, fun rest => ?_⟩
  obtain ⟨ledComplete, ledAfter⟩ := complete_lead starts ready leadBlank
    (Text.trim line ++ (tail ++ '\n' :: rest))
  have cut : scan .text state (Text.trim line ++ (tail ++ '\n' :: rest)) =
        scan .text state (Text.trim line) ++
          scan .text (after .text state (Text.trim line)) (tail ++ '\n' :: rest) ∧
      after .text state (Text.trim line ++ (tail ++ '\n' :: rest)) =
        after .text (after .text state (Text.trim line)) (tail ++ '\n' :: rest) := by
    cases tail with
    | nil => exact scan_append_cons clear_feed .text state _ rest
    | cons c tail =>
        exact scan_append_cons (blank_cases (tailBlank c List.mem_cons_self)).1 .text state _ _
  have whole : line ++ '\n' :: rest = lead ++ (Text.trim line ++ (tail ++ '\n' :: rest)) := by
    conv => lhs; rw [shape]
    simp
  rw [whole, ledComplete, ledAfter, cut.1, cut.2, Grouping.complete_append]
  exact ⟨rfl, rfl⟩

theorem after_line {state : State} (starts : state.fed .text = state) (line rest : Text) :
    after .text state (line ++ '\n' :: rest) =
      after .text ((after .text state (Text.trim line)).fed .text) rest := by
  obtain ⟨lead, tail, -, blank, read⟩ := @complete_line _ starts none (fun _ => rfl) line
  rw [(read rest).2, (complete_feed _ none blank rest).2]

theorem fed_fed (state : State) : (state.fed .text).fed .text = state.fed .text := by
  cases state <;> rfl

theorem text_pushRun (note : Option Note) (run : Text) :
    (note.map (·.pushRun run)).map Note.text = note.map Note.text := by
  cases note <;> rfl

theorem Broken.pushRun {note : Option Note} (broken : Broken note) (run : Text) :
    Broken (note.map (·.pushRun run)) := by
  cases note <;> simp_all [Broken, Note.pushRun]

theorem broken_pushRun_feed (note : Option Note) (tail : Text) :
    Broken (note.map (·.pushRun (tail ++ ['\n']))) := by
  cases note <;> simp [Broken, Note.pushRun]

/-- Two texts that are read alike from a line's start on, by the notes that may be pending
there. -/
def ReadAlike (state : State) (a b : Text) : Prop :=
  ∀ {note other : Option Note}, note.map Note.text = other.map Note.text → Broken note →
    Broken other → (state ≠ .blockComment → note = none ∧ other = none) →
    notes.complete note (scan .text state a) = notes.complete other (scan .text state b)

/-- At the end of a line only the text of a pending comment counts. -/
theorem ReadAlike.feed {state : State} {a b : Text} (alike : ReadAlike (state.fed .text) a b)
    {note other : Option Note} (texts : note.map Note.text = other.map Note.text)
    {tail tail' : Text} (blank : Blank tail) (blank' : Blank tail') :
    notes.complete note (scan .text state (tail ++ '\n' :: a)) =
      notes.complete other (scan .text state (tail' ++ '\n' :: b)) := by
  rw [(complete_feed state note blank a).1, (complete_feed state other blank' b).1]
  by_cases block : state = .blockComment
  · subst block
    rw [if_pos rfl, if_pos rfl]
    refine alike ?_ (broken_pushRun_feed note tail) (broken_pushRun_feed other tail')
      (fun outside => absurd rfl outside)
    rw [text_pushRun, text_pushRun, texts]
  · have flushed : notes.flush note = notes.flush other := by
      cases note <;> cases other <;> simp_all [notes]
    rw [if_neg block, if_neg block, flushed,
      alike rfl (by simp [Broken]) (by simp [Broken]) (fun _ => ⟨rfl, rfl⟩)]

/-- Lists of lines that are the same up to blanks are read alike and leave the same open. -/
theorem readAlike_of_sameLines {ls others : List Text} (same : SameLines ls others)
    {state : State} (starts : state.fed .text = state) :
    ReadAlike state (Text.unlines ls) (Text.unlines others) ∧
      after .text state (Text.unlines ls) = after .text state (Text.unlines others) := by
  induction same generalizing state with
  | nil =>
      refine ⟨?_, rfl⟩
      intro note other texts _ _ _
      cases note <;> cases other <;> simp_all [Text.unlines, scan, notes]
  | @cons line line' more others same rest ih =>
      obtain ⟨alike, ended⟩ := ih (fed_fed (after .text state (Text.trim line)))
      refine ⟨?_, ?_⟩
      · intro note other texts broken broken' ready
        obtain ⟨lead, tail, -, blank, read⟩ :=
          complete_line starts (fun outside => (ready outside).1) line
        obtain ⟨lead', tail', -, blank', read'⟩ :=
          complete_line starts (fun outside => (ready outside).2) line'
        rw [Text.unlines_cons, Text.unlines_cons, (read _).1, (read' _).1, ← same]
        have texts' : (note.map (·.pushRun lead)).map Note.text =
            (other.map (·.pushRun lead')).map Note.text := by
          rw [text_pushRun, text_pushRun, texts]
        cases core : Text.trim line with
        | nil =>
            rw [core] at alike
            exact alike.feed texts' blank blank'
        | cons c core' =>
            rw [core] at alike
            have shown := shown_of_broken texts' (broken.pushRun lead) (broken'.pushRun lead')
            obtain ⟨emitted, carried⟩ :=
              settle_of_shown shown (Text.head_trim core) state core'
            rw [emitted, carried, alike.feed rfl blank blank']
      · rw [Text.unlines_cons, Text.unlines_cons, after_line starts, after_line starts, ← same,
          ended]
  | @skip line more others blank rest ih =>
      obtain ⟨alike, ended⟩ := ih starts
      refine ⟨?_, ?_⟩
      · intro note other texts broken broken' ready
        obtain ⟨lead, tail, -, tailBlank, read⟩ :=
          complete_line starts (fun outside => (ready outside).1) line
        rw [Text.unlines_cons, (read _).1, blank]
        simp only [scan, after, Grouping.emitted, Grouping.carried, List.foldl_nil,
          List.nil_append]
        rw [(complete_feed state _ tailBlank _).1, starts]
        split
        · rename_i block
          subst block
          refine alike ?_ (broken_pushRun_feed _ tail) broken' (fun outside => absurd rfl outside)
          rw [text_pushRun, text_pushRun, texts]
        · rename_i outside
          obtain ⟨rfl, rfl⟩ := ready outside
          exact alike rfl broken broken' (fun _ => ⟨rfl, rfl⟩)
      · rw [Text.unlines_cons, after_line starts, blank, after, starts, ended]

theorem comments_sameLines {ls others : List Text} (same : SameLines ls others) :
    comments (Text.unlines ls) = comments (Text.unlines others) :=
  (@readAlike_of_sameLines _ _ same .code rfl).1 rfl (by simp [Broken]) (by simp [Broken])
    (fun _ => ⟨rfl, rfl⟩)

/-! ## Blanks around a text -/

theorem complete_blank (state : State) (note : Option Note) {t : Text} (blank : Blank t) :
    notes.complete note (scan .text state t) = notes.flush note := by
  induction t generalizing state note with
  | nil => cases state <;> rfl
  | cons c rest ih =>
      simp only [Blank, List.forall_mem_cons] at blank
      rw [(scan_blank blank.1 state rest).1, Grouping.complete_cons, ih _ _ blank.2,
        take_blank blank.1 (blankStep_ne_remark state c)]

/-- The cut in front of blanks. -/
theorem scan_append_blank (state : State) (t : Text) {tail : Text} (blank : Blank tail) :
    scan .text state (t ++ tail) = scan .text state t ++ scan .text (after .text state t) tail ∧
      after .text state (t ++ tail) = after .text (after .text state t) tail := by
  cases tail with
  | nil => simp [scan, after]
  | cons c tail =>
      exact scan_append_cons (blank_cases (blank c List.mem_cons_self)).1 .text state t tail

theorem comments_append_blank (t : Text) {tail : Text} (blank : Blank tail) :
    comments (t ++ tail) = comments t := by
  rw [comments, (scan_append_blank .code t blank).1, Grouping.complete_append,
    complete_blank _ _ blank, comments, Grouping.complete]

theorem comments_blank_append {lead : Text} (blank : Blank lead) (t : Text) :
    comments (lead ++ t) = comments t ∧ after .text .code (lead ++ t) = after .text .code t :=
  @complete_lead .code rfl none (fun _ => rfl) lead blank t

/-! ## Texts in a row -/

/-- A text that starts in code adds nothing to a comment in front of it. -/
theorem complete_code (note : Option Note) (t : Text) :
    notes.complete note (scan .text .code t) = notes.flush note ++ comments t := by
  have first : ∀ x rest, scan .text .code t = x :: rest → x.2 ≠ .comment := by
    intro x rest shape
    unfold scan at shape
    split at shape <;> grind
  rw [comments]
  cases shape : scan .text .code t with
  | nil => simp [notes]
  | cons x rest =>
      have other := first x rest shape
      obtain ⟨c, mark⟩ := x
      cases mark <;> simp_all [notes]

/-- Texts that are scanned apart have their comments one after the other. -/
theorem comments_of_scan {a b whole : Text}
    (scanned : scan .text .code whole = scan .text .code a ++ scan .text .code b) :
    comments whole = comments a ++ comments b := by
  rw [comments, scanned, Grouping.complete_append, complete_code, ← List.append_assoc]
  rfl

/-! ## Lines and rows -/

theorem unlines_splitAtChar (t : Text) :
    Text.unlines (Text.splitAtChar '\n' t) = t ++ ['\n'] := by
  induction t using Text.byLines with
  | last line free => rw [Text.splitAtChar_of_not_mem free]; simp
  | more line rest free ih => rw [Text.splitAtChar_append free, Text.unlines_cons, ih]; simp

theorem sameLines_closeLines (pieces : List Text) : SameLines pieces (Text.closeLines pieces) := by
  induction pieces with
  | nil => exact .nil
  | cons piece more ih =>
      cases more with
      | nil =>
          rw [Text.closeLines]
          split
          · rename_i empty
            rw [List.isEmpty_iff] at empty
            exact .skip (by rw [empty]; rfl) .nil
          · exact .cons rfl .nil
      | cons next more =>
          rw [Text.closeLines]
          · exact .cons (Text.trim_dropReturn piece).symm ih
          · simp

theorem blank_feed : Blank ['\n'] := by
  simp [Blank, show Text.isBlank '\n' = true by decide]

/-- The lines of a text have its comments, whatever carriage returns it holds. -/
theorem comments_lines (t : Text) :
    comments (Text.unlines (Text.lines t)) = comments t ∧
      after .text .code (Text.unlines (Text.lines t)) = (after .text .code t).fed .text := by
  have same := sameLines_closeLines (Text.splitAtChar '\n' t)
  constructor
  · rw [Text.lines, ← comments_sameLines same, unlines_splitAtChar,
      comments_append_blank t blank_feed]
  · rw [Text.lines, ← (@readAlike_of_sameLines _ _ same .code rfl).2, unlines_splitAtChar,
      (scan_append_blank .code t blank_feed).2, after_feed, after]

theorem sameLines_rows (depth : Nat) (s : Fragment.Scan) (ls : List Text) :
    ∃ others, SameLines ls others ∧
      Row.renderAll (rowsFrom depth s ls) = Text.unlines others := by
  induction ls generalizing s with
  | nil => exact ⟨[], .nil, rfl⟩
  | cons line more ih =>
      obtain ⟨n, -, rendered⟩ := renderAll_rowsFrom_cons depth s line more
      obtain ⟨others, same, below⟩ := ih (Fragment.scanLine s.enterLine line)
      have blank : Blank (List.replicate n ' ') := by
        intro c found
        rw [List.eq_of_mem_replicate found]
        decide
      refine ⟨(List.replicate n ' ' ++ line) :: others,
        .cons (Text.trim_append blank line).symm same, ?_⟩
      rw [rendered, below, Text.unlines_cons, List.append_assoc]

/-- A fragment in rows has the comments of the fragment. -/
theorem comments_ofText (depth : Nat) (t : Text) :
    comments (Row.renderAll (Row.ofText depth t)) = comments t ∧
      after .text .code (Row.renderAll (Row.ofText depth t)) = (after .text .code t).fed .text := by
  obtain ⟨others, same, rendered⟩ := sameLines_rows depth .code (Text.lines t)
  have rows : Row.renderAll (Row.ofText depth t) = Text.unlines others := rendered
  rw [rows, ← comments_sameLines same, ← (@readAlike_of_sameLines _ _ same .code rfl).2]
  exact comments_lines t

end Rethrow.Lexical
