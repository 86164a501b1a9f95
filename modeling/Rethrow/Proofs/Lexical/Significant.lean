import Rethrow.Proofs.Lexical.Flags
import Rethrow.Proofs.Lexical.LineEnds

/-!
# Significant text

The significant text of a fragment is what is left of it when its layout is forgotten: comments
are gone, each run of blanks and comments outside literals is one space, and there is none at
either end. Literals are kept character by character. Line ends count as line feeds, and the
blanks at the end of the line on which a literal is opened do not count: that line of a text block
is no part of its value.

`complete_reflow` says that lines keep their significant text when blanks at the ends of lines
outside text blocks change, and when blank lines there are left out.
-/

namespace Rethrow.Lexical

open Fragment (Scan scanLine flagLines)
open Text (Blank Firm)

/-- Text without gaps that is being read. -/
structure Stretch where
  /-- What is read of it. -/
  text : Text
  /-- The blanks that may still end the line on which a literal was opened; none behind that
  line. -/
  held : Option Text
  deriving DecidableEq, Repr

namespace Stretch

/-- All that is read, the held blanks included. -/
def whole (s : Stretch) : Text :=
  s.text ++ s.held.getD []

/-- A stretch that goes on with a character outside literals or the first one of a literal. -/
def grow (s : Option Stretch) (c : Char) : Stretch :=
  { text := (s.elim [] whole) ++ [c], held := some [] }

/-- Adds a further character of a literal. -/
def push (s : Stretch) (c : Char) : Stretch :=
  match s.held with
  | none => { s with text := s.text ++ [c] }
  | some run =>
    if c = '\n' then { text := s.text ++ [c], held := none }
    else if Text.isBlank c then { s with held := some (run ++ [c]) }
    else { text := s.text ++ run ++ [c], held := some [] }

end Stretch

/-- The grouping into stretches without gaps. -/
def stretches : Grouping (Option Stretch) Text where
  take pending x :=
    match x.2 with
    | .code =>
      if Text.isBlank x.1 then (pending.toList.map Stretch.whole, none)
      else ([], some (Stretch.grow pending x.1))
    | .opens => ([], some (Stretch.grow pending x.1))
    | .inside => ([], pending.map (·.push x.1))
    | _ => (pending.toList.map Stretch.whole, none)
  flush pending := pending.toList.map Stretch.whole

/-- The significant text of a fragment. -/
def significant (t : Text) : Text :=
  Text.joinWith [' '] (stretches.complete none (scan .line .code (Text.unreturned t)))

/-- The comments, the blanks around them and the blanks behind the opening quotes are no part of
it, and the blanks on the lines of the text block are. -/
example : significant " a /* b */\r\n\t+ \"\"\" \r\n  c \r\n\"\"\"; // d".toList =
    "a + \"\"\"\n  c \n\"\"\";".toList := by
  decide +kernel

/-! ## Blanks -/

theorem take_blank_code {c : Char} (blank : Text.isBlank c = true) (pending : Option Stretch) :
    stretches.take pending (c, .code) = (stretches.flush pending, none) := by
  simp [stretches, blank]

theorem take_comment (c : Char) (pending : Option Stretch) :
    stretches.take pending (c, .comment) = (stretches.flush pending, none) := rfl

theorem flush_none : stretches.flush none = [] := rfl

/-- No mark of a comment or literal starts with a blank, and only a line feed ends a line. -/
theorem scan_blank_cons (reach : Reach) {c : Char} (blank : Text.isBlank c = true)
    (noFeed : c ≠ '\n') (state : State) (t : Text) :
    scan reach state (c :: t) = (c, (blankStep state c).1) :: scan reach (blankStep state c).2 t ∧
      after reach state (c :: t) = after reach (blankStep state c).2 t := by
  obtain ⟨⟨noDouble, noSlash, noStar⟩, noSingle, noBackslash⟩ := blank_cases blank
  cases state with
  | code => exact scan_code_cons ⟨noDouble, noSlash, noStar⟩ noSingle reach t
  | quoted quote =>
      have other : c ≠ quote.char := by cases quote <;> simp_all [Quote.char]
      simp [scan, after, blankStep, other]
  | lineComment | escaped | blockEscaped => simp [scan, after, blankStep, noFeed]
  | blockComment | textBlock => rw [scan, after] <;> simp_all [blankStep]

/-- A stretch that holds back the blanks at the end of what is read: no line feed of a literal
was read yet. -/
def Fresh (pending : Option Stretch) : Prop :=
  ∀ s ∈ pending, s.held ≠ none

theorem held_push {s : Stretch} (fresh : s.held ≠ none) {c : Char} (noFeed : c ≠ '\n') :
    (s.push c).held ≠ none := by
  obtain ⟨run, held⟩ := Option.ne_none_iff_exists'.mp fresh
  by_cases blank : Text.isBlank c = true <;> simp [Stretch.push, held, noFeed, blank]

theorem Fresh.take {pending : Option Stretch} (fresh : Fresh pending) {x : Char × Mark}
    (noFeed : x.1 ≠ '\n') : Fresh (stretches.take pending x).2 := by
  obtain ⟨c, mark⟩ := x
  cases mark with
  | code => by_cases blank : Text.isBlank c = true <;> simp [stretches, Fresh, Stretch.grow, blank]
  | opens => simp [stretches, Fresh, Stretch.grow]
  | remark | comment => simp [stretches, Fresh]
  | inside =>
      cases pending with
      | none => simp [stretches, Fresh]
      | some s =>
          rintro grown ⟨⟩
          exact held_push (fresh s rfl) noFeed

theorem Fresh.carried {pending : Option Stretch} (fresh : Fresh pending)
    {marked : List (Char × Mark)} (noFeed : ∀ x ∈ marked, x.1 ≠ '\n') :
    Fresh (stretches.carried pending marked) := by
  induction marked generalizing pending with
  | nil => exact fresh
  | cons x rest ih =>
      rw [List.forall_mem_cons] at noFeed
      exact ih (fresh.take noFeed.1) noFeed.2

theorem push_blank_feed {s : Stretch} (fresh : s.held ≠ none) {c : Char}
    (blank : Text.isBlank c = true) (noFeed : c ≠ '\n') : (s.push c).push '\n' = s.push '\n' := by
  obtain ⟨run, held⟩ := Option.ne_none_iff_exists'.mp fresh
  simp [Stretch.push, held, blank, noFeed]

/-! ## Ends of lines -/

theorem Agrees.blankStep {s : Scan} {state : State} (agrees : Agrees s state) {c : Char}
    (noFeed : c ≠ '\n') : Agrees s (blankStep state c).2 := by
  cases s with
  | code => rcases agrees with rfl | rfl <;> simp [Agrees, Lexical.blankStep, noFeed]
  | quoted quote =>
      obtain ⟨opened, rfl | rfl⟩ := agrees <;> simp [Agrees, Lexical.blankStep]
  | textBlock => rcases agrees with rfl | rfl <;> simp [Agrees, Lexical.blankStep]
  | blockComment => subst agrees; simp [Agrees, Lexical.blankStep]

/-- A blank in front of a line feed is read as the line feed alone. -/
theorem take_blank_feed {s : Scan} {state : State} (agrees : Agrees s state)
    (ended : ∀ quote, s ≠ .quoted quote) {pending : Option Stretch} (fresh : Fresh pending)
    {c : Char} (blank : Text.isBlank c = true) (noFeed : c ≠ '\n') (rest : List (Char × Mark)) :
    stretches.complete pending ((c, (blankStep state c).1) :: ('\n', feedMark s) :: rest) =
      stretches.complete pending (('\n', feedMark s) :: rest) := by
  have feed : Text.isBlank '\n' = true := by decide
  simp only [Grouping.complete_cons]
  cases s with
  | code =>
      rcases agrees with rfl | rfl
      · simp only [blankStep, feedMark, take_blank_code blank, take_blank_code feed, flush_none,
          List.nil_append]
      · simp only [blankStep, feedMark, if_neg noFeed, take_comment, take_blank_code feed,
          flush_none, List.nil_append]
  | quoted quote => exact absurd rfl (ended quote)
  | textBlock =>
      have pushed : (pending.map (·.push c)).map (·.push '\n') = pending.map (·.push '\n') := by
        cases pending with
        | none => rfl
        | some s => exact congrArg some (push_blank_feed (fresh s rfl) blank noFeed)
      have mark : (blankStep state c).1 = .inside := by rcases agrees with rfl | rfl <;> rfl
      rw [mark]
      exact congrArg (stretches.complete · rest) pushed
  | blockComment =>
      subst agrees
      simp only [blankStep, feedMark, take_comment, flush_none, List.nil_append]

/-- Blanks at the end of a line are no part of the significant text. -/
theorem complete_tail_feed {s : Scan} {state : State} (agrees : Agrees s state)
    (ended : ∀ quote, s ≠ .quoted quote) {pending : Option Stretch} (fresh : Fresh pending)
    {tail : Text} (blank : Blank tail) (noFeed : '\n' ∉ tail) (rest : Text) :
    stretches.complete pending (scan .line state (tail ++ '\n' :: rest)) =
      stretches.complete pending (scan .line state ('\n' :: rest)) := by
  induction tail generalizing state pending with
  | nil => rfl
  | cons c tail ih =>
      simp only [Blank, List.forall_mem_cons] at blank
      simp only [List.mem_cons, not_or] at noFeed
      have other := Ne.symm noFeed.1
      have later := agrees.blankStep other
      rw [List.cons_append, (scan_blank_cons .line blank.1 other state _).1, Grouping.complete_cons,
        ih later (fresh.take other) blank.2 noFeed.2, ← Grouping.complete_cons,
        (scan_feed later rest).1, (scan_feed agrees rest).1,
        take_blank_feed agrees ended fresh blank.1 other]

/-- Blanks at the start of a line outside text blocks are no part of the significant text. -/
theorem complete_blank_append {s : Scan} (outside : s ≠ .textBlock) {lead : Text}
    (blank : Blank lead) (t : Text) :
    stretches.complete none (scan .line (start s) (lead ++ t)) =
        stretches.complete none (scan .line (start s) t) ∧
      after .line (start s) (lead ++ t) = after .line (start s) t := by
  induction lead with
  | nil => exact ⟨rfl, rfl⟩
  | cons c lead ih =>
      simp only [Blank, List.forall_mem_cons] at blank
      obtain ⟨skipped, ended⟩ := ih blank.2
      obtain ⟨clear, noSingle, -⟩ := blank_cases blank.1
      rw [List.cons_append, ← skipped, ← ended]
      cases s with
      | code | quoted =>
          obtain ⟨scanned, left⟩ := scan_code_cons clear noSingle .line (lead ++ t)
          rw [start, scanned, left, Grouping.complete_cons, take_blank_code blank.1, flush_none]
          exact ⟨rfl, rfl⟩
      | textBlock => exact absurd rfl outside
      | blockComment =>
          rw [start, scan, after, Grouping.complete_cons, take_comment, flush_none]
          · exact ⟨rfl, rfl⟩
          all_goals exact fun _ same => absurd same clear.2.2

/-- A line outside text blocks counts by its trimmed text. -/
theorem complete_trim_line {s : Scan} (outside : s ≠ .textBlock) {line : Text}
    (free : '\n' ∉ line) (ended : ∀ quote, scanLine s.enterLine line ≠ .quoted quote)
    (rest : Text) :
    stretches.complete none (scan .line (start s) (line ++ '\n' :: rest)) =
      stretches.complete none (scan .line (start s) (Text.trim line ++ '\n' :: rest)) := by
  obtain ⟨lead, tail, leadBlank, tailBlank, shape⟩ := Text.trim_append_blanks line
  have freeTrim : '\n' ∉ Text.trim line := fun found => free (Text.mem_of_mem_trim found)
  have freeTail : '\n' ∉ tail := fun found => free (by rw [shape]; simp [found])
  -- At the end of the trimmed line the lexer stands where the line scanner stands.
  have entered : start s = middle s.enterLine := by cases s <;> rfl
  have agrees := agrees_after (Fragment.proper_enterLine s) freeTrim
  rw [← entered] at agrees
  rw [← Fragment.scanLine_trim (Fragment.proper_enterLine s)] at ended
  have fresh : Fresh (stretches.carried none (scan .line (start s) (Text.trim line))) := by
    refine Fresh.carried (by simp [Fresh]) fun x listed feed => freeTrim ?_
    rw [← scan_fst .line (start s) (Text.trim line), ← feed]
    exact List.mem_map_of_mem listed
  have cut : scan .line (start s) (Text.trim line ++ (tail ++ '\n' :: rest)) =
      scan .line (start s) (Text.trim line) ++
        scan .line (after .line (start s) (Text.trim line)) (tail ++ '\n' :: rest) := by
    cases tail with
    | nil => exact (scan_append_cons clear_feed .line (start s) _ rest).1
    | cons c tail =>
        exact (scan_append_cons (blank_cases (tailBlank c List.mem_cons_self)).1 .line _ _ _).1
  calc stretches.complete none (scan .line (start s) (line ++ '\n' :: rest))
      = stretches.complete none
          (scan .line (start s) (lead ++ (Text.trim line ++ (tail ++ '\n' :: rest)))) := by
        conv => lhs; rw [shape]
        simp only [List.append_assoc]
    _ = stretches.complete none
          (scan .line (start s) (Text.trim line ++ (tail ++ '\n' :: rest))) :=
        (complete_blank_append outside leadBlank _).1
    _ = stretches.complete none (scan .line (start s) (Text.trim line ++ '\n' :: rest)) := by
        rw [cut, (scan_append_cons clear_feed .line (start s) _ rest).1, Grouping.complete_append,
          Grouping.complete_append, complete_tail_feed agrees ended fresh tailBlank freeTail]

/-! ## Lines laid out anew -/

/-- Lines that are laid out anew, from the state in which the first one starts: lines that start
inside a text block stay, blanks at the ends of the others change, and blank lines are left
out. -/
inductive Reflow : Scan → List Text → List Text → Prop where
  | nil {s : Scan} : Reflow s [] []
  | raw {line : Text} {more others : List Text}
      (rest : Reflow (scanLine .textBlock line) more others) :
      Reflow .textBlock (line :: more) (line :: others)
  | trim {s : Scan} {line other : Text} {more others : List Text} (outside : s ≠ .textBlock)
      (same : Text.trim line = Text.trim other)
      (rest : Reflow (scanLine s.enterLine line) more others) :
      Reflow s (line :: more) (other :: others)
  | skip {s : Scan} {line : Text} {more others : List Text} (outside : s ≠ .textBlock)
      (blank : Text.trim line = []) (rest : Reflow (scanLine s.enterLine line) more others) :
      Reflow s (line :: more) others

/-- No line ends inside a string or character literal. -/
def Ended : Scan → List Text → Prop
  | _, [] => True
  | s, line :: more =>
    (∀ quote, scanLine s.enterLine line ≠ .quoted quote) ∧ Ended (scanLine s.enterLine line) more

/-- A stretch goes on behind the end of a line only inside a text block. -/
theorem complete_next {s : Scan} {line : Text} (free : '\n' ∉ line) {a b : Text}
    (below : ∀ {pending : Option Stretch},
      (scanLine s.enterLine line ≠ .textBlock → pending = none) →
      stretches.complete pending (scan .line (start (scanLine s.enterLine line)) a) =
        stretches.complete pending (scan .line (start (scanLine s.enterLine line)) b))
    (pending : Option Stretch) :
    stretches.complete pending (scan .line (start s) (line ++ '\n' :: a)) =
      stretches.complete pending (scan .line (start s) (line ++ '\n' :: b)) := by
  have ready : scanLine s.enterLine line ≠ .textBlock →
      stretches.carried pending (scan .line (start s) line ++
        [('\n', feedMark (scanLine s.enterLine line))]) = none := by
    intro outside
    rw [Grouping.carried, List.foldl_append]
    cases shape : scanLine s.enterLine line with
    | textBlock => exact absurd shape outside
    | code | quoted | blockComment => rfl
  rw [(scan_line s free a).1, (scan_line s free b).1, Grouping.complete_append,
    Grouping.complete_append, below ready]

/-- Lines that are laid out anew keep their significant text and leave the same open. -/
theorem complete_reflow {s : Scan} {ls others : List Text} (reflow : Reflow s ls others)
    (free : ∀ line ∈ ls, '\n' ∉ line) (free' : ∀ line ∈ others, '\n' ∉ line) (ended : Ended s ls)
    {pending : Option Stretch} (ready : s ≠ .textBlock → pending = none) :
    stretches.complete pending (scan .line (start s) (Text.unlines ls)) =
        stretches.complete pending (scan .line (start s) (Text.unlines others)) ∧
      after .line (start s) (Text.unlines ls) = after .line (start s) (Text.unlines others) := by
  induction reflow generalizing pending with
  | nil => exact ⟨rfl, rfl⟩
  | @raw line more others rest ih =>
      rw [List.forall_mem_cons] at free free'
      rw [Text.unlines_cons, Text.unlines_cons]
      refine ⟨?_, ?_⟩
      · exact @complete_next .textBlock line free.1 _ _
          (fun ready => (ih free.2 free'.2 ended.2 ready).1) pending
      · rw [(scan_line .textBlock free.1 _).2, (scan_line .textBlock free.1 _).2]
        exact (@ih free.2 free'.2 ended.2 none fun _ => rfl).2
  | @trim s line other more others outside same rest ih =>
      rw [List.forall_mem_cons] at free free'
      have scanned : scanLine s.enterLine other = scanLine s.enterLine line := by
        rw [← Fragment.scanLine_trim (Fragment.proper_enterLine s), ← same,
          Fragment.scanLine_trim (Fragment.proper_enterLine s)]
      have ended' : ∀ quote, scanLine s.enterLine other ≠ .quoted quote := by
        rw [scanned]
        exact ended.1
      obtain rfl := ready outside
      rw [Text.unlines_cons, Text.unlines_cons]
      refine ⟨?_, ?_⟩
      · rw [complete_trim_line outside free.1 ended.1, same,
          ← complete_trim_line outside free'.1 ended']
        refine complete_next free'.1 (fun ready => ?_) none
        rw [scanned] at ready ⊢
        exact (ih free.2 free'.2 ended.2 ready).1
      · rw [(scan_line s free.1 _).2, (scan_line s free'.1 _).2, scanned]
        exact (@ih free.2 free'.2 ended.2 none fun _ => rfl).2
  | @skip s line more others outside blank rest ih =>
      rw [List.forall_mem_cons] at free
      have stays : start (scanLine s.enterLine line) = start s := by
        rw [Fragment.scanLine_blank (Fragment.proper_enterLine s) (Text.blank_of_trim_eq_nil blank)]
        cases s <;> rfl
      obtain rfl := ready outside
      obtain ⟨alike, left⟩ := @ih free.2 free' ended.2 none fun _ => rfl
      rw [stays] at alike left
      rw [Text.unlines_cons]
      refine ⟨?_, ?_⟩
      · rw [complete_trim_line outside free.1 ended.1, blank, List.nil_append, ← alike]
        exact (complete_blank_append outside blank_feed _).1
      · rw [(scan_line s free.1 _).2, stays, left]

/-! ## Fragments laid out anew -/

/-- Inside a string or character literal. -/
def State.isQuoted : State → Bool
  | .quoted _ => true
  | .escaped _ => true
  | _ => false

/-- No string or character literal holds a line break. -/
def Unbroken (state : State) (t : Text) : Prop :=
  ∀ before rest, t = before ++ '\n' :: rest → (after .line state before).isQuoted = false

theorem unbroken_iff {state : State} {t : Text} :
    Unbroken state t ↔ ∀ n < t.length, t[n]? = some '\n' →
      (after .line state (t.take n)).isQuoted = false := by
  constructor
  · intro unbroken n inside feed
    refine unbroken (t.take n) (t.drop (n + 1)) ?_
    obtain ⟨_, here⟩ := List.getElem?_eq_some_iff.mp feed
    rw [← here, ← List.drop_eq_getElem_cons, List.take_append_drop]
  · rintro unbroken before rest rfl
    have outside := unbroken before.length (by simp) (by simp)
    rwa [List.take_left] at outside

instance (state : State) (t : Text) : Decidable (Unbroken state t) :=
  decidable_of_iff _ unbroken_iff.symm

theorem Unbroken.left {state : State} {a b : Text} (unbroken : Unbroken state (a ++ b)) :
    Unbroken state a := by
  rintro before rest rfl
  exact unbroken before (rest ++ b) (by simp)

theorem unbroken_line {s : Scan} {line : Text} (free : '\n' ∉ line) {rest : Text} :
    Unbroken (start s) (line ++ '\n' :: rest) ↔
      (after .line (start s) line).isQuoted = false ∧
        Unbroken (start (scanLine s.enterLine line)) rest := by
  constructor
  · intro unbroken
    refine ⟨unbroken line rest rfl, ?_⟩
    rintro before behind rfl
    have outside := unbroken (line ++ '\n' :: before) behind (by simp)
    rwa [(scan_line s free before).2] at outside
  · rintro ⟨outside, unbroken⟩ before behind shape
    rcases List.append_eq_append_iff.mp shape with ⟨inner, rfl, below⟩ | ⟨inner, rfl, below⟩
    · cases inner with
      | nil => rwa [List.append_nil]
      | cons c inner =>
          obtain ⟨rfl, rfl⟩ := List.cons.inj below
          rw [(scan_line s free inner).2]
          exact unbroken inner behind rfl
    · cases inner with
      | nil => rwa [List.append_nil] at outside
      | cons c inner =>
          obtain ⟨rfl, -⟩ := List.cons.inj below
          exact absurd (by simp) free

theorem Agrees.ended {s : Scan} {state : State} (agrees : Agrees s state)
    (outside : state.isQuoted = false) : ∀ quote, s ≠ .quoted quote := by
  rintro quote rfl
  obtain ⟨opened, rfl | rfl⟩ := agrees
  · exact absurd outside (by simp [State.isQuoted])
  · exact absurd outside (by simp [State.isQuoted])

/-- The lines of a text in which no literal holds a line break. -/
theorem ended_lines {s : Scan} {t : Text} (plain : '\r' ∉ t) (unbroken : Unbroken (start s) t)
    (outside : (after .line (start s) t).isQuoted = false) : Ended s (Text.lines t) := by
  have agrees : ∀ (s : Scan) {line : Text}, '\n' ∉ line →
      Agrees (scanLine s.enterLine line) (after .line (start s) line) := by
    intro s line free
    have entered : start s = middle s.enterLine := by cases s <;> rfl
    rw [entered]
    exact agrees_after (Fragment.proper_enterLine s) free
  induction t using Text.byLines generalizing s with
  | last line free =>
      rw [Text.lines_of_not_mem free]
      split
      · trivial
      · exact ⟨(agrees s free).ended outside, trivial⟩
  | more line rest free ih =>
      simp only [List.mem_append, List.mem_cons, not_or] at plain
      obtain ⟨outsideLine, below⟩ := (unbroken_line free).mp unbroken
      rw [(scan_line s free rest).2] at outside
      rw [Text.lines_append free, Text.dropReturn_of_not_mem plain.1]
      exact ⟨(agrees s free).ended outsideLine, ih plain.2.2 below outside⟩

theorem isQuoted_dropReturn {state : State} {line : Text}
    (outside : (after .line state line).isQuoted = false) :
    (after .line state (Text.dropReturn line)).isQuoted = false := by
  rcases Text.dropReturn_cases line with same | returns
  · rwa [same]
  · have clear : Clear '\r' := by simp [Clear]
    rw [returns, (scan_append_cons clear .line state _ []).2,
      (scan_blank_cons .line (by decide) (by decide) _ []).2, after] at outside
    generalize after .line state (Text.dropReturn line) = inner at outside ⊢
    cases inner <;> simp_all [blankStep, State.isQuoted]

/-- Literals hold no line breaks however lines end. -/
theorem Unbroken.unreturned {s : Scan} {t : Text} (unbroken : Unbroken (start s) t) :
    Unbroken (start s) (Text.unreturned t) := by
  induction t using Text.byLines generalizing s with
  | last line free => rwa [Text.unreturned_of_not_mem free]
  | more line rest free ih =>
      have kept : '\n' ∉ Text.dropReturn line := fun feed => free (Text.mem_of_mem_dropReturn feed)
      obtain ⟨outside, below⟩ := (unbroken_line free).mp unbroken
      rw [Text.unreturned_line free, unbroken_line kept, start_scanLine_dropReturn s free]
      exact ⟨isQuoted_dropReturn outside, ih below⟩

/-- A line feed at the end of a text is no part of its significant text. -/
theorem complete_feed_end {t : Text} (closed : Closed .line (t ++ ['\n'])) :
    stretches.complete none (scan .line .code (t ++ ['\n'])) =
      stretches.complete none (scan .line .code t) := by
  obtain ⟨scanned, ended⟩ := scan_append_cons clear_feed .line .code t []
  rw [Closed, ended, after_feed, after] at closed
  have feed : scan .line (after .line .code t) ['\n'] = [('\n', .code)] := by
    generalize after .line .code t = state at closed ⊢
    cases state with
    | code | lineComment | quoted | escaped => simp [scan]
    | blockComment | textBlock | blockEscaped => simp [State.fed] at closed
  rw [scanned, feed, Grouping.complete_append, Grouping.complete_cons,
    take_blank_code (by decide), Grouping.complete_nil, flush_none, List.append_nil]
  rfl

theorem complete_blanks {state : State} (loose : state = .code ∨ state = .lineComment) {tail : Text}
    (blank : Blank tail) (pending : Option Stretch) :
    stretches.complete pending (scan .line state tail) = stretches.flush pending := by
  induction tail generalizing state pending with
  | nil => simp [scan]
  | cons c tail ih =>
      simp only [Blank, List.forall_mem_cons] at blank
      have taken : ∀ next, next = State.code ∨ next = .lineComment →
          ∀ mark, mark = Mark.code ∨ mark = .comment →
          stretches.complete pending ((c, mark) :: scan .line next tail) =
            stretches.flush pending := by
        rintro next ends mark (rfl | rfl)
        · rw [Grouping.complete_cons, take_blank_code blank.1, ih ends blank.2, flush_none,
            List.append_nil]
        · rw [Grouping.complete_cons, take_comment, ih ends blank.2, flush_none, List.append_nil]
      by_cases feed : c = '\n'
      · subst feed
        rcases loose with rfl | rfl
        · simpa [scan] using taken .code (.inl rfl) .code (.inl rfl)
        · simpa [scan] using taken .code (.inl rfl) .code (.inl rfl)
      · rw [(scan_blank_cons .line blank.1 feed state tail).1]
        rcases loose with rfl | rfl
        · exact taken .code (.inl rfl) .code (.inl rfl)
        · rw [blankStep, if_neg feed]
          exact taken .lineComment (.inr rfl) .comment (.inr rfl)

/-- Blanks at the end of a text that leaves no literal open are no part of its significant
text. -/
theorem complete_append_blank {t tail : Text} (loose : Loose .line t) (blank : Blank tail) :
    stretches.complete none (scan .line .code (t ++ tail)) =
      stretches.complete none (scan .line .code t) := by
  cases tail with
  | nil => rw [List.append_nil]
  | cons c tail =>
      have clear := (blank_cases (blank c List.mem_cons_self)).1
      rw [(scan_append_cons clear .line .code t tail).1, Grouping.complete_append,
        complete_blanks loose blank]
      rfl

theorem isQuoted_of_loose {t : Text} (loose : Loose .line t) :
    (after .line .code t).isQuoted = false := by
  rcases loose with closed | comment
  · rw [closed]
    rfl
  · rw [comment]
    rfl

/-- Blanks close neither a comment nor a literal, if no literal holds a line break. -/
theorem loose_of_append_blank {t tail : Text} (blank : Blank tail)
    (unbroken : Unbroken .code (t ++ tail)) (loose : Loose .line (t ++ tail)) : Loose .line t := by
  induction tail generalizing t with
  | nil => rwa [List.append_nil] at loose
  | cons c tail ih =>
      simp only [Blank, List.forall_mem_cons] at blank
      rw [List.append_cons] at unbroken loose
      have longer := ih blank.2 unbroken loose
      have outside : c = '\n' → (after .line .code t).isQuoted = false := by
        rintro rfl
        exact unbroken t tail (by simp)
      unfold Loose at longer ⊢
      rw [(scan_append_cons (blank_cases blank.1).1 .line .code t []).2] at longer
      by_cases feed : c = '\n'
      · subst feed
        rw [after_feed, after] at longer
        cases ended : after .line .code t <;> simp_all [State.fed, State.isQuoted]
      · rw [(scan_blank_cons .line blank.1 feed _ []).2, after] at longer
        cases ended : after .line .code t <;> simp_all [blankStep]

/-- The lines of a text have its significant text and leave nothing open. -/
theorem complete_lines {t : Text} (plain : '\r' ∉ t) (loose : Loose .line t) :
    stretches.complete none (scan .line .code (Text.unlines (Text.lines t))) =
        stretches.complete none (scan .line .code t) ∧
      Closed .line (Text.unlines (Text.lines t)) := by
  rcases Text.unlines_lines plain with same | longer
  · rw [same]
    refine ⟨rfl, ?_⟩
    rcases loose with closed | comment
    · exact closed
    · rw [← same] at comment
      exact absurd comment (after_unlines_ne .line (Text.lines t))
  · rw [longer]
    exact ⟨complete_feed_end (closed_feed loose), closed_feed loose⟩

/-- What replaces the lines of a text by lines that are laid out anew keeps its significant
text. -/
theorem complete_joinLines {t : Text} (plain : '\r' ∉ t) (loose : Loose .line t)
    (unbroken : Unbroken .code t) {others : List Text} (reflow : Reflow .code (Text.lines t) others)
    (free : ∀ line ∈ others, '\n' ∉ line) :
    stretches.complete none (scan .line .code (Text.joinLines others)) =
      stretches.complete none (scan .line .code t) := by
  have ended : Ended .code (Text.lines t) :=
    ended_lines plain unbroken (isQuoted_of_loose loose)
  obtain ⟨alike, left⟩ := @complete_reflow _ _ _ reflow (fun _ => Text.not_mem_of_mem_lines) free
    ended none fun _ => rfl
  obtain ⟨whole, closed⟩ := complete_lines plain loose
  rw [start] at alike left
  rw [← whole, alike]
  cases others with
  | nil => rfl
  | cons line more =>
      rw [Closed, left, unlines_eq_joinLines] at closed
      rw [unlines_eq_joinLines, complete_feed_end closed]

end Rethrow.Lexical
