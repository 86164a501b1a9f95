import Rethrow.Text.Word

/-!
# A reference lexer

`scan` walks a text once, character by character, and marks each character as code, as
part of a literal or as part of a comment. A backslash inside a literal hides the character
behind it. A string or character literal that is still open at a line feed is given up
there or goes on behind it, by its `Reach`. `after` is the state the walk ends in.

Tokens are read off the marks: a literal is one token, a maximal run of word characters is
one, every other character of code that is not blank is one of its own, and comments and
blanks only separate.
-/

namespace Rethrow.Lexical

/-- The quotes that open a literal on one line. -/
inductive Quote where
  | single
  | double
  deriving DecidableEq, Repr

/-- The character of a quote. -/
def Quote.char : Quote → Char
  | single => '\''
  | double => '"'

/-- How far a string or character literal may reach. -/
inductive Reach where
  /-- To the end of its line. -/
  | line
  /-- To the quote that closes it, over as many lines as it takes. -/
  | text
  deriving DecidableEq, Repr

/-- What the lexer is in the middle of. -/
inductive State where
  | code
  | lineComment
  | blockComment
  /-- Inside a string or character literal. -/
  | quoted (quote : Quote)
  /-- Behind a backslash of a string or character literal. -/
  | escaped (quote : Quote)
  | textBlock
  /-- Behind a backslash of a text block. -/
  | blockEscaped
  deriving DecidableEq, Repr

/-- What a character is part of. -/
inductive Mark where
  | code
  /-- The first character of a literal. -/
  | opens
  /-- A further character of a literal. -/
  | inside
  /-- The first character of a comment. -/
  | remark
  /-- A further character of a comment. -/
  | comment
  deriving DecidableEq, Repr

namespace Reach

/-- The state behind a line feed that stands in a literal. -/
def behind : Reach → Quote → State
  | line, _ => .code
  | text, quote => .quoted quote

/-- What a line feed is part of that stands in a literal. -/
def mark : Reach → Mark
  | line => .code
  | text => .inside

@[simp] theorem behind_line (quote : Quote) : line.behind quote = .code := rfl

@[simp] theorem behind_text (quote : Quote) : text.behind quote = .quoted quote := rfl

@[simp] theorem mark_line : line.mark = .code := rfl

@[simp] theorem mark_text : text.mark = .inside := rfl

end Reach

/-- The characters of a text that is scanned from a state, each with its mark. -/
def scan (reach : Reach) : State → Text → List (Char × Mark)
  | _, [] => []
  | .code, '"' :: '"' :: '"' :: rest =>
    ('"', .opens) :: ('"', .inside) :: ('"', .inside) :: scan reach .textBlock rest
  | .code, '/' :: '/' :: rest => ('/', .remark) :: ('/', .comment) :: scan reach .lineComment rest
  | .code, '/' :: '*' :: rest => ('/', .remark) :: ('*', .comment) :: scan reach .blockComment rest
  | .code, '"' :: rest => ('"', .opens) :: scan reach (.quoted .double) rest
  | .code, '\'' :: rest => ('\'', .opens) :: scan reach (.quoted .single) rest
  | .code, c :: rest => (c, .code) :: scan reach .code rest
  | .lineComment, '\n' :: rest => ('\n', .code) :: scan reach .code rest
  | .lineComment, c :: rest => (c, .comment) :: scan reach .lineComment rest
  | .blockComment, '*' :: '/' :: rest => ('*', .comment) :: ('/', .comment) :: scan reach .code rest
  | .blockComment, c :: rest => (c, .comment) :: scan reach .blockComment rest
  | .quoted quote, '\n' :: rest => ('\n', reach.mark) :: scan reach (reach.behind quote) rest
  | .quoted quote, '\\' :: rest => ('\\', .inside) :: scan reach (.escaped quote) rest
  | .quoted quote, c :: rest =>
    (c, .inside) :: scan reach (if c = quote.char then .code else .quoted quote) rest
  | .escaped quote, '\n' :: rest => ('\n', reach.mark) :: scan reach (reach.behind quote) rest
  | .escaped quote, c :: rest => (c, .inside) :: scan reach (.quoted quote) rest
  | .textBlock, '"' :: '"' :: '"' :: rest =>
    ('"', .inside) :: ('"', .inside) :: ('"', .inside) :: scan reach .code rest
  | .textBlock, '\\' :: rest => ('\\', .inside) :: scan reach .blockEscaped rest
  | .textBlock, c :: rest => (c, .inside) :: scan reach .textBlock rest
  | .blockEscaped, c :: rest => (c, .inside) :: scan reach .textBlock rest

/-- The state at the end of a text that is scanned from a state. -/
def after (reach : Reach) : State → Text → State
  | state, [] => state
  | .code, '"' :: '"' :: '"' :: rest => after reach .textBlock rest
  | .code, '/' :: '/' :: rest => after reach .lineComment rest
  | .code, '/' :: '*' :: rest => after reach .blockComment rest
  | .code, '"' :: rest => after reach (.quoted .double) rest
  | .code, '\'' :: rest => after reach (.quoted .single) rest
  | .code, _ :: rest => after reach .code rest
  | .lineComment, '\n' :: rest => after reach .code rest
  | .lineComment, _ :: rest => after reach .lineComment rest
  | .blockComment, '*' :: '/' :: rest => after reach .code rest
  | .blockComment, _ :: rest => after reach .blockComment rest
  | .quoted quote, '\n' :: rest => after reach (reach.behind quote) rest
  | .quoted quote, '\\' :: rest => after reach (.escaped quote) rest
  | .quoted quote, c :: rest => after reach (if c = quote.char then .code else .quoted quote) rest
  | .escaped quote, '\n' :: rest => after reach (reach.behind quote) rest
  | .escaped quote, _ :: rest => after reach (.quoted quote) rest
  | .textBlock, '"' :: '"' :: '"' :: rest => after reach .code rest
  | .textBlock, '\\' :: rest => after reach .blockEscaped rest
  | .textBlock, _ :: rest => after reach .textBlock rest
  | .blockEscaped, _ :: rest => after reach .textBlock rest

/-- A text that is scanned from code to code: none of its comments and literals is left
open. -/
def Closed (reach : Reach) (t : Text) : Prop :=
  after reach .code t = .code

/-- A closed text, or one that ends in a line comment. -/
def Loose (reach : Reach) (t : Text) : Prop :=
  after reach .code t = .code ∨ after reach .code t = .lineComment

instance (reach : Reach) (t : Text) : Decidable (Closed reach t) :=
  inferInstanceAs (Decidable (_ = _))

instance (reach : Reach) (t : Text) : Decidable (Loose reach t) :=
  inferInstanceAs (Decidable (_ ∨ _))

/-! ## Groups of marked characters -/

/-- A machine that groups marked characters: what is finished by the next one and what is
pending then, and what is finished at the end. -/
structure Grouping (σ α : Type) where
  take : σ → Char × Mark → List α × σ
  flush : σ → List α

namespace Grouping

variable {σ α : Type} (g : Grouping σ α)

/-- What some marked characters finish. -/
def emitted (pending : σ) : List (Char × Mark) → List α
  | [] => []
  | x :: rest => (g.take pending x).1 ++ emitted (g.take pending x).2 rest

/-- What is pending after some marked characters. -/
def carried (pending : σ) (marked : List (Char × Mark)) : σ :=
  marked.foldl (fun pending x => (g.take pending x).2) pending

/-- The groups of some marked characters up to their end. -/
def complete (pending : σ) (marked : List (Char × Mark)) : List α :=
  g.emitted pending marked ++ g.flush (g.carried pending marked)

theorem emitted_append (pending : σ) (a b : List (Char × Mark)) :
    g.emitted pending (a ++ b) = g.emitted pending a ++ g.emitted (g.carried pending a) b := by
  induction a generalizing pending with
  | nil => rfl
  | cons x rest ih => simp [emitted, carried, ih]

theorem complete_append (pending : σ) (a b : List (Char × Mark)) :
    g.complete pending (a ++ b) = g.emitted pending a ++ g.complete (g.carried pending a) b := by
  have carriedOn : g.carried pending (a ++ b) = g.carried (g.carried pending a) b := by
    simp [carried]
  rw [complete, emitted_append, carriedOn, List.append_assoc, complete]

@[simp] theorem complete_nil (pending : σ) : g.complete pending [] = g.flush pending := rfl

@[simp] theorem complete_cons (pending : σ) (x : Char × Mark) (rest : List (Char × Mark)) :
    g.complete pending (x :: rest) =
      (g.take pending x).1 ++ g.complete (g.take pending x).2 rest := by
  simp [complete, emitted, carried]

end Grouping

/-- A token that may still grow. -/
inductive Pending where
  | none
  | word (t : Text)
  | literal (t : Text)
  deriving DecidableEq, Repr

namespace Pending

/-- The token that a pending one is, if nothing is added to it. -/
def flush : Pending → List Text
  | none => []
  | word t => [t]
  | literal t => [t]

@[simp] theorem flush_none : none.flush = [] := rfl

/-- Takes a marked character: the tokens that are finished by it, and what is pending
then. -/
def take (pending : Pending) : Char × Mark → List Text × Pending
  | (c, .code) =>
    if Text.isWordPart c then
      match pending with
      | word t => ([], word (t ++ [c]))
      | other => (other.flush, word [c])
    else (pending.flush ++ (if Text.isBlank c then [] else [[c]]), none)
  | (c, .opens) => (pending.flush, literal [c])
  | (c, .inside) =>
    match pending with
    | literal t => ([], literal (t ++ [c]))
    | other => (other.flush, literal [c])
  | (_, .remark) => (pending.flush, none)
  | (_, .comment) => (pending.flush, none)

/-- A character of code that is no part of a word ends whatever is pending. -/
theorem take_code {c : Char} (other : Text.isWordPart c = false) (pending : Pending) :
    pending.take (c, .code) =
      (pending.flush ++ (if Text.isBlank c then [] else [[c]]), none) := by
  simp [take, other]

end Pending

/-- The grouping into tokens. -/
def words : Grouping Pending Text :=
  { take := Pending.take, flush := Pending.flush }

@[simp] theorem words_take : words.take = Pending.take := rfl

@[simp] theorem words_flush : words.flush = Pending.flush := rfl

/-- The tokens of a text whose literals end on their lines. -/
def tokens (t : Text) : List Text :=
  words.complete .none (scan .line .code t)

/-! ## Scanning in two parts -/

/-- A character that neither starts nor continues the mark of a comment or text block. -/
def Clear (c : Char) : Prop :=
  c ≠ '"' ∧ c ≠ '/' ∧ c ≠ '*'

private theorem head_of_append {a b rest : Text} {c p : Char} (other : c ≠ p)
    (shape : a ++ c :: b = p :: rest) : ∃ rest', a = p :: rest' := by
  cases a with
  | nil => simp_all
  | cons x a => simp_all

private theorem heads_of_append {a b rest : Text} {c p q : Char} (other : c ≠ p)
    (other' : c ≠ q) (shape : a ++ c :: b = p :: q :: rest) : ∃ rest', a = p :: q :: rest' := by
  obtain ⟨tail, rfl⟩ := head_of_append other shape
  simp only [List.cons_append, List.cons.injEq, true_and] at shape
  obtain ⟨tail', rfl⟩ := head_of_append other' shape
  exact ⟨tail', rfl⟩

/-- The scan of a text may be cut in front of a clear character: no mark of a comment or
text block lies across the cut. -/
theorem scan_append_cons {c : Char} (clear : Clear c) (reach : Reach) (state : State)
    (a b : Text) :
    scan reach state (a ++ c :: b) =
        scan reach state a ++ scan reach (after reach state a) (c :: b) ∧
      after reach state (a ++ c :: b) = after reach (after reach state a) (c :: b) := by
  obtain ⟨noQuote, noSlash, noStar⟩ := clear
  fun_induction after reach state a with
  | case1 => simp [scan]
  | case2 | case3 | case4 => simp_all [scan, after]
  | case5 rest notBlock ih =>
      rw [List.cons_append, scan, after, scan]
      all_goals grind [heads_of_append]
  | case6 rest ih =>
      rw [List.cons_append, scan, after, scan]
      all_goals grind
  | case7 x rest notBlock notLine notComment notDouble notSingle ih =>
      rw [List.cons_append, scan, after, scan]
      all_goals grind [heads_of_append, head_of_append]
  | case8 rest ih => simp_all [scan, after]
  | case9 x rest notFeed ih =>
      rw [List.cons_append, scan, after, scan]
      all_goals grind
  | case10 rest ih => simp_all [scan, after]
  | case11 x rest notClose ih =>
      rw [List.cons_append, scan, after, scan]
      all_goals grind [head_of_append]
  | case12 | case13 => simp_all [scan, after]
  | case14 quote x rest notFeed notBackslash ih =>
      rw [List.cons_append, scan, after, scan]
      all_goals grind
  | case15 => simp_all [scan, after]
  | case16 quote x rest notFeed ih =>
      rw [List.cons_append, scan, after, scan]
      all_goals grind
  | case17 | case18 => simp_all [scan, after]
  | case19 x rest notClose notBackslash ih =>
      rw [List.cons_append, scan, after, scan]
      all_goals grind [heads_of_append]
  | case20 => simp_all [scan, after]

/-- A clear character of code is scanned by itself. -/
theorem scan_code_cons {c : Char} (clear : Clear c) (noQuote : c ≠ '\'') (reach : Reach)
    (t : Text) :
    scan reach .code (c :: t) = (c, .code) :: scan reach .code t ∧
      after reach .code (c :: t) = after reach .code t := by
  obtain ⟨noDouble, noSlash, noStar⟩ := clear
  rw [scan, after] <;> simp_all

/-- The scan keeps the characters. -/
theorem scan_fst (reach : Reach) (state : State) (t : Text) :
    (scan reach state t).map Prod.fst = t := by
  fun_induction scan reach state t <;> simp_all

/-- The last character of a scanned text and the first of the text behind it do not make a
mark together. -/
structure Apart (marked : List (Char × Mark)) (b : Text) : Prop where
  slash : marked.getLast? = some ('/', .code) → b.head? ≠ some '/' ∧ b.head? ≠ some '*'
  quote : marked.getLast? = some ('"', .inside) → b.head? ≠ some '"'

theorem Apart.tail {x : Char × Mark} {marked : List (Char × Mark)} {b : Text}
    (apart : Apart (x :: marked) b) : Apart marked b := by
  have later : ∀ {y}, marked.getLast? = some y → (x :: marked).getLast? = some y := by
    intro y last
    rw [List.getLast?_cons, last]
    rfl
  exact ⟨fun last => apart.slash (later last), fun last => apart.quote (later last)⟩

/-- A text that ends in code may be read apart from what follows. -/
theorem scan_append {reach : Reach} {state : State} {a b : Text}
    (closes : after reach state a = .code) (apart : Apart (scan reach state a) b) :
    scan reach state (a ++ b) = scan reach state a ++ scan reach .code b ∧
      after reach state (a ++ b) = after reach .code b := by
  fun_induction after reach state a with
  | case1 => subst closes; simp [scan]
  | case2 rest ih | case17 rest ih =>
      simp only [scan] at apart ⊢
      obtain ⟨scanned, ended⟩ := ih closes apart.tail.tail.tail
      simp [scan, after, scanned, ended]
  | case3 rest ih | case4 rest ih | case10 rest ih =>
      simp only [scan] at apart ⊢
      obtain ⟨scanned, ended⟩ := ih closes apart.tail.tail
      simp [scan, after, scanned, ended]
  | case6 rest ih | case8 rest ih | case12 _ rest ih | case13 _ rest ih | case15 _ rest ih
  | case18 rest ih | case20 _ rest ih =>
      simp only [scan] at apart ⊢
      obtain ⟨scanned, ended⟩ := ih closes apart.tail
      simp [scan, after, scanned, ended]
  | case5 rest notBlock ih =>
      have notBlock' : ∀ rest', rest ++ b = '"' :: '"' :: rest' → False := by
        intro rest' shape
        match rest with
        | [] => simp [after] at closes
        | [d] =>
            simp only [List.cons_append, List.nil_append, List.cons.injEq] at shape
            obtain ⟨rfl, rfl⟩ := shape
            exact apart.quote (by simp [scan]) rfl
        | d :: e :: rest =>
            simp only [List.cons_append, List.cons.injEq] at shape
            exact notBlock rest (by rw [shape.1, shape.2.1])
      have opened : scan reach .code ('"' :: rest) =
          ('"', .opens) :: scan reach (.quoted .double) rest := by
        rw [scan]
        exact fun rest' shape => notBlock rest' shape
      rw [opened] at apart ⊢
      obtain ⟨scanned, ended⟩ := ih closes apart.tail
      rw [List.cons_append, scan, after, scanned, ended]
      · exact ⟨rfl, rfl⟩
      all_goals simp_all
  | case7 x rest notBlock notLine notComment notDouble notSingle ih =>
      have plain : scan reach .code (x :: rest) = (x, .code) :: scan reach .code rest := by
        rw [scan] <;> assumption
      have notLine' : ∀ rest', x = '/' → rest ++ b = '/' :: rest' → False := by
        rintro rest' rfl shape
        cases rest with
        | nil => exact (apart.slash (by simp [scan])).1 (by rw [← List.nil_append b, shape]; rfl)
        | cons d rest =>
            simp only [List.cons_append, List.cons.injEq] at shape
            exact notLine rest rfl (by rw [shape.1])
      have notComment' : ∀ rest', x = '/' → rest ++ b = '*' :: rest' → False := by
        rintro rest' rfl shape
        cases rest with
        | nil => exact (apart.slash (by simp [scan])).2 (by rw [← List.nil_append b, shape]; rfl)
        | cons d rest =>
            simp only [List.cons_append, List.cons.injEq] at shape
            exact notComment rest rfl (by rw [shape.1])
      rw [plain] at apart ⊢
      obtain ⟨scanned, ended⟩ := ih closes apart.tail
      rw [List.cons_append, scan, after, scanned, ended]
      · exact ⟨rfl, rfl⟩
      all_goals first | assumption | exact fun _ same _ => notDouble same
  | case9 _ _ _ ih | case14 _ _ _ _ _ ih | case16 _ _ _ _ ih =>
      rw [scan] at apart ⊢
      · obtain ⟨scanned, ended⟩ := ih closes apart.tail
        rw [List.cons_append, scan, after, scanned, ended]
        all_goals simp_all
      all_goals simp_all
  | case11 x rest notClose ih =>
      have notClose' : ∀ rest', x = '*' → rest ++ b = '/' :: rest' → False := by
        rintro rest' rfl shape
        cases rest with
        | nil => simp [after] at closes
        | cons d rest =>
            simp only [List.cons_append, List.cons.injEq] at shape
            exact notClose rest rfl (by rw [shape.1])
      have inside : scan reach .blockComment (x :: rest) =
          (x, .comment) :: scan reach .blockComment rest := by
        rw [scan]
        exact notClose
      rw [inside] at apart ⊢
      obtain ⟨scanned, ended⟩ := ih closes apart.tail
      rw [List.cons_append, scan, after, scanned, ended]
      · exact ⟨rfl, rfl⟩
      all_goals exact notClose'
  | case19 x rest notClose notBackslash ih =>
      have notClose' : ∀ rest', x = '"' → rest ++ b = '"' :: '"' :: rest' → False := by
        rintro rest' rfl shape
        match rest with
        | [] => simp [after] at closes
        | [d] =>
            simp only [List.cons_append, List.nil_append, List.cons.injEq] at shape
            obtain ⟨rfl, rfl⟩ := shape
            simp [after] at closes
        | d :: e :: rest =>
            simp only [List.cons_append, List.cons.injEq] at shape
            exact notClose rest rfl (by rw [shape.1, shape.2.1])
      have inside : scan reach .textBlock (x :: rest) =
          (x, .inside) :: scan reach .textBlock rest := by
        rw [scan]
        · exact notClose
        · exact notBackslash
      rw [inside] at apart ⊢
      obtain ⟨scanned, ended⟩ := ih closes apart.tail
      rw [List.cons_append, scan, after, scanned, ended]
      · exact ⟨rfl, rfl⟩
      all_goals assumption

end Rethrow.Lexical
