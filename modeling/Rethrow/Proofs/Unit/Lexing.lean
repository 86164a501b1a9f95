import Mathlib.Data.List.Forall2
import Rethrow.Proofs.Unit.Pieces
import Rethrow.Text.Word

/-!
# Reading a laid-out unit piece by piece

A `Lexing` reads a list of things off a text, tokens or comments for instance, and knows
which texts leave nothing open. Its laws say that texts may be read apart where one of the
signs of the layout stands between them, and that laying a text out in rows changes
nothing of what is read.

`CompUnit.out_render` is what follows for every lexing: the text of a unit is read as the
pieces of the unit, one after the other.
-/

namespace Rethrow

/-- The characters with which the layout keeps its pieces apart. -/
def isSeparator (c : Char) : Bool :=
  [' ', '\n', '(', ')', '[', ']', '{', '}', ';', ',', '|', '@', '<'].contains c

/-- A character of the words and signs that the layout writes itself. -/
def isUnmarked (c : Char) : Bool :=
  Text.isWordPart c || isSeparator c

/-- Two texts that a separator keeps apart, or one of which is empty. -/
def Joint (a b : Text) : Prop :=
  a = [] ∨ b = [] ∨ (∃ c, a.getLast? = some c ∧ isSeparator c = true) ∨
    ∃ c, b.head? = some c ∧ isSeparator c = true

theorem joint_cons {a b : Text} {c : Char} (separator : isSeparator c = true) :
    Joint a (c :: b) :=
  .inr (.inr (.inr ⟨c, rfl, separator⟩))

theorem joint_concat {a b : Text} {c : Char} (separator : isSeparator c = true) :
    Joint (a ++ [c]) b :=
  .inr (.inr (.inl ⟨c, by simp, separator⟩))

theorem joint_of_head? {a b : Text} {c : Char} (head : b.head? = some c)
    (separator : isSeparator c = true) : Joint a b :=
  .inr (.inr (.inr ⟨c, head, separator⟩))

/-- Texts that each end with a separator are kept apart from all that follows. -/
theorem joint_flatMap {β : Type} {f : β → Text} {c : Char} (separator : isSeparator c = true)
    (ended : ∀ x, ∃ a, f x = a ++ [c]) (xs : List β) (t : Text) : Joint (xs.flatMap f) t := by
  rcases List.eq_nil_or_concat xs with rfl | ⟨init, x, rfl⟩
  · exact .inl rfl
  · obtain ⟨a, shape⟩ := ended x
    have text : (init ++ [x]).flatMap f = (init.flatMap f ++ a) ++ [c] := by
      simp [shape]
    rw [List.concat_eq_append, text]
    exact joint_concat separator

/-- A reading of texts that goes piece by piece. -/
structure Lexing (α : Type) where
  /-- What is read off a text that starts in code. -/
  out : Text → List α
  /-- A text that leaves nothing open. -/
  Closed : Text → Prop
  /-- A text that leaves at most a line comment open. -/
  Loose : Text → Prop
  loose_of_closed : ∀ {t}, Closed t → Loose t
  out_append : ∀ {a b}, Closed a → Joint a b → out (a ++ b) = out a ++ out b
  closed_append : ∀ {a b}, Closed a → Joint a b → Closed b → Closed (a ++ b)
  loose_append : ∀ {a b}, Closed a → Joint a b → Loose b → Loose (a ++ b)
  out_newline : ∀ {t}, Loose t → out (t ++ ['\n']) = out t
  closed_newline : ∀ {t}, Loose t → Closed (t ++ ['\n'])
  /-- A line comment that is left open can be seen on the last line. -/
  closed_of_loose : ∀ {t}, Loose t → Layout.mayEndInComment t = false → Closed t
  closed_plain : ∀ {t : Text}, t.all isUnmarked = true → Closed t
  out_space : out [' '] = []
  out_rows : ∀ {t} depth, Loose t → out (Row.renderAll (Row.ofText depth t)) = out t
  closed_rows : ∀ {t} depth, Loose t → Closed (Row.renderAll (Row.ofText depth t))

namespace Lexing

variable {α : Type} (L : Lexing α)

/-- A text that leaves nothing open, or, where `loose`, at most a line comment. -/
def Ends (loose : Bool) (t : Text) : Prop :=
  if loose then L.Loose t else L.Closed t

/-- Whether a piece leaves nothing open that would reach the next piece. -/
def Fits (piece : Piece) : Prop :=
  L.Ends piece.loose piece.text

/-- What is read off some pieces, one after the other. -/
def outAll (pieces : List Piece) : List α :=
  pieces.flatMap fun piece => L.out piece.text

@[simp] theorem outAll_nil : L.outAll [] = [] := rfl

@[simp] theorem outAll_cons (piece : Piece) (rest : List Piece) :
    L.outAll (piece :: rest) = L.out piece.text ++ L.outAll rest := rfl

@[simp] theorem outAll_append (a b : List Piece) :
    L.outAll (a ++ b) = L.outAll a ++ L.outAll b := by
  simp [outAll]

/-- A text that is read as some pieces, and what it may leave open. -/
structure Spells (loose : Bool) (t : Text) (pieces : List Piece) : Prop where
  ends : L.Ends loose t
  out : L.out t = L.outAll pieces

theorem spells_nil : L.Spells false [] [] := by
  have closed : L.Closed [] := L.closed_plain rfl
  refine ⟨closed, ?_⟩
  have doubled := L.out_append closed (b := []) (.inl rfl)
  simpa using doubled

theorem spells_space : L.Spells false [' '] [] :=
  ⟨L.closed_plain (by decide), L.out_space⟩

theorem spells_fixed (spelling : String)
    (plain : spelling.toList.all isUnmarked = true) :
    L.Spells false spelling.toList [Piece.fixed spelling] :=
  ⟨L.closed_plain plain, by simp [Piece.fixed]⟩

variable {L}

theorem Fits.spells {piece : Piece} (fits : L.Fits piece) :
    L.Spells piece.loose piece.text [piece] :=
  ⟨fits, by simp⟩

namespace Spells

theorem loosely {loose : Bool} {t : Text} {pieces : List Piece}
    (spells : L.Spells loose t pieces) : L.Spells true t pieces := by
  cases loose with
  | true => exact spells
  | false => exact ⟨L.loose_of_closed spells.ends, spells.out⟩

/-- A piece without text may stand anywhere. -/
theorem insert {loose : Bool} {t : Text} {ps qs : List Piece} {piece : Piece}
    (empty : piece.text = []) (spells : L.Spells loose t (ps ++ qs)) :
    L.Spells loose t (ps ++ piece :: qs) := by
  refine ⟨spells.ends, ?_⟩
  have nothing : L.out [] = [] := L.spells_nil.out
  rw [spells.out, L.outAll_append, L.outAll_append, L.outAll_cons, empty, nothing, List.nil_append]

/-- A separator keeps what is spelled on either side of it apart. -/
theorem append {loose : Bool} {a b : Text} {ps qs : List Piece} (left : L.Spells false a ps)
    (right : L.Spells loose b qs) (joint : Joint a b) : L.Spells loose (a ++ b) (ps ++ qs) := by
  refine ⟨?_, by rw [L.out_append left.ends joint, left.out, right.out, L.outAll_append]⟩
  cases loose with
  | true => exact L.loose_append left.ends joint right.ends
  | false => exact L.closed_append left.ends joint right.ends

/-- A line feed ends a line comment that is left open. -/
theorem newline {loose : Bool} {t : Text} {pieces : List Piece}
    (spells : L.Spells loose t pieces) : L.Spells false (t ++ ['\n']) pieces :=
  ⟨L.closed_newline spells.loosely.ends, by
    rw [L.out_newline spells.loosely.ends, spells.out]⟩

/-- A token is appended so that it is read as one, whatever the text so far ends in. -/
theorem pushToken {lead loose : Bool} {t separator token : Text} {ps qs : List Piece}
    (left : L.Spells lead t ps) (right : L.Spells loose token qs)
    (apart : separator = [' '] ∨
      separator = [] ∧ ∃ c, token.head? = some c ∧ isSeparator c = true) :
    L.Spells loose (Layout.pushToken t separator token) (ps ++ qs) := by
  unfold Layout.pushToken
  split
  · exact left.newline.append right (joint_concat (by decide))
  · rename_i complete
    have closed : L.Spells false t ps :=
      ⟨L.closed_of_loose left.loosely.ends (by simpa using complete), left.out⟩
    rcases apart with rfl | ⟨rfl, c, head, separates⟩
    · have spaced := closed.append L.spells_space (joint_cons (by decide))
      rw [List.append_nil] at spaced
      exact spaced.append right (joint_concat (by decide))
    · rw [List.append_nil]
      exact closed.append right (joint_of_head? head separates)

/-- Texts that are joined with a mark are read with its sign between them. -/
theorem joinWith {mark : Text} {sign : String} {texts : List Text} {lists : List (List Piece)}
    (spelled : L.Spells false mark [Piece.fixed sign])
    (before : ∀ t, Joint t mark) (behind : ∀ t u, Joint (t ++ mark) u)
    (each : List.Forall₂ (L.Spells false) texts lists) :
    L.Spells false (Text.joinWith mark texts) (Piece.separated sign lists) := by
  unfold Text.joinWith Piece.separated
  induction each with
  | nil => exact L.spells_nil
  | @cons t ps texts lists first rest ih =>
      cases rest with
      | nil => simpa using first
      | @cons t' ps' texts' lists' _ _ =>
          rw [List.intercalate_cons_cons, List.intercalate_cons_cons]
          exact (first.append spelled (before t)).append ih (behind t _)

end Spells

/-! ## Rows -/

/-- Every row ends with a line feed, so rows are kept apart from all that follows. -/
theorem joint_renderAll (rows : List Row) (t : Text) : Joint (Row.renderAll rows) t := by
  refine joint_flatMap (c := '\n') (by decide) (fun row => ?_) rows t
  unfold Row.render
  split
  · exact ⟨_, rfl⟩
  · split
    · exact ⟨[], rfl⟩
    · exact ⟨_, rfl⟩

variable (L)

/-- Rows that are read as some pieces. -/
def SpellsRows (rows : List Row) (pieces : List Piece) : Prop :=
  L.Spells false (Row.renderAll rows) pieces

theorem spellsRows_nil : L.SpellsRows [] [] :=
  L.spells_nil

theorem spells_indent (depth : Nat) : L.Spells false (Row.indent depth) [] := by
  have spaces : ∀ n, L.Spells false (List.replicate n ' ') [] := by
    intro n
    induction n with
    | zero => exact L.spells_nil
    | succ n ih => exact L.spells_space.append ih (joint_concat (a := []) (by decide))
  exact spaces (4 * depth)

variable {L}

theorem SpellsRows.append {upper lower : List Row} {ps qs : List Piece}
    (above : L.SpellsRows upper ps) (below : L.SpellsRows lower qs) :
    L.SpellsRows (upper ++ lower) (ps ++ qs) := by
  unfold SpellsRows
  rw [Row.renderAll, List.flatMap_append]
  exact Spells.append above below (joint_renderAll upper _)

/-- A fragment is read the same when it is laid out in rows. -/
theorem Spells.ofText {loose : Bool} {t : Text} {ps : List Piece} (spells : L.Spells loose t ps)
    (depth : Nat) : L.SpellsRows (Row.ofText depth t) ps :=
  ⟨L.closed_rows depth spells.loosely.ends, by
    rw [L.out_rows depth spells.loosely.ends, spells.out]⟩

theorem Fits.ofText {piece : Piece} (fits : L.Fits piece) (depth : Nat) :
    L.SpellsRows (Row.ofText depth piece.text) [piece] :=
  fits.spells.ofText depth

theorem Spells.atDepth {loose : Bool} {t : Text} {ps : List Piece} (spells : L.Spells loose t ps)
    (depth : Nat) : L.SpellsRows [Row.atDepth depth t] ps := by
  have ended := spells.newline
  unfold SpellsRows Row.renderAll
  rw [List.flatMap_singleton, Row.render, Row.atDepth]
  dsimp only
  split
  · rename_i empty
    rw [List.isEmpty_iff] at empty
    subst empty
    exact ended
  · have joint : Joint (Row.indent depth) (t ++ ['\n']) := by
      rcases Nat.eq_zero_or_pos depth with rfl | deep
      · exact .inl rfl
      · refine .inr (.inr (.inl ⟨' ', ?_, by decide⟩))
        simp [Row.indent, List.getLast?_replicate]
        omega
    rw [List.append_assoc]
    exact (L.spells_indent depth).append ended joint

theorem spellsRows_blank : L.SpellsRows [Row.blank] [] :=
  Spells.atDepth L.spells_nil 0

end Lexing

end Rethrow
