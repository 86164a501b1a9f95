import Rethrow.Proofs.Lexical.Joints
import Rethrow.Proofs.Lexical.Rows
import Rethrow.Proofs.Unit.Layout

/-!
# The tokens of a laid-out unit

Tokens are a lexing: a separator neither belongs to a word nor touches the marks of
comments and literals, so the tokens of two texts it keeps apart are the tokens of the one
followed by the tokens of the other.

`CompUnit.tokens_render` is what follows for units: the layout loses no token, swallows
none in a comment and glues no two together.
-/

namespace Rethrow

namespace Lexical

/-- A separator that ends a closed text is code. -/
theorem scan_separator {reach : Reach} {state : State} {c : Char}
    (separator : isSeparator c = true) (closes : after reach state [c] = .code) :
    scan reach state [c] = [(c, .code)] := by
  obtain ⟨clear, noQuote, -⟩ := separator_cases separator
  by_cases feed : c = '\n'
  · subst feed
    cases state <;> cases reach <;> simp_all [scan, after]
  · cases state with
    | code => exact (scan_code_cons clear noQuote reach []).1
    | quoted quote =>
        have other : c ≠ quote.char := by cases quote <;> simp_all [Quote.char, Clear]
        by_cases backslash : c = '\\' <;> simp_all [after]
    | textBlock => by_cases backslash : c = '\\' <;> simp_all [after]
    | lineComment | blockComment | escaped | blockEscaped => simp_all [after]

/-- A token that is pending at a joint does not grow behind it. -/
theorem complete_joint {a b : Text} (closed : Closed .line a) (joint : Joint a b) :
    words.complete (words.carried .none (scan .line .code a)) (scan .line .code b) =
      words.flush (words.carried .none (scan .line .code a)) ++ tokens b := by
  rcases joint with rfl | rfl | ⟨c, last, separator⟩ | ⟨c, head, separator⟩
  · rfl
  · simp [scan, tokens]
  · obtain ⟨clear, -, noWord⟩ := separator_cases separator
    obtain ⟨init, rfl⟩ := List.getLast?_eq_some_iff.mp last
    obtain ⟨scanned, ended⟩ := scan_append_cons clear .line .code init []
    rw [Closed, ended] at closed
    rw [scanned, scan_separator separator closed, Grouping.carried, List.foldl_append,
      List.foldl_cons, List.foldl_nil, words_take, Pending.take_code noWord]
    rfl
  · obtain ⟨clear, noQuote, noWord⟩ := separator_cases separator
    obtain ⟨rest, rfl⟩ : ∃ rest, b = c :: rest := by
      cases b with
      | nil => simp at head
      | cons d rest => exact ⟨rest, by simp_all⟩
    rw [tokens, (scan_code_cons clear noQuote .line rest).1, Grouping.complete_cons,
      Grouping.complete_cons, words_take, Pending.take_code noWord, Pending.take_code noWord]
    simp

/-- Texts that a separator keeps apart are lexed apart. -/
theorem tokens_append {a b : Text} (closed : Closed .line a) (joint : Joint a b) :
    tokens (a ++ b) = tokens a ++ tokens b := by
  rw [tokens, (scan_joint closed joint).1, Grouping.complete_append, complete_joint closed joint,
    ← List.append_assoc]
  rfl

theorem return_not_mem_rows {t : Text} (depth : Nat) (plain : '\r' ∉ t) :
    '\r' ∉ Row.renderAll (Row.ofText depth t) :=
  not_mem_rowsFrom (by decide) (by decide) depth .code
    fun _ isLine found => plain (Text.mem_of_mem_lines isLine found)

end Lexical

/-- The lexing of tokens, for texts without carriage returns. -/
def Lexical.tokenLexing : Lexing Text where
  out := tokens
  Closed t := Closed .line t ∧ '\r' ∉ t
  Loose t := Loose .line t ∧ '\r' ∉ t
  loose_of_closed closed := ⟨.inl closed.1, closed.2⟩
  out_append closed joint := tokens_append closed.1 joint
  closed_append left joint right :=
    ⟨(scan_joint left.1 joint).2.trans right.1, by simp [left.2, right.2]⟩
  loose_append left joint right := by
    refine ⟨?_, by simp [left.2, right.2]⟩
    rw [Lexical.Loose, (scan_joint left.1 joint).2]
    exact right.1
  out_newline loose := tokens_feed loose.1
  closed_newline loose := ⟨closed_feed loose.1, by simp [loose.2]⟩
  closed_of_loose loose complete := ⟨closed_of_loose loose.1 complete, loose.2⟩
  closed_plain plain := by
    refine ⟨closed_plain .line plain, fun found => ?_⟩
    exact (unmarked_cases (List.all_eq_true.mp plain _ found)).2.2 rfl
  out_space := by decide
  out_rows depth loose := tokens_ofText depth loose.2 loose.1
  closed_rows depth loose :=
    ⟨closed_ofText depth loose.2 loose.1, return_not_mem_rows depth loose.2⟩

/-- The layout loses, swallows and glues nothing. Where no fragment holds a carriage return,
every fragment is closed or, where the layout allows it, ends in a line comment, and
parameter lists and dimensions start with their brackets, the tokens of a unit's text are
the tokens of its pieces, in the order of the document. -/
theorem CompUnit.tokens_render (unit : CompUnit)
    (plain : ∀ piece ∈ unit.pieces, '\r' ∉ piece.text)
    (closed : ∀ piece ∈ unit.pieces,
      if piece.loose then Lexical.Loose .line piece.text else Lexical.Closed .line piece.text)
    (bracketed : ∀ decl ∈ unit.types, ∀ m ∈ decl.members, m.Bracketed) :
    Lexical.tokens unit.render = unit.pieces.flatMap fun piece => Lexical.tokens piece.text := by
  have fits : ∀ piece ∈ unit.pieces, Lexical.tokenLexing.Fits piece := by
    intro piece listed
    have ended := closed piece listed
    unfold Lexing.Fits Lexing.Ends
    split <;> rename_i shape <;> simp only [shape] at ended
    · exact ⟨ended, plain piece listed⟩
    · exact ⟨ended, plain piece listed⟩
  exact unit.out_render
    (fun decl listed => bracketed decl ((CompUnit.mem_types unit decl).mpr listed)) fits

/-- A unit whose fragments end in line comments wherever the layout allows it. -/
def CompUnit.commented : CompUnit where
  items := [
    .importDecl "import a.B; // one".toList,
    .typeDecl {
      modifiers := { annotations := ["@C(\"//\")".toList], keywords := ["public".toList] }
      keyword := "class // kind".toList
      name := "A".toList
      header := "<T> extends B // base".toList
      members := [
        .field "String s = \"\"\"\n  /* \\\"\"\"\n\"\"\";".toList,
        .procedure {
          returnType := "int // result".toList
          name := "m".toList
          parameters := "(char b /* ' */)".toList
          dimensions := "[]".toList
          throws := ["E".toList, "F".toList]
          body := some [
            .guarded [.verbatim "b = '\"'; // last".toList]
              [.clause ["E".toList, "F".toList] "e".toList
                [.throw (.create "G".toList [.string "//".toList, .name "e".toList])]]
              (some [])] }] }]

set_option maxRecDepth 100000 in
theorem CompUnit.tokens_render_commented :
    Lexical.tokens CompUnit.commented.render =
      CompUnit.commented.pieces.flatMap fun piece => Lexical.tokens piece.text :=
  CompUnit.commented.tokens_render (by decide +kernel) (by decide +kernel) (by decide +kernel)

end Rethrow
