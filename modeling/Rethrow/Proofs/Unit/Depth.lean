import Rethrow.Proofs.Lexical.Comments
import Rethrow.Proofs.Lexical.Reindent
import Rethrow.Proofs.Wrapper.Message

/-!
# Statements at another depth

Laid out one level deeper, statements are written in the same lines, with four spaces more in
front of those that have a depth of their own. An empty line has none, and neither has a line
that starts inside a text block or one that goes on with the header of a catch clause: their
fragment decides on what stands in front of them.

A wrapped method differs from the method as it was in this way: the lines in front of its body
stay, the body is shifted into the handler, and the lines of the handler come around it.
-/

namespace Rethrow

open Fragment

/-- The lines of one text are shifted into those of another. There is a mark for each line; the
lines that are marked as fixed stay, empty ones too, and four spaces are put in front of all
others. -/
def Shifted (fixed : List Bool) (shallow deep : Text) : Prop :=
  ∃ ls : List Text, (∀ line ∈ ls, '\n' ∉ line) ∧ ls.length = fixed.length ∧
    shallow = Text.unlines ls ∧ deep = Text.unlines (ls.zipWith (layLine 1) fixed)

theorem shifted_nil : Shifted [] [] [] :=
  ⟨[], by simp, rfl, rfl, rfl⟩

theorem Shifted.append {fixed later : List Bool} {upper lower upperDeep lowerDeep : Text}
    (first : Shifted fixed upper upperDeep) (second : Shifted later lower lowerDeep) :
    Shifted (fixed ++ later) (upper ++ lower) (upperDeep ++ lowerDeep) := by
  obtain ⟨ls, free, marked, rfl, rfl⟩ := first
  obtain ⟨more, moreFree, moreMarked, rfl, rfl⟩ := second
  refine ⟨ls ++ more, ?_, by simp [marked, moreMarked], ?_, ?_⟩
  · exact List.forall_mem_append.mpr ⟨free, moreFree⟩
  · exact List.flatMap_append.symm
  · rw [List.zipWith_append marked]
    exact List.flatMap_append.symm

/-! ## Rows -/

theorem Row.renderAll_nil : Row.renderAll [] = [] := rfl

theorem Row.renderAll_append (rows more : List Row) :
    Row.renderAll (rows ++ more) = Row.renderAll rows ++ Row.renderAll more :=
  List.flatMap_append

theorem Row.renderAll_cons (row : Row) (more : List Row) :
    Row.renderAll (row :: more) = row.render ++ Row.renderAll more :=
  List.flatMap_cons

theorem Row.render_atDepth (depth : Nat) {text : Text} (some : text ≠ []) :
    (Row.atDepth depth text).render = Row.indent depth ++ text ++ ['\n'] := by
  simp [Row.render, Row.atDepth, some]

theorem layLine_layLine (depth : Nat) (line : Text) (raw : Bool) :
    layLine 1 (layLine depth line raw) raw = layLine (depth + 1) line raw := by
  unfold layLine
  by_cases stays : raw = true ∨ line = []
  · simp [stays]
  · have shown : ¬(raw = true ∨ Row.indent depth ++ line = []) := by simp_all
    rw [if_neg stays, if_neg shown, if_neg stays, ← List.append_assoc]
    simp only [Row.indent, List.replicate_append_replicate]
    congr 2
    omega

/-- The rows of a fragment. -/
theorem shifted_ofText (depth : Nat) (t : Text) :
    Shifted (textBlockLines t) (Row.renderAll (Row.ofText depth t))
      (Row.renderAll (Row.ofText (depth + 1) t)) := by
  refine ⟨(Text.lines t).zipWith (layLine depth) (textBlockLines t), ?_, ?_,
    renderAll_ofText depth t, ?_⟩
  · intro changed listed feed
    obtain ⟨line, isLine, raw, rfl⟩ := mem_zipWith listed
    exact Text.not_mem_of_mem_lines isLine (mem_of_mem_layLine (by decide) feed)
  · simp [textBlockLines, length_flagLines]
  · rw [renderAll_ofText, zipWith_zipWith]
    simp only [layLine_layLine]

theorem shifted_line {line : Text} (free : '\n' ∉ line) (fixed : Bool) :
    Shifted [fixed] (line ++ ['\n']) (layLine 1 line fixed ++ ['\n']) :=
  ⟨[line], by simpa using free, rfl, by simp, by simp⟩

/-- Lines that all stay. -/
theorem shifted_fixed (t : Text) :
    Shifted (List.replicate (t.count '\n' + 1) true) (t ++ ['\n']) (t ++ ['\n']) := by
  induction t using Text.byLines with
  | last line free =>
      rw [List.count_eq_zero_of_not_mem free]
      exact shifted_line free true
  | more line rest free ih =>
      have marks : (line ++ '\n' :: rest).count '\n' = rest.count '\n' + 1 := by
        simp [List.count_append, List.count_eq_zero_of_not_mem free]
      have parts : line ++ '\n' :: rest ++ ['\n'] = (line ++ ['\n']) ++ (rest ++ ['\n']) := by simp
      rw [marks, List.replicate_succ, parts]
      exact (shifted_line free true).append ih

/-- A line with the spaces of its depth in front of it. -/
theorem shifted_indent (depth : Nat) {line : Text} (free : '\n' ∉ line) (some : line ≠ []) :
    Shifted [false] (Row.indent depth ++ line ++ ['\n'])
      (Row.indent (depth + 1) ++ line ++ ['\n']) := by
  have free' : '\n' ∉ Row.indent depth ++ line := by simp [Row.indent, free]
  have deeper := layLine_layLine depth line false
  simp only [layLine, some, or_self, Bool.false_eq_true, if_false] at deeper
  rw [← deeper]
  simpa [layLine, some] using shifted_line free' false

/-- The marks of a text that is written in a row of its own: what follows its first line feed
stays. -/
def headerMarks (text : Text) : List Bool :=
  false :: List.replicate (text.count '\n') true

/-- A text in a row of its own, line feeds and all. -/
theorem shifted_atDepth (depth : Nat) (text : Text) {c : Char} (starts : text.head? = some c)
    (feed : c ≠ '\n') :
    Shifted (headerMarks text) (Row.atDepth depth text).render
      (Row.atDepth (depth + 1) text).render := by
  have some : text ≠ [] := by
    rintro rfl
    simp at starts
  rw [Row.render_atDepth depth some, Row.render_atDepth (depth + 1) some]
  -- The spaces of a row stand in front of its first line only, which `starts` keeps from being
  -- empty.
  cases text using Text.byLines with
  | last line free =>
      rw [headerMarks, List.count_eq_zero_of_not_mem free]
      exact shifted_indent depth free some
  | more line rest free =>
      have shown : line ≠ [] := by
        rintro rfl
        exact feed (by simpa using starts.symm)
      have marks : headerMarks (line ++ '\n' :: rest) =
          [false] ++ List.replicate (rest.count '\n' + 1) true := by
        simp [headerMarks, List.count_append, List.count_eq_zero_of_not_mem free]
      have parts (depth : Nat) : Row.indent depth ++ (line ++ '\n' :: rest) ++ ['\n'] =
          (Row.indent depth ++ line ++ ['\n']) ++ (rest ++ ['\n']) := by simp
      rw [marks, parts, parts]
      exact (shifted_indent depth free shown).append (shifted_fixed rest)

/-! ## Statements -/

mutual

/-- The marks of the lines of a statement. -/
def Stmt.fixedLines : Stmt → List Bool
  | .comment text => textBlockLines text
  | .delegate text => textBlockLines text
  | .verbatim text => textBlockLines text
  | .throw value => textBlockLines ("throw ".toList ++ Expr.render value ++ [';'])
  | .guarded body catches finish =>
    false :: Stmt.fixedLinesAll body ++ Catch.fixedLinesAll catches ++
      Stmt.fixedLinesFinish finish ++ [false]

/-- The marks of the lines of statements. -/
def Stmt.fixedLinesAll : List Stmt → List Bool
  | [] => []
  | s :: rest => Stmt.fixedLines s ++ Stmt.fixedLinesAll rest

/-- The marks of the lines of a finally block, its closing brace apart. -/
def Stmt.fixedLinesFinish : Option (List Stmt) → List Bool
  | none => []
  | some body => false :: Stmt.fixedLinesAll body

/-- The marks of the lines of catch clauses, the closing brace of the last apart. -/
def Catch.fixedLinesAll : List Catch → List Bool
  | [] => []
  | .clause types binder body :: rest =>
    headerMarks (Layout.catchHeader types binder) ++ Stmt.fixedLinesAll body ++
      Catch.fixedLinesAll rest

end

mutual

/-- A statement is shifted as a whole, at every depth. -/
theorem Stmt.shifted_rows (depth : Nat) : ∀ s : Stmt,
    Shifted s.fixedLines (Row.renderAll (s.rows depth)) (Row.renderAll (s.rows (depth + 1)))
  | .comment text => shifted_ofText depth text
  | .delegate text => shifted_ofText depth text
  | .verbatim text => shifted_ofText depth text
  | .throw value => shifted_ofText depth ("throw ".toList ++ Expr.render value ++ [';'])
  | .guarded body catches finish => by
      have opened : Shifted [false] _ _ := shifted_atDepth depth "try \x7b".toList rfl (by decide)
      have inner := Stmt.shifted_rowsList (depth + 1) body
      have caught := Catch.shifted_rowsList depth catches
      have last := Stmt.shifted_rowsFinish depth finish
      have closed : Shifted [false] _ _ := shifted_atDepth depth ['}'] rfl (by decide)
      simp only [Stmt.rows, Stmt.fixedLines, Row.renderAll_append, Row.renderAll_cons,
        Row.renderAll_nil, List.append_nil]
      exact (((opened.append inner).append caught).append last).append closed

theorem Stmt.shifted_rowsList (depth : Nat) : ∀ body : List Stmt,
    Shifted (Stmt.fixedLinesAll body) (Row.renderAll (Stmt.rowsList depth body))
      (Row.renderAll (Stmt.rowsList (depth + 1) body))
  | [] => shifted_nil
  | s :: rest => by
      simp only [Stmt.rowsList, Stmt.fixedLinesAll, Row.renderAll_append]
      exact (Stmt.shifted_rows depth s).append (Stmt.shifted_rowsList depth rest)

theorem Stmt.shifted_rowsFinish (depth : Nat) : ∀ finish : Option (List Stmt),
    Shifted (Stmt.fixedLinesFinish finish) (Row.renderAll (Stmt.rowsFinish depth finish))
      (Row.renderAll (Stmt.rowsFinish (depth + 1) finish))
  | none => shifted_nil
  | some body => by
      have opened : Shifted [false] _ _ :=
        shifted_atDepth depth "\x7d finally \x7b".toList rfl (by decide)
      simp only [Stmt.rowsFinish, Row.renderAll_cons]
      exact opened.append (Stmt.shifted_rowsList (depth + 1) body)

theorem Catch.shifted_rowsList (depth : Nat) : ∀ catches : List Catch,
    Shifted (Catch.fixedLinesAll catches) (Row.renderAll (Catch.rowsList depth catches))
      (Row.renderAll (Catch.rowsList (depth + 1) catches))
  | [] => shifted_nil
  | .clause types binder body :: rest => by
      have opened := shifted_atDepth depth (Layout.catchHeader types binder) rfl (by decide)
      have inner := Stmt.shifted_rowsList (depth + 1) body
      have others := Catch.shifted_rowsList depth rest
      simp only [Catch.rowsList, Catch.fixedLinesAll, Row.renderAll_append, Row.renderAll_cons]
      exact (opened.append inner).append others

end

/-! ## Wrapped methods -/

/-- What is written of a method in front of its body. -/
def Procedure.opening (depth : Nat) (p : Procedure) : Text :=
  Row.renderAll (Layout.docRows depth p.doc ++ Layout.annotationRows depth p.modifiers ++
    Row.ofText depth (Layout.pushToken p.signature [' '] ['{']))

/-- The lines that come behind a body that is wrapped at this depth. -/
def Wrapper.handlerLines (depth : Nat) (options : Options) : Text :=
  Row.indent depth ++ "\x7d catch (Exception e) \x7b\n".toList ++
    Row.renderAll (Row.ofText (depth + 1) (Wrapper.rethrowLine options)) ++
      Row.indent depth ++ "\x7d\n".toList

theorem Procedure.renderAll_rows (depth : Nat) {p : Procedure} {body : List Stmt}
    (present : p.body = some body) :
    Row.renderAll (p.rows depth) =
      p.opening depth ++ Row.renderAll (Stmt.rowsList (depth + 1) body) ++
        Row.indent depth ++ "\x7d\n".toList := by
  have closing : (Row.atDepth depth ['}']).render = Row.indent depth ++ "\x7d\n".toList := by
    simp [Row.render_atDepth]
  simp only [Procedure.rows, present, Layout.blockRows, Procedure.opening, Row.renderAll_append,
    Row.renderAll_cons, Row.renderAll_nil, List.append_nil, closing, List.append_assoc]

theorem Wrapper.rows_rethrow_ofText (depth : Nat) (options : Options) :
    (Wrapper.rethrow options).rows depth = Row.ofText depth (Wrapper.rethrowLine options) := by
  rw [Wrapper.rethrowLine_eq]
  rfl

theorem Wrapper.renderAll_handler (depth : Nat) (options : Options) (body : List Stmt) :
    Row.renderAll (Stmt.rowsList depth [Wrapper.handler options body]) =
      Row.indent depth ++ "try \x7b\n".toList ++ Row.renderAll (Stmt.rowsList (depth + 1) body) ++
        Wrapper.handlerLines depth options := by
  have laid : Stmt.rowsList depth [Wrapper.handler options body] =
      Row.atDepth depth "try \x7b".toList :: Stmt.rowsList (depth + 1) body ++
        (Row.atDepth depth "\x7d catch (Exception e) \x7b".toList ::
          ((Wrapper.rethrow options).rows (depth + 1) ++ []) ++ []) ++ [] ++
        [Row.atDepth depth ['}']] ++ [] := rfl
  have tried : "try \x7b\n".toList = "try \x7b".toList ++ ['\n'] := rfl
  have caught : "\x7d catch (Exception e) \x7b\n".toList =
      "\x7d catch (Exception e) \x7b".toList ++ ['\n'] := rfl
  have closed : "\x7d\n".toList = ['}'] ++ ['\n'] := rfl
  rw [laid, Wrapper.rows_rethrow_ofText, Wrapper.handlerLines, tried, caught, closed]
  simp only [Row.renderAll_append, Row.renderAll_cons, Row.renderAll_nil, List.append_nil]
  rw [Row.render_atDepth depth (by decide), Row.render_atDepth depth (by decide),
    Row.render_atDepth depth (by decide)]
  simp only [List.append_assoc]

/-- Wrapping only shifts the body. Statements laid out one level deeper are written in the same
lines, shifted. A method that has a body and is not native is written, when wrapped, with the
lines that it had in front of its body, then with those of its body shifted between the two ends
of a handler. -/
theorem wrapping_shifts_body :
    (∀ (body : List Stmt) (depth : Nat),
      Shifted (Stmt.fixedLinesAll body) (Row.renderAll (Stmt.rowsList depth body))
        (Row.renderAll (Stmt.rowsList (depth + 1) body))) ∧
    ∀ (options : Options) (p : Procedure) (body : List Stmt) (depth : Nat),
      p.body = some body → p.modifiers.isNative = false →
      ∃ lines shifted, Shifted (Stmt.fixedLinesAll body) lines shifted ∧
        Row.renderAll (p.rows depth) =
          p.opening depth ++ lines ++ Row.indent depth ++ "\x7d\n".toList ∧
        Row.renderAll ((p.wrap options).rows depth) =
          p.opening depth ++ Row.indent (depth + 1) ++ "try \x7b\n".toList ++ shifted ++
            Wrapper.handlerLines (depth + 1) options ++ Row.indent depth ++ "\x7d\n".toList := by
  refine ⟨fun body depth => Stmt.shifted_rowsList depth body, ?_⟩
  intro options p body depth present own
  have wrapped : (p.wrap options).body = some [Wrapper.handler options body] := by
    simp [Procedure.wrap, own, present]
  have opening : (p.wrap options).opening depth = p.opening depth := by
    simp [Procedure.wrap, own, Procedure.opening, Procedure.signature]
  refine ⟨_, _, Stmt.shifted_rowsList (depth + 1) body, Procedure.renderAll_rows depth present, ?_⟩
  rw [Procedure.renderAll_rows depth wrapped, opening, Wrapper.renderAll_handler]
  simp only [List.append_assoc]

/-- A method whose body holds an empty line, a text block and a catch clause with a line break
in its header. -/
def Procedure.folded : Procedure where
  modifiers := { keywords := ["public".toList] }
  returnType := "String".toList
  name := "page".toList
  parameters := "()".toList
  throws := ["IOException".toList]
  body := some
    [.guarded
      [.verbatim "open();\n\nreturn \"\"\"\n<p>\n  x\"\"\";".toList]
      [.clause ["A |\n    B".toList] "e".toList [.comment "// closed".toList]] none]

theorem wrapping_shifts_body_folded :
    ∃ body, Procedure.folded.body = some body ∧ Procedure.folded.modifiers.isNative = false ∧
      Stmt.fixedLinesAll body =
        [false, false, false, false, true, true, false, true, false, false] ∧
      ∃ lines shifted, Shifted (Stmt.fixedLinesAll body) lines shifted ∧
        Row.renderAll (Procedure.folded.rows 0) =
          Procedure.folded.opening 0 ++ lines ++ Row.indent 0 ++ "\x7d\n".toList ∧
        Row.renderAll ((Procedure.folded.wrap {}).rows 0) =
          Procedure.folded.opening 0 ++ Row.indent 1 ++ "try \x7b\n".toList ++ shifted ++
            Wrapper.handlerLines 1 {} ++ Row.indent 0 ++ "\x7d\n".toList :=
  ⟨_, rfl, by decide +kernel, by decide +kernel,
    wrapping_shifts_body.2 {} Procedure.folded _ 0 rfl (by decide +kernel)⟩

end Rethrow
