import Rethrow.Text.Lines

/-!
# Texts line by line

A text is either one line without a line feed, or such a line, a line feed and a further
text. `byLines` turns this into an induction, and the equations for `lines` follow the
same two cases.
-/

namespace Rethrow.Text

/-- Induction over the lines of a text. -/
theorem byLines {motive : Text → Prop} (last : ∀ line, '\n' ∉ line → motive line)
    (more : ∀ line rest, '\n' ∉ line → motive rest → motive (line ++ '\n' :: rest))
    (t : Text) : motive t := by
  -- The line read so far is generalised, so that the text is taken apart from the left.
  suffices all : ∀ line : Text, '\n' ∉ line → motive (line ++ t) by
    simpa using all [] (by simp)
  induction t with
  | nil => simpa using last
  | cons c rest ih =>
      intro line free
      by_cases feed : c = '\n'
      · subst feed
        exact more line rest free (by simpa using ih [] (by simp))
      · have longer := ih (line ++ [c]) (by simp [free, Ne.symm feed])
        simpa using longer

theorem splitAtChar_ne_nil (mark : Char) (t : Text) : splitAtChar mark t ≠ [] := by
  induction t with
  | nil => simp [splitAtChar]
  | cons c rest ih =>
      rw [splitAtChar]
      split
      · simp
      · split <;> simp

theorem splitAtChar_of_not_mem {mark : Char} {t : Text} (free : mark ∉ t) :
    splitAtChar mark t = [t] := by
  induction t with
  | nil => rfl
  | cons c rest ih =>
      simp only [List.mem_cons, not_or] at free
      rw [splitAtChar, ih free.2]
      simp [Ne.symm free.1]

theorem splitAtChar_append {mark : Char} {line rest : Text} (free : mark ∉ line) :
    splitAtChar mark (line ++ mark :: rest) = line :: splitAtChar mark rest := by
  induction line with
  | nil =>
      rw [List.nil_append, splitAtChar]
      split
      · rename_i empty
        exact absurd empty (splitAtChar_ne_nil mark rest)
      · rename_i shape
        simp [shape]
  | cons c line ih =>
      simp only [List.mem_cons, not_or] at free
      rw [List.cons_append, splitAtChar, ih free.2]
      simp [Ne.symm free.1]

/-- A text without a line feed is one line, unless it is empty. -/
theorem lines_of_not_mem {line : Text} (free : '\n' ∉ line) :
    lines line = if line.isEmpty then [] else [line] := by
  rw [lines, splitAtChar_of_not_mem free, closeLines]

/-- A line that ends in a line feed loses a carriage return in front of it. -/
theorem lines_append {line rest : Text} (free : '\n' ∉ line) :
    lines (line ++ '\n' :: rest) = dropReturn line :: lines rest := by
  rw [lines, splitAtChar_append free]
  cases shape : splitAtChar '\n' rest with
  | nil => exact absurd shape (splitAtChar_ne_nil '\n' rest)
  | cons piece pieces => rw [closeLines, lines, shape]; simp

@[simp] theorem lines_nil : lines [] = [] := rfl

theorem eq_nil_of_lines {t : Text} (none : lines t = []) : t = [] := by
  induction t using byLines with
  | last line free =>
      rw [lines_of_not_mem free] at none
      split at none <;> simp_all
  | more line rest free ih =>
      rw [lines_append free] at none
      exact absurd none (by simp)

theorem dropReturn_of_not_mem {line : Text} (plain : '\r' ∉ line) : dropReturn line = line := by
  fun_induction dropReturn line with
  | case1 => rfl
  | case2 => simp at plain
  | case3 c rest _ ih =>
      simp only [List.mem_cons, not_or] at plain
      rw [ih plain.2]

theorem dropReturn_cases (line : Text) :
    dropReturn line = line ∨ line = dropReturn line ++ ['\r'] := by
  fun_induction dropReturn line with
  | case1 => exact .inl rfl
  | case2 => exact .inr rfl
  | case3 c rest _ ih =>
      rcases ih with same | ended
      · exact .inl (by rw [same])
      · exact .inr (congrArg (c :: ·) ended)

theorem dropReturn_append {tail : Text} (some : tail ≠ []) (line : Text) :
    dropReturn (line ++ tail) = line ++ dropReturn tail := by
  induction line with
  | nil => rfl
  | cons c line ih =>
      rw [List.cons_append, dropReturn, ih, List.cons_append]
      simp [some]

theorem mem_of_mem_dropReturn {line : Text} {c : Char} (found : c ∈ dropReturn line) :
    c ∈ line := by
  fun_induction dropReturn line with
  | case1 => exact found
  | case2 => simp at found
  | case3 d rest _ ih =>
      rcases List.mem_cons.mp found with same | later
      · exact same ▸ List.mem_cons_self
      · exact List.mem_cons_of_mem _ (ih later)

/-- A line holds no character that its text does not hold. -/
theorem mem_of_mem_lines {t line : Text} {c : Char} (isLine : line ∈ lines t) (found : c ∈ line) :
    c ∈ t := by
  induction t using byLines with
  | last whole free =>
      rw [lines_of_not_mem free] at isLine
      split at isLine <;> simp_all
  | more first rest free ih =>
      rw [lines_append free] at isLine
      rcases List.mem_cons.mp isLine with same | later
      · subst same
        exact List.mem_append_left _ (mem_of_mem_dropReturn found)
      · exact List.mem_append_right _ (List.mem_cons_of_mem _ (ih later))

/-- No line holds a line feed. -/
theorem not_mem_of_mem_lines {t line : Text} (isLine : line ∈ lines t) : '\n' ∉ line := by
  induction t using byLines with
  | last whole free =>
      rw [lines_of_not_mem free] at isLine
      split at isLine <;> simp_all
  | more first rest free ih =>
      rw [lines_append free] at isLine
      rcases List.mem_cons.mp isLine with same | later
      · subst same
        exact fun feed => free (mem_of_mem_dropReturn feed)
      · exact ih later

/-- The lines of a text, each with the line feed that ends it. -/
def unlines (ls : List Text) : Text :=
  ls.flatMap (· ++ ['\n'])

@[simp] theorem unlines_nil : unlines [] = [] := rfl

@[simp] theorem unlines_cons (line : Text) (more : List Text) :
    unlines (line :: more) = line ++ '\n' :: unlines more := by
  simp [unlines]

/-- Without carriage returns a text is its lines, the line feed at its very end apart. -/
theorem unlines_lines {t : Text} (plain : '\r' ∉ t) :
    unlines (lines t) = t ∨ unlines (lines t) = t ++ ['\n'] := by
  induction t using byLines with
  | last line free =>
      rw [lines_of_not_mem free]
      cases line with
      | nil => exact .inl rfl
      | cons c rest => exact .inr (by simp)
  | more line rest free ih =>
      simp only [List.mem_append, List.mem_cons, not_or] at plain
      rw [lines_append free, dropReturn_of_not_mem plain.1, unlines_cons]
      rcases ih plain.2.2 with same | ended
      · exact .inl (by rw [same])
      · exact .inr (by rw [ended]; simp)

end Rethrow.Text
