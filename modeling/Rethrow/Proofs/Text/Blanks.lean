import Rethrow.Proofs.Text.Lines

/-!
# Blanks at the ends of a text

Trimming takes a run of blanks off either end of a text and nothing else.
-/

namespace Rethrow.Text

/-- A text of blanks only. -/
def Blank (t : Text) : Prop :=
  ∀ c ∈ t, isBlank c = true

@[simp] theorem blank_nil : Blank [] := by
  simp [Blank]

theorem blank_append {a b : Text} : Blank (a ++ b) ↔ Blank a ∧ Blank b := by
  simp [Blank, or_imp, forall_and]

/-- A text that does not end in a blank. -/
def Firm (t : Text) : Prop :=
  ∀ c, t.getLast? = some c → isBlank c = false

theorem trimEnd_append_blank (t : Text) : ∃ tail, Blank tail ∧ t = trimEnd t ++ tail := by
  induction t with
  | nil => exact ⟨[], blank_nil, rfl⟩
  | cons c rest ih =>
      obtain ⟨tail, blank, shape⟩ := ih
      rw [trimEnd]
      cases kept : trimEnd rest with
      | cons d more =>
          rw [kept] at shape
          exact ⟨tail, blank, congrArg (c :: ·) shape⟩
      | nil =>
          rw [kept, List.nil_append] at shape
          subst shape
          by_cases isBlank : isBlank c = true
          · exact ⟨c :: rest, by simp_all [Blank], by simp [isBlank]⟩
          · exact ⟨rest, blank, by simp [isBlank]⟩

theorem firm_trimEnd (t : Text) : Firm (trimEnd t) := by
  induction t with
  | nil => simp [Firm, trimEnd]
  | cons c rest ih =>
      rw [trimEnd]
      cases kept : trimEnd rest with
      | cons d more => simpa [Firm, kept] using ih
      | nil => by_cases isBlank : isBlank c = true <;> simp [Firm, isBlank]

theorem trimEnd_of_firm {t : Text} (firm : Firm t) : trimEnd t = t := by
  obtain ⟨tail, blank, shape⟩ := trimEnd_append_blank t
  rcases List.eq_nil_or_concat tail with rfl | ⟨init, c, rfl⟩
  · simpa using shape.symm
  · have ended : t.getLast? = some c := by
      rw [shape]
      simp
    have dark := firm c ended
    rw [blank c (by simp)] at dark
    exact absurd dark (by simp)

theorem trimStart_append_blank (t : Text) : ∃ lead, Blank lead ∧ t = lead ++ trimStart t :=
  ⟨t.takeWhile isBlank, List.all_eq_true.mp List.all_takeWhile, by simp [trimStart]⟩

/-- A text is what trimming leaves of it with blanks on either side. -/
theorem trim_append_blanks (t : Text) :
    ∃ lead tail, Blank lead ∧ Blank tail ∧ t = lead ++ trim t ++ tail := by
  obtain ⟨lead, leadBlank, leadShape⟩ := trimStart_append_blank t
  obtain ⟨tail, tailBlank, tailShape⟩ := trimEnd_append_blank (trimStart t)
  refine ⟨lead, tail, leadBlank, tailBlank, ?_⟩
  rw [trim, List.append_assoc, ← tailShape, ← leadShape]

theorem mem_of_mem_trimEnd {t : Text} {c : Char} (found : c ∈ trimEnd t) : c ∈ t := by
  obtain ⟨tail, -, shape⟩ := trimEnd_append_blank t
  rw [shape]
  exact List.mem_append_left _ found

theorem mem_of_mem_trim {t : Text} {c : Char} (found : c ∈ trim t) : c ∈ t := by
  obtain ⟨lead, tail, -, -, shape⟩ := trim_append_blanks t
  rw [shape]
  exact List.mem_append_left _ (List.mem_append_right _ found)

/-- A trimmed text starts with no blank. -/
theorem head_trim {t rest : Text} {c : Char} (shape : trim t = c :: rest) :
    isBlank c = false := by
  obtain ⟨tail, -, ended⟩ := trimEnd_append_blank (trimStart t)
  rw [← trim, shape] at ended
  have head : (trimStart t).head? = some c := by rw [ended]; rfl
  have dark := List.head?_dropWhile_not isBlank t
  rw [show t.dropWhile isBlank = trimStart t from rfl, head] at dark
  simpa using dark

theorem firm_trim (t : Text) : Firm (trim t) :=
  firm_trimEnd _

theorem trimEnd_append {t tail : Text} (blank : Blank tail) : trimEnd (t ++ tail) = trimEnd t := by
  induction t with
  | nil =>
      induction tail with
      | nil => rfl
      | cons c tail ih =>
          simp only [Blank, List.forall_mem_cons] at blank
          have rest : trimEnd tail = [] := ih blank.2
          simp [trimEnd, rest, blank.1]
  | cons c rest ih => rw [List.cons_append, trimEnd, ih, trimEnd]

theorem trimStart_append {lead : Text} (blank : Blank lead) (t : Text) :
    trimStart (lead ++ t) = trimStart t := by
  rw [trimStart, List.dropWhile_append_of_pos blank, trimStart]

theorem trim_append {lead : Text} (blank : Blank lead) (t : Text) : trim (lead ++ t) = trim t := by
  rw [trim, trimStart_append blank, trim]

theorem trim_append_tail {tail : Text} (blank : Blank tail) (t : Text) :
    trim (t ++ tail) = trim t := by
  obtain ⟨lead, leadBlank, shape⟩ := trimStart_append_blank t
  cases kept : trimStart t with
  | nil =>
      rw [kept, List.append_nil] at shape
      subst shape
      rw [trim_append leadBlank, trim, trim, kept]
      have vanishes : trimStart (tail ++ []) = [] := trimStart_append blank []
      rw [List.append_nil] at vanishes
      rw [vanishes]
  | cons c rest =>
      have dark : isBlank c = false := by
        have first := List.head?_dropWhile_not isBlank t
        rw [show t.dropWhile isBlank = trimStart t from rfl, kept] at first
        simpa using first
      have longer : trimStart (t ++ tail) = trimStart t ++ tail := by
        conv => lhs; rw [shape]
        rw [List.append_assoc, trimStart_append leadBlank, kept]
        simp [trimStart, dark]
      rw [trim, longer, trimEnd_append blank, trim]

theorem dropReturn_of_firm {line : Text} (firm : Firm line) : dropReturn line = line := by
  rcases dropReturn_cases line with same | returns
  · exact same
  · have dark := firm '\r' (by rw [returns]; simp)
    exact absurd dark (by decide)

theorem trim_dropReturn (line : Text) : trim (dropReturn line) = trim line := by
  rcases dropReturn_cases line with same | ended
  · rw [same]
  · conv => rhs; rw [ended]
    rw [trim_append_tail (by simp [Blank, show isBlank '\r' = true by decide])]

theorem blank_of_trim_eq_nil {t : Text} (vanishes : trim t = []) : Blank t := by
  obtain ⟨lead, tail, leadBlank, tailBlank, shape⟩ := trim_append_blanks t
  rw [shape, vanishes, List.append_nil]
  exact blank_append.mpr ⟨leadBlank, tailBlank⟩

theorem trim_eq_nil_of_blank {t : Text} (blank : Blank t) : trim t = [] := by
  have trimmed := trim_append blank []
  rwa [List.append_nil] at trimmed

theorem eq_nil_of_blank_of_firm {t : Text} (blank : Blank t) (firm : Firm t) : t = [] := by
  rcases List.eq_nil_or_concat t with rfl | ⟨init, c, rfl⟩
  · rfl
  · have dark := firm c (by simp)
    rw [blank c (by simp)] at dark
    exact absurd dark (by simp)

end Rethrow.Text
