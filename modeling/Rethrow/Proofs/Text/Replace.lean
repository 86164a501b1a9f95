import Mathlib.Data.List.Infix
import Rethrow.Text.Lines

/-!
# Replacing a mark

A mark whose first character does not come again in it cannot overlap itself. A text is then
free of the mark, or it is a piece free of the mark, the mark and a further text. `byMarks`
turns this into an induction, and replacing follows the same two cases: it puts another text
between the same pieces.

What shares no character with the mark or with the other text is found in the result as often
as before, because it can only lie inside a piece.
-/

namespace Rethrow.Text

variable {needle new before t : Text} {c d : Char} {tail : Text}

/-! ## What lies on either side of a character -/

/-- What starts a text lies in front of a character of it, or reaches over it. -/
theorem prefix_append_cases {a b : Text} (leads : needle <+: a ++ d :: b) :
    needle <+: a ∨ ∃ beyond, needle = a ++ d :: beyond := by
  rcases List.prefix_or_prefix_of_prefix leads (List.prefix_append a (d :: b)) with
    inside | ⟨beyond, rfl⟩
  · exact .inl inside
  · rcases List.prefix_cons_iff.mp ((List.prefix_append_right_inj a).mp leads) with
      rfl | ⟨further, rfl, -⟩
    · exact .inl (by simp)
    · exact .inr ⟨further, rfl⟩

theorem prefix_append_cons (foreign : d ∉ needle) {a b : Text} :
    needle <+: a ++ d :: b ↔ needle <+: a := by
  constructor
  · intro leads
    rcases prefix_append_cases leads with inside | ⟨beyond, rfl⟩
    · exact inside
    · simp at foreign
  · exact fun leads => leads.trans (List.prefix_append a (d :: b))

theorem not_prefix_cons (some : needle ≠ []) (foreign : d ∉ needle) (b : Text) :
    ¬ needle <+: d :: b :=
  fun leads => some (List.prefix_nil.mp ((prefix_append_cons foreign (a := [])).mp leads))

/-- What foreign characters cannot be part of stands in front of them or behind them. -/
theorem infix_append_cons (some : needle ≠ []) (foreign : d ∉ needle) {a b : Text} :
    needle <:+: a ++ d :: b ↔ needle <:+: a ∨ needle <:+: b := by
  induction a with
  | nil => simp [List.infix_cons_iff, not_prefix_cons some foreign, some]
  | cons e a ih =>
      rw [List.cons_append, List.infix_cons_iff, List.infix_cons_iff, ih, ← List.cons_append,
        prefix_append_cons foreign, or_assoc]

theorem suffix_of_suffix_append {a separator b : Text} (parted : separator ≠ [])
    (foreign : ∀ c ∈ needle, c ∉ separator) (ends : needle <:+ a ++ separator ++ b) :
    needle <:+ b := by
  have behind : needle <:+ separator ++ b := by
    rw [List.append_assoc] at ends
    rcases List.suffix_or_suffix_of_suffix ends (List.suffix_append a (separator ++ b)) with
      inside | ⟨before, shape⟩
    · exact inside
    · obtain ⟨d, more, rfl⟩ := List.exists_cons_of_ne_nil parted
      exact absurd List.mem_cons_self (foreign d (by simp [← shape]))
  clear ends parted
  induction separator with
  | nil => exact behind
  | cons e separator ih =>
      rcases List.suffix_cons_iff.mp behind with whole | later
      · exact absurd List.mem_cons_self (foreign e (by simp [whole]))
      · exact ih (fun c among found => foreign c among (List.mem_cons_of_mem e found)) later

theorem infix_of_infix_append {lead b : Text} (absent : c ∉ lead)
    (found : c :: tail <:+: lead ++ b) : c :: tail <:+: b := by
  induction lead with
  | nil => exact found
  | cons e lead ih =>
      simp only [List.mem_cons, not_or] at absent
      rcases List.infix_cons_iff.mp found with leads | later
      · exact absurd (List.cons_prefix_cons.mp leads).1 absent.1
      · exact ih absent.2 later

/-! ## Occurrences -/

/-- The number of places of a text at which `needle` starts. -/
def occurrences (needle t : Text) : Nat :=
  t.tails.countP (startsWith · needle)

theorem startsWith_iff {lead : Text} : startsWith t lead = true ↔ lead <+: t :=
  List.isPrefixOf_iff_prefix

theorem occurrences_nil (some : needle ≠ []) : occurrences needle [] = 0 := by
  simp [occurrences, startsWith, some]

theorem occurrences_cons (needle : Text) (e : Char) (t : Text) :
    occurrences needle (e :: t) =
      occurrences needle t + if startsWith (e :: t) needle then 1 else 0 := by
  rw [occurrences, List.tails_cons, List.countP_cons, occurrences]

theorem occurrences_cons_foreign (some : needle ≠ []) (foreign : d ∉ needle) (t : Text) :
    occurrences needle (d :: t) = occurrences needle t := by
  have elsewhere : startsWith (d :: t) needle = false := by
    rw [Bool.eq_false_iff, Ne, startsWith_iff]
    exact not_prefix_cons some foreign t
  rw [occurrences_cons, elsewhere]
  rfl

/-- A foreign character splits the occurrences into those on its sides. -/
theorem occurrences_append_cons (some : needle ≠ []) (foreign : d ∉ needle) (a b : Text) :
    occurrences needle (a ++ d :: b) = occurrences needle a + occurrences needle b := by
  induction a with
  | nil =>
      rw [List.nil_append, occurrences_cons_foreign some foreign, occurrences_nil some,
        Nat.zero_add]
  | cons e a ih =>
      have same : startsWith (e :: (a ++ d :: b)) needle = startsWith (e :: a) needle := by
        rw [Bool.eq_iff_iff, startsWith_iff, startsWith_iff, ← List.cons_append,
          prefix_append_cons foreign]
      rw [List.cons_append, occurrences_cons, occurrences_cons, ih, same]
      omega

theorem occurrences_append {separator : Text} (some : needle ≠ []) (parted : separator ≠ [])
    (foreign : ∀ c ∈ needle, c ∉ separator) (a b : Text) :
    occurrences needle (a ++ separator ++ b) = occurrences needle a + occurrences needle b := by
  obtain ⟨d, more, rfl⟩ := List.exists_cons_of_ne_nil parted
  have within : ∀ e ∈ d :: more, e ∉ needle := fun e inside found => foreign e found inside
  have behind : occurrences needle (more ++ b) = occurrences needle b := by
    clear parted foreign
    induction more with
    | nil => rfl
    | cons e more ih =>
        simp only [List.forall_mem_cons] at within ih
        rw [List.cons_append, occurrences_cons_foreign some within.2.1]
        exact ih ⟨within.1, within.2.2⟩
  rw [List.append_assoc, List.cons_append,
    occurrences_append_cons some (within d List.mem_cons_self), behind]

/-! ## Marks and the pieces between them -/

/-- Some pieces are those that the occurrences of a mark leave of a text. -/
structure Cut (mark t : Text) (pieces : List Text) : Prop where
  some : pieces ≠ []
  joined : joinWith mark pieces = t
  free : ∀ piece ∈ pieces, ¬ mark <:+: piece

theorem joinWith_cons (mark piece : Text) {more : List Text} (some : more ≠ []) :
    joinWith mark (piece :: more) = piece ++ mark ++ joinWith mark more := by
  obtain ⟨second, more, rfl⟩ := List.exists_cons_of_ne_nil some
  exact List.intercalate_cons_cons

theorem first_mark (found : c :: tail <:+: t) :
    ∃ before rest, ¬ c :: tail <:+: before ∧ t = before ++ c :: tail ++ rest := by
  induction t with
  | nil => simp at found
  | cons e t ih =>
      by_cases leads : c :: tail <+: e :: t
      · obtain ⟨rest, shape⟩ := leads
        exact ⟨[], rest, by simp, by simpa using shape.symm⟩
      · have later := (List.infix_cons_iff.mp found).resolve_left leads
        obtain ⟨before, rest, unmarked, rfl⟩ := ih later
        refine ⟨e :: before, rest, ?_, rfl⟩
        rw [List.infix_cons_iff, not_or]
        exact ⟨fun first => leads (first.trans ⟨c :: tail ++ rest, by simp⟩), unmarked⟩

/-- Induction over the occurrences of a mark. -/
theorem byMarks (c : Char) (tail : Text) {motive : Text → Prop}
    (free : ∀ t, ¬ c :: tail <:+: t → motive t)
    (more : ∀ before rest, ¬ c :: tail <:+: before → motive rest →
      motive (before ++ c :: tail ++ rest)) (t : Text) : motive t := by
  by_cases found : c :: tail <:+: t
  · obtain ⟨before, rest, unmarked, rfl⟩ := first_mark found
    exact more before rest unmarked (byMarks c tail free more rest)
  · exact free t found
termination_by t.length

theorem exists_cut (c : Char) (tail t : Text) : ∃ pieces, Cut (c :: tail) t pieces := by
  induction t using byMarks c tail with
  | free t unmarked => exact ⟨[t], by simp, by simp [joinWith], by simpa using unmarked⟩
  | more before rest unmarked ih =>
      obtain ⟨pieces, cut⟩ := ih
      refine ⟨before :: pieces, by simp, ?_, List.forall_mem_cons.mpr ⟨unmarked, cut.free⟩⟩
      rw [joinWith_cons _ _ cut.some, cut.joined]

/-! ## Replacing -/

/-- Without the mark there is nothing to replace. -/
theorem replace_of_free (unmarked : ¬ needle <:+: t) : replace needle new t = t := by
  induction t with
  | nil => rfl
  | cons e t ih =>
      rw [List.infix_cons_iff, not_or] at unmarked
      rw [replace, replaceFrom, if_neg (by rw [startsWith_iff]; exact unmarked.1)]
      exact congrArg (e :: ·) (ih unmarked.2)

theorem replaceFrom_skip (needle new passed rest : Text) :
    replaceFrom needle new passed.length (passed ++ rest) = replace needle new rest := by
  induction passed with
  | nil => rfl
  | cons e passed ih => rw [List.length_cons, List.cons_append, replaceFrom, ih]

section Mark

variable (lone : c ∉ tail)

include lone

/-- The first mark is where it is put: none starts in the piece in front of it. -/
theorem replace_append (unmarked : ¬ c :: tail <:+: before) (new rest : Text) :
    replace (c :: tail) new (before ++ c :: tail ++ rest) =
      before ++ new ++ replace (c :: tail) new rest := by
  induction before with
  | nil =>
      have leads : startsWith (c :: (tail ++ rest)) (c :: tail) = true :=
        startsWith_iff.mpr (by simp)
      rw [replace, List.nil_append, List.cons_append, replaceFrom, if_pos leads,
        List.length_cons, Nat.add_sub_cancel, replaceFrom_skip, List.nil_append]
  | cons e before ih =>
      rw [List.infix_cons_iff, not_or] at unmarked
      have elsewhere : ¬ startsWith (e :: (before ++ c :: tail ++ rest)) (c :: tail) = true := by
        rw [startsWith_iff]
        intro leads
        have split : e :: (before ++ c :: tail ++ rest) = (e :: before) ++ c :: (tail ++ rest) := by
          simp
        rcases prefix_append_cases (split ▸ leads) with inside | ⟨beyond, shape⟩
        · exact unmarked.1 inside
        · -- A mark that reached over the first character of the next would hold it twice.
          rw [List.cons_append, List.cons.injEq] at shape
          exact lone (shape.2 ▸ by simp)
      rw [replace, List.cons_append, List.cons_append, replaceFrom, if_neg elsewhere]
      exact congrArg (e :: ·) (ih unmarked.2)

/-- Replacing joins the same pieces with another text. -/
theorem replace_cut {pieces : List Text} (cut : Cut (c :: tail) t pieces) (new : Text) :
    replace (c :: tail) new t = joinWith new pieces := by
  obtain ⟨some, rfl, free⟩ := cut
  induction pieces with
  | nil => exact absurd rfl some
  | cons piece more ih =>
      rw [List.forall_mem_cons] at free
      by_cases last : more = []
      · subst last
        simpa [joinWith] using replace_of_free free.1
      · rw [joinWith_cons _ _ last, joinWith_cons _ _ last, replace_append lone free.1,
          ih last free.2]

/-- No mark is left over, and none arises at either end of the other text. -/
theorem not_infix_replace (absent : c ∉ d :: new) (foreign : d ∉ c :: tail) (t : Text) :
    ¬ c :: tail <:+: replace (c :: tail) (d :: new) t := by
  induction t using byMarks c tail with
  | free t unmarked => rwa [replace_of_free unmarked]
  | more before rest unmarked ih =>
      rw [replace_append lone unmarked, List.append_assoc, List.cons_append,
        infix_append_cons (by simp) foreign, not_or]
      refine ⟨unmarked, fun found => ih (infix_of_infix_append ?_ found)⟩
      exact fun among => absent (List.mem_cons_of_mem d among)

/-- What shares no character with the mark and the other text occurs as often as before. -/
theorem occurrences_replace (some : needle ≠ []) (changed : new ≠ [])
    (foreign : ∀ e ∈ needle, e ∉ c :: tail ∧ e ∉ new) (t : Text) :
    occurrences needle (replace (c :: tail) new t) = occurrences needle t := by
  induction t using byMarks c tail with
  | free t unmarked => rw [replace_of_free unmarked]
  | more before rest unmarked ih =>
      rw [replace_append lone unmarked,
        occurrences_append some changed (fun e among => (foreign e among).2),
        occurrences_append some (by simp) (fun e among => (foreign e among).1), ih]

theorem prefix_replace (foreign : c ∉ needle) (leads : needle <+: t) (new : Text) :
    needle <+: replace (c :: tail) new t := by
  induction t using byMarks c tail with
  | free t unmarked => rwa [replace_of_free unmarked]
  | more before rest unmarked ih =>
      rw [List.append_assoc, List.cons_append, prefix_append_cons foreign] at leads
      rw [replace_append lone unmarked, List.append_assoc]
      exact leads.trans (List.prefix_append before _)

theorem suffix_replace (foreign : ∀ e ∈ needle, e ∉ c :: tail) (ends : needle <:+ t)
    (new : Text) : needle <:+ replace (c :: tail) new t := by
  induction t using byMarks c tail with
  | free t unmarked => rwa [replace_of_free unmarked]
  | more before rest unmarked ih =>
      rw [replace_append lone unmarked]
      exact (ih (suffix_of_suffix_append (by simp) foreign ends)).trans (List.suffix_append _ _)

end Mark

end Rethrow.Text
