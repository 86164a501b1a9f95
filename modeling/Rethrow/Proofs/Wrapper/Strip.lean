import Rethrow.Proofs.Text.Replace
import Rethrow.Wrapper.Strip

/-!
# Stripped documentation

Stripping a member empties its list of declared failures and puts prose in the place of every
tag in its documentation. The prose shares neither a slash nor an asterisk nor a line break with
what it replaces, so a documentation comment stays one: it opens and closes where it did and
nothing closes it early.
-/

namespace Rethrow

namespace Doc

/-- The tag that announces a failure. -/
def failureTag : Text := "@throws".toList

/-- What stands in place of a tag. -/
def prose : Text := "no longer throws".toList

/-- What delimits lines and comments. -/
def delimiters : List Text :=
  ["\n".toList, "\r".toList, "\r\n".toList, "/*".toList, "*/".toList]

/-- A documentation comment: it opens as one, and nothing closes it before its end. -/
structure IsComment (doc : Text) : Prop where
  opened : "/**".toList <+: doc
  closed : "*/".toList <:+ doc
  single : Text.occurrences "*/".toList doc = 1

/-- What stripping makes of the documentation `doc`. -/
structure Stripped (doc new : Text) : Prop where
  cut : ∃ pieces, Text.Cut failureTag doc pieces
  /-- The pieces between the tags are joined with the prose. -/
  joined : ∀ pieces, Text.Cut failureTag doc pieces → new = Text.joinWith prose pieces
  untagged : ¬ failureTag <:+: new
  delimited : ∀ delimiter ∈ delimiters,
    Text.occurrences delimiter new = Text.occurrences delimiter doc
  comment : IsComment doc → IsComment new

theorem lone_failureTag : '@' ∉ "throws".toList := by decide

/-- No delimiter shares a character with the tag or with the prose. -/
theorem delimiters_foreign :
    ∀ delimiter ∈ delimiters, ∀ c ∈ delimiter, c ∉ failureTag ∧ c ∉ prose := by
  have checked : delimiters.flatten.all (fun c => c ∉ failureTag ∧ c ∉ prose) = true := by
    decide +kernel
  intro delimiter among c found
  exact of_decide_eq_true (List.all_eq_true.mp checked c (List.mem_flatten_of_mem among found))

theorem not_infix_stripDoc (doc : Text) : ¬ failureTag <:+: stripDoc doc :=
  Text.not_infix_replace lone_failureTag (by decide) (by decide) doc

theorem occurrences_stripDoc {delimiter : Text} (among : delimiter ∈ delimiters) (doc : Text) :
    Text.occurrences delimiter (stripDoc doc) = Text.occurrences delimiter doc := by
  have some : ∀ delimiter ∈ delimiters, delimiter ≠ [] := by simp [delimiters]
  exact Text.occurrences_replace lone_failureTag (some delimiter among) (by decide)
    (delimiters_foreign delimiter among) doc

theorem closing_mem_delimiters : "*/".toList ∈ delimiters := by decide

theorem IsComment.stripDoc {doc : Text} (comment : IsComment doc) : IsComment (stripDoc doc) where
  opened := Text.prefix_replace lone_failureTag (by decide) comment.opened prose
  closed :=
    have foreign := delimiters_foreign _ closing_mem_delimiters
    Text.suffix_replace lone_failureTag (fun c found => (foreign c found).1) comment.closed prose
  single := (occurrences_stripDoc closing_mem_delimiters doc).trans comment.single

theorem stripped_stripDoc (doc : Text) : Stripped doc (stripDoc doc) where
  cut := Text.exists_cut '@' "throws".toList doc
  joined _ cut := Text.replace_cut lone_failureTag cut prose
  untagged := not_infix_stripDoc doc
  delimited _ among := occurrences_stripDoc among doc
  comment := IsComment.stripDoc

example : stripDoc "/** @@throws@throws */".toList =
    "/** @no longer throwsno longer throws */".toList := by decide +kernel

theorem stripDoc_stripDoc (doc : Text) : stripDoc (stripDoc doc) = stripDoc doc :=
  Text.replace_of_free (not_infix_stripDoc doc)

theorem rel_map_stripDoc (doc : Option Text) : Option.Rel Stripped doc (doc.map stripDoc) := by
  cases doc with
  | none => exact .none
  | some content => exact .some (stripped_stripDoc content)

theorem map_stripDoc_again (doc : Option Text) :
    (doc.map stripDoc).map stripDoc = doc.map stripDoc := by
  rw [Option.map_map]
  exact congrArg (doc.map ·) (funext stripDoc_stripDoc)

end Doc

/-- Stripping a method or a constructor. It declares no failures afterwards, its documentation
says in prose what its tags said and is a comment as it was, and all else stays. Nothing is left
for a second stripping. -/
theorem Doc.strip_keeps_comment :
    (∀ p : Procedure, p.strip.throws = [] ∧ Option.Rel Doc.Stripped p.doc p.strip.doc ∧
      p.strip.strip = p.strip ∧ { p.strip with throws := p.throws, doc := p.doc } = p) ∧
    ∀ c : Constructor, c.strip.throws = [] ∧ Option.Rel Doc.Stripped c.doc c.strip.doc ∧
      c.strip.strip = c.strip ∧ { c.strip with throws := c.throws, doc := c.doc } = c := by
  refine ⟨fun p => ⟨rfl, Doc.rel_map_stripDoc p.doc, ?_, rfl⟩,
    fun c => ⟨rfl, Doc.rel_map_stripDoc c.doc, ?_, rfl⟩⟩
  · rw [Procedure.strip, Procedure.strip, Doc.map_stripDoc_again]
  · rw [Constructor.strip, Constructor.strip, Doc.map_stripDoc_again]

end Rethrow
