import Rethrow.Proofs.Reading.Containers

/-!
# The comments of a unit that is read and laid out

Reading a source and laying out the unit keeps every comment but those in `lostComments`,
and prints those in `doubledComments` once more. `CompUnit.comments_read` says so, and that
nothing is lost or doubled exactly if the two lists cancel out.

It is said of sound trees, which is more than that the source is accepted
(`Reading.accepted_unsound`): the grammar takes a comment anywhere, be it inside a text block, and
then reads past closing quotes that the comment has. Such a literal ends elsewhere for the grammar
than for the language, and with it what the rest of the source is.
-/

namespace Rethrow

namespace Reading

open Java Lexical

/-- The comments of a source that its unit loses. -/
def lostComments (source : Text) (root : Node) : List Text :=
  (root.namedChildren.flatMap (strayInItem source)).flatMap (noted source)

/-- The comments of a source that its unit holds twice. -/
def doubledComments (source : Text) (root : Node) : List Text :=
  ((documented (isDoc source) isTypeDecl none root.namedChildren).flatMap
    (Entry.itemEcho source)).flatMap (noted source)

variable {source : Text} {root : Node}

theorem cut_zero : Cut source 0 := by
  refine .inl ⟨rfl, ⟨fun slash => ?_, fun quote => ?_⟩⟩
  · exact absurd slash (by simp [scan])
  · exact absurd quote (by simp [scan])

/-- The comments of a source are those of the named children of its root. -/
theorem SoundRoot.comments_source (sound : SoundRoot source root) :
    comments source = root.namedChildren.flatMap (noted source) := by
  have whole : Text.slice source 0 source.length = source := by simp [Text.slice]
  have tiles := sound.1.comments_slice cut_zero
  rw [whole] at tiles
  rw [tiles]
  exact flatMap_filter_noted fun n among token =>
    (stands_of_tiled sound.1 sound.2 n among).noted_token token

theorem SoundRoot.stand (sound : SoundRoot source root) :
    ∀ n ∈ root.namedChildren, Stands source n :=
  fun n among => stands_of_tiled sound.1 sound.2 n (List.mem_filter.mp among).1

/-- The items of a unit have the comments of the source. -/
theorem accounts_unit (sound : SoundRoot source root) :
    Accounts (unit source root).pieces (comments source ++ doubledComments source root)
      (lostComments source root) := by
  rw [CompUnit.pieces, unit, List.flatMap_map, sound.comments_source, doubledComments,
    ← List.flatMap_append]
  refine accounts_documented (fun d doc => ?_) (fun _ => rfl)
    (fun d stands => stands.accounts_verbatim)
    (fun pending n stands stand placed => accounts_item stands stand placed) sound.stand none
    (by simp)
  -- No documentation comment declares a type.
  have comment := comment_of_isDoc doc
  have other : isTypeDecl d = false := by
    by_contra made
    have plain := (plain_of_isTypeDecl (by simpa using made)).1
    simp [comment] at plain
  simp [strayInItem, other]

theorem bracketed_unit (sound : SoundRoot source root) (decl : TypeDecl)
    (listed : .typeDecl decl ∈ (unit source root).items) : ∀ m ∈ decl.members, m.Bracketed := by
  obtain ⟨entry, among, read⟩ := List.mem_map.mp listed
  cases entry with
  | loose doc => cases read
  | child pending n =>
      unfold item at read
      dsimp only at read
      split at read
      · rename_i made
        cases read
        exact bracketed_typeDecl (sound.stand n (child_of_documented among)) made _
      · split at read
        · cases read
        · split at read
          · cases read
          · split at read <;> cases read

/-- The comments of a laid-out unit, as often as they stand there, are those of its source
without the lost ones and with the doubled ones once more. -/
theorem count_comments_render (sound : SoundRoot source root) (c : Text) :
    (comments (unit source root).render).count c + (lostComments source root).count c =
      (comments source).count c + (doubledComments source root).count c := by
  have accounts := accounts_unit sound
  have laidOut := (unit source root).out_render (bracketed_unit sound) accounts.fits
  rw [commentLexing_out] at laidOut
  rw [laidOut, accounts.balance c, List.count_append]

end Reading

/-- No comment is lost or doubled but those of `lostComments` and `doubledComments`. A source
whose tree is sound is read into a unit whose text has its comments, each as often as the
source, exactly if those two cancel out. -/
theorem CompUnit.comments_read {source : Text} {root : Java.Node}
    (accepted : Java.readTree? source = some root) (sound : Reading.SoundRoot source root) :
    ∃ unit, CompUnit.read? source = some unit ∧
      (∀ c, (Lexical.comments unit.render).count c + (Reading.lostComments source root).count c =
        (Lexical.comments source).count c + (Reading.doubledComments source root).count c) ∧
      ((Lexical.comments unit.render).Perm (Lexical.comments source) ↔
        (Reading.lostComments source root).Perm (Reading.doubledComments source root)) := by
  refine ⟨Reading.unit source root, by rw [CompUnit.read?, accepted, Option.map_some],
    Reading.count_comments_render sound, ?_⟩
  rw [List.perm_iff_count, List.perm_iff_count]
  constructor
  · intro kept c
    have law := Reading.count_comments_render sound c
    have same := kept c
    omega
  · intro cancel c
    have law := Reading.count_comments_render sound c
    have same := cancel c
    omega

/-- A source whose comments are all kept. -/
def wellCommented : Text :=
  "class A\x7b/**d*/void m()\x7b\x7d//e\n\x7d".toList

set_option maxRecDepth 100000 in
theorem CompUnit.comments_read_wellCommented :
    ∃ unit, CompUnit.read? wellCommented = some unit ∧
      (Lexical.comments unit.render).Perm (Lexical.comments wellCommented) := by
  have checked : (Java.readTree? wellCommented).any (fun root =>
      decide (Reading.SoundRoot wellCommented root ∧ Reading.lostComments wellCommented root = [] ∧
        Reading.doubledComments wellCommented root = [])) = true := by decide +kernel
  obtain ⟨root, accepted, facts⟩ := (Option.any_eq_true _ _).mp checked
  obtain ⟨sound, noneLost, noneDoubled⟩ := of_decide_eq_true facts
  obtain ⟨unit, read, -, kept⟩ := CompUnit.comments_read accepted sound
  refine ⟨unit, read, kept.mpr ?_⟩
  rw [noneLost, noneDoubled]

set_option maxRecDepth 100000 in
/-- A documentation comment between the modifiers and the type of a method is lost. -/
theorem CompUnit.comments_read_lost :
    ((CompUnit.read? "class A\x7b@B/**d*/void m()\x7b\x7d\x7d".toList).map fun unit =>
        Lexical.comments unit.render) = some [] ∧
      Lexical.comments "class A\x7b@B/**d*/void m()\x7b\x7d\x7d".toList = ["/**d*/".toList] := by
  constructor <;> decide +kernel

set_option maxRecDepth 100000 in
/-- Not every source that is accepted has a sound tree: here the text block ends with the first
quotes of the comment in it, and the tree goes on to the last ones. -/
theorem Reading.accepted_unsound :
    (Java.readTree? "\"\"\"\n//\"\"\"\n\"\"\";".toList).any (fun root =>
      !decide (Reading.SoundRoot "\"\"\"\n//\"\"\"\n\"\"\";".toList root)) = true := by
  decide +kernel

end Rethrow
