import Rethrow.Proofs.Lexical.Comments
import Rethrow.Unit.Reading

/-!
# Extents in a source

A source may be cut where the lexer stands in code or at the end of a line comment, and
where no mark of a comment or text block lies across the cut. What stands between two cuts
is lexed by itself, so the comments of a stretch that is tiled by nodes are those of the
nodes, one after the other: `Tiled.comments_slice`.
-/

namespace Rethrow.Reading

open Java Lexical

instance (marked : List (Char × Mark)) (b : Text) : Decidable (Apart marked b) :=
  decidable_of_iff (_ ∧ _) ⟨fun both => ⟨both.1, both.2⟩, fun apart => ⟨apart.slash, apart.quote⟩⟩

/-- An offset at which a source may be cut. -/
def Cut (source : Text) (offset : Nat) : Prop :=
  after .text .code (source.take offset) = .code ∧
      Apart (scan .text .code (source.take offset)) (source.drop offset) ∨
    after .text .code (source.take offset) = .lineComment ∧
      (source.drop offset).head?.all (· == '\n') = true

instance (source : Text) (offset : Nat) : Decidable (Cut source offset) :=
  inferInstanceAs (Decidable (_ ∨ _))

theorem take_append_slice (source : Text) {start stop : Nat} (ordered : start ≤ stop) :
    source.take start ++ Text.slice source start stop = source.take stop := by
  rw [Text.slice, ← List.take_add, Nat.add_sub_cancel' ordered]

/-- What follows a cut is lexed by itself. -/
theorem Cut.scan_slice {source : Text} {start stop : Nat} (cut : Cut source start)
    (ordered : start ≤ stop) :
    scan .text .code (source.take stop) =
        scan .text .code (source.take start) ++ scan .text .code (Text.slice source start stop) ∧
      (Text.slice source start stop ≠ [] →
        after .text .code (source.take stop) =
          after .text .code (Text.slice source start stop)) := by
  rw [← take_append_slice source ordered]
  have head : ∀ {c}, (Text.slice source start stop).head? = some c →
      (source.drop start).head? = some c := by
    intro c first
    rw [Text.slice, List.head?_take] at first
    split at first <;> simp_all
  rcases cut with ⟨closed, apart⟩ | ⟨open_, feed⟩
  · have apart' : Apart (scan .text .code (source.take start)) (Text.slice source start stop) :=
      ⟨fun slash => ⟨fun first => (apart.slash slash).1 (head first),
        fun first => (apart.slash slash).2 (head first)⟩,
        fun quote first => apart.quote quote (head first)⟩
    obtain ⟨scanned, ended⟩ := scan_append closed apart'
    exact ⟨scanned, fun _ => ended⟩
  · cases shape : Text.slice source start stop with
    | nil => simp [scan]
    | cons c rest =>
        have isFeed : c = '\n' := by
          rw [head (by rw [shape]; rfl)] at feed
          simpa using feed
        subst isFeed
        obtain ⟨scanned, ended⟩ := scan_append_cons clear_feed .text .code (source.take start) rest
        rw [scanned, ended, open_]
        simp [scan, after]

/-- Neighbouring stretches between cuts have their comments one after the other. -/
theorem Cut.comments_slice {source : Text} {start middle stop : Nat} (cut : Cut source start)
    (cut' : Cut source middle) (ordered : start ≤ middle) (ordered' : middle ≤ stop) :
    comments (Text.slice source start stop) =
      comments (Text.slice source start middle) ++ comments (Text.slice source middle stop) := by
  have whole := (cut.scan_slice (Nat.le_trans ordered ordered')).1
  rw [(cut'.scan_slice ordered').1, (cut.scan_slice ordered).1, List.append_assoc] at whole
  exact comments_of_scan (List.append_cancel_left whole).symm

/-- A stretch between cuts leaves at most a line comment open. -/
theorem Cut.loose_slice {source : Text} {start stop : Nat} (cut : Cut source start)
    (cut' : Cut source stop) (ordered : start ≤ stop) :
    Loose .text (Text.slice source start stop) := by
  by_cases empty : Text.slice source start stop = []
  · rw [empty]
    exact .inl rfl
  · rw [Loose, ← (cut.scan_slice ordered).2 empty]
    exact cut'.imp And.left And.left

/-! ## Tiles -/

/-- The comments of a node, by its text. -/
def noted (source : Text) (n : Node) : List Text :=
  comments (textOf source n)

/-- A stretch without comments, up to a cut. -/
def Gap (source : Text) (start stop : Nat) : Prop :=
  start ≤ stop ∧ Cut source stop ∧ comments (Text.slice source start stop) = []

/-- Nodes that follow each other from one offset to another with nothing but gaps between
them. -/
def Tiled (source : Text) : Nat → List Node → Nat → Prop
  | start, [], stop => Gap source start stop
  | start, n :: rest, stop =>
    Gap source start n.start ∧ n.start ≤ n.stop ∧ Cut source n.stop ∧ Tiled source n.stop rest stop

instance (source : Text) (start stop : Nat) : Decidable (Gap source start stop) :=
  inferInstanceAs (Decidable (_ ∧ _))

instance decidableTiled (source : Text) :
    (start : Nat) → (nodes : List Node) → (stop : Nat) → Decidable (Tiled source start nodes stop)
  | _, [], _ => inferInstanceAs (Decidable (Gap _ _ _))
  | _, n :: rest, stop =>
    have := decidableTiled source n.stop rest stop
    inferInstanceAs (Decidable (_ ∧ _))

namespace Tiled

variable {source : Text}

theorem bounds {start stop : Nat} {nodes : List Node} (tiled : Tiled source start nodes stop) :
    start ≤ stop ∧ Cut source stop := by
  induction nodes generalizing start with
  | nil => exact ⟨tiled.1, tiled.2.1⟩
  | cons n rest ih =>
      obtain ⟨gap, ordered, -, below⟩ := tiled
      exact ⟨Nat.le_trans gap.1 (Nat.le_trans ordered (ih below).1), (ih below).2⟩

/-- The comments of a tiled stretch are those of its tiles. -/
theorem comments_slice {start stop : Nat} {nodes : List Node} (cut : Cut source start)
    (tiled : Tiled source start nodes stop) :
    comments (Text.slice source start stop) = nodes.flatMap (noted source) := by
  induction nodes generalizing start with
  | nil => exact tiled.2.2
  | cons n rest ih =>
      obtain ⟨⟨before, cutStart, gap⟩, ordered, cutStop, below⟩ := tiled
      have upTo := (bounds below).1
      rw [cut.comments_slice cutStart before (Nat.le_trans ordered upTo), gap,
        cutStart.comments_slice cutStop ordered upTo, ih cutStop below]
      rfl

theorem loose_slice {start stop : Nat} {nodes : List Node} (cut : Cut source start)
    (tiled : Tiled source start nodes stop) : Loose .text (Text.slice source start stop) :=
  cut.loose_slice tiled.bounds.2 tiled.bounds.1

/-- The nodes in front of a node are tiles up to its start. -/
theorem before {start stop : Nat} {upper lower : List Node} {n : Node}
    (tiled : Tiled source start (upper ++ n :: lower) stop) :
    Tiled source start upper n.start := by
  induction upper generalizing start with
  | nil => exact tiled.1
  | cons first rest ih =>
      obtain ⟨gap, ordered, cutStop, below⟩ := tiled
      exact ⟨gap, ordered, cutStop, ih below⟩

/-- The nodes behind some others are tiles from where those end. -/
theorem behind {start stop : Nat} {upper lower : List Node} (cut : Cut source start)
    (tiled : Tiled source start (upper ++ lower) stop) :
    Cut source (upper.foldl (fun _ n => n.stop) start) ∧
      Tiled source (upper.foldl (fun _ n => n.stop) start) lower stop := by
  induction upper generalizing start with
  | nil => exact ⟨cut, tiled⟩
  | cons first rest ih =>
      obtain ⟨-, -, cutStop, below⟩ := tiled
      exact ih cutStop below

/-- A tile stands between cuts. -/
theorem cuts {start stop : Nat} {nodes : List Node} {n : Node}
    (tiled : Tiled source start nodes stop) (listed : n ∈ nodes) :
    start ≤ n.start ∧ n.start ≤ n.stop ∧ Cut source n.start ∧ Cut source n.stop := by
  induction nodes generalizing start with
  | nil => simp at listed
  | cons first rest ih =>
      obtain ⟨gap, ordered, cutStop, below⟩ := tiled
      rcases List.mem_cons.mp listed with rfl | later
      · exact ⟨gap.1, ordered, gap.2.1, cutStop⟩
      · obtain ⟨from_, rest⟩ := ih below later
        exact ⟨Nat.le_trans gap.1 (Nat.le_trans ordered from_), rest⟩

end Tiled

end Rethrow.Reading
