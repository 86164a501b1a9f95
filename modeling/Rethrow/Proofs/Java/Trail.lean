import Rethrow.Java.Chart

/-!
# Trees of the grammar

`Trail rule place children` says that the edges of `rule` lead from its start to `place` over
`children`. A rule that is crossed on the way has a trail of its own to one of its final
places. What can be said of every tree of the grammar is proved by induction on trails, away
from the columns of the reader.

Every item of a column has a trail (`Progress.Legal`), so every tree that is read comes from a
trail of the root (`grown_of_readTree?`).
-/

namespace Rethrow.Java

/-- The nodes that stand for a rule over its children: the children themselves if it is
hidden. -/
def Rule.standIn (rule : Rule) (field : Option Field) (children : List Node) : List Node :=
  if rule.isHidden then children.map (Node.inPart field) else [Node.ofRule rule field children]

/-- From the start of a rule its edges lead to a place over some children. -/
inductive Trail : Rule → Nat → List Node → Prop where
  | start (rule : Rule) : Trail rule 0 []
  | lexeme {rule : Rule} {place : Nat} {children : List Node} {edge : Edge} {code : Nat}
      {kind : Option Terminal} (before : Trail rule place children)
      (leaves : edge ∈ (rule.spot place).edges) (goal : edge.goal = .token code kind)
      (start stop : Nat) :
      Trail rule edge.next (children ++ [Column.lexemeNode kind edge.field start stop])
  | cross {rule inner : Rule} {place last : Nat} {children nodes : List Node} {edge : Edge}
      (before : Trail rule place children) (leaves : edge ∈ (rule.spot place).edges)
      (goal : edge.goal = .rule inner) (across : Trail inner last nodes)
      (ends : (inner.spot last).final = true) :
      Trail rule edge.next (children ++ inner.standIn edge.field nodes)

/-- The root over a trail of the whole grammar to one of its final places. -/
def Node.Grown (root : Node) : Prop :=
  ∃ place children, Trail .program place children ∧ (Rule.program.spot place).final = true ∧
    root = Node.ofRule .program none children

/-! ## Items that have a trail -/

namespace Progress

/-- An item with a trail to its place, waited for by items that have one and an edge over the
rule they wait for. -/
inductive Legal : Progress → Prop where
  | intro {item : Progress} (trail : Trail item.rule item.place item.children.reverse)
      (edges : ∀ w ∈ item.waiting, w.edge ∈ w.item.spot.edges ∧ w.edge.goal = .rule w.rule)
      (callers : ∀ w ∈ item.waiting, Legal w.item) : Legal item

theorem Legal.trail {item : Progress} (legal : item.Legal) :
    Trail item.rule item.place item.children.reverse := by
  cases legal
  assumption

end Progress

/-- One who waits rightly: with a trail, and at an edge over the rule waited for. -/
structure Waiting.Legal (w : Waiting Progress) : Prop where
  leaves : w.edge ∈ w.item.spot.edges
  goal : w.edge.goal = .rule w.rule
  item : w.item.Legal

namespace Progress

theorem Legal.waiting {item : Progress} (legal : item.Legal) : ∀ w ∈ item.waiting, w.Legal := by
  cases legal with
  | intro _ edges callers =>
      intro w among
      exact ⟨(edges w among).1, (edges w among).2, callers w among⟩

theorem Legal.of_waiting {item : Progress}
    (trail : Trail item.rule item.place item.children.reverse)
    (waiting : ∀ w ∈ item.waiting, w.Legal) : item.Legal :=
  .intro trail (fun w among => ⟨(waiting w among).leaves, (waiting w among).goal⟩)
    fun w among => (waiting w among).item

theorem legal_fresh (rule : Rule) (start : Nat) : (fresh rule start).Legal :=
  .of_waiting (.start rule) (by simp [fresh])

theorem reverse_nodes (item : Progress) (field : Option Field) :
    (item.nodes field).reverse = item.rule.standIn field item.children.reverse := by
  unfold nodes Rule.standIn
  split
  · rw [List.map_reverse]
  · rfl

/-- An item that takes an edge over a lexeme stays legal. -/
theorem Legal.advance_lexeme {item : Progress} {edge : Edge} {code : Nat} {kind : Option Terminal}
    {waiting : List (Waiting Progress)} (legal : item.Legal) (leaves : edge ∈ item.spot.edges)
    (goal : edge.goal = .token code kind) (start stop here : Nat)
    (callers : ∀ w ∈ waiting, w.Legal) :
    (item.advance edge [Column.lexemeNode kind edge.field start stop] here waiting).Legal := by
  refine .of_waiting ?_ ?_
  · have further := Trail.lexeme legal.trail leaves goal start stop
    simpa [Progress.advance] using further
  · intro w among
    unfold Progress.advance at among
    dsimp only at among
    split at among
    · exact callers w among
    · exact legal.waiting w among

/-- A rule that has ended carries on one who waited for it. -/
theorem Legal.advance_caller {item : Progress} {w : Waiting Progress} (legal : item.Legal)
    (ends : item.spot.final = true) (caller : w.Legal) (same : w.rule = item.rule) (here : Nat) :
    (w.item.advance w.edge (item.nodes w.edge.field) here item.waiting).Legal := by
  refine .of_waiting ?_ ?_
  · have further :=
      Trail.cross caller.item.trail caller.leaves (same ▸ caller.goal) legal.trail ends
    simpa [Progress.advance, reverse_nodes] using further
  · intro v among
    unfold Progress.advance at among
    dsimp only at among
    split at among
    · exact legal.waiting v among
    · exact caller.item.waiting v among

end Progress

/-! ## Columns -/

namespace Column

/-- A column whose items and waiting ones are legal. -/
structure Legal (column : Column) : Prop where
  items : ∀ item ∈ column.items, item.Legal
  waiting : ∀ w ∈ column.waiting, w.Legal

theorem legal_empty : Legal {} :=
  ⟨by simp, by simp⟩

theorem Legal.cons_item {column : Column} (legal : column.Legal) {item : Progress}
    (added : item.Legal) : Legal { column with items := item :: column.items } :=
  ⟨List.forall_mem_cons.mpr ⟨added, legal.items⟩, legal.waiting⟩

theorem Legal.cons_waiting {column : Column} (legal : column.Legal) {w : Waiting Progress}
    (added : w.Legal) : Legal { column with waiting := w :: column.waiting } :=
  ⟨legal.items, List.forall_mem_cons.mpr ⟨added, legal.waiting⟩⟩

/-- All that follows from a legal item is legal. The induction is on the fuel, and the two
loops keep the column legal edge by edge and caller by caller. -/
theorem legal_add (here : Nat) (ahead : TerminalSet) (fuel : Nat) {item : Progress}
    {column : Column} (added : item.Legal) (legal : column.Legal) :
    (add here ahead fuel item column).Legal := by
  induction fuel generalizing item column with
  | zero => exact legal
  | succ fuel ih =>
      rw [add]
      split
      · exact legal
      · dsimp only
        have finish (started : Column) (legalStarted : started.Legal) :
            Legal (if item.spot.final then
              item.waiting.foldl
                (fun column caller =>
                  if caller.rule == item.rule then
                    add here ahead fuel
                      (caller.item.advance caller.edge (item.nodes caller.edge.field) item.start
                        item.waiting)
                      column
                  else column)
                started
            else started) := by
          split
          · rename_i ends
            refine List.foldlRecOn _ _ legalStarted fun later legalLater caller waits => ?_
            split
            · rename_i same
              have carried := added.advance_caller ends (added.waiting caller waits)
                (by simpa using same) item.start
              exact ih carried legalLater
            · exact legalLater
          · exact legalStarted
        apply finish
        refine List.foldlRecOn _ _ (legal.cons_item added) fun later legalLater edge leaves => ?_
        split
        · exact legalLater
        · rename_i rule goal
          split
          · exact legalLater
          · exact ih (Progress.legal_fresh rule here)
              (legalLater.cons_waiting ⟨leaves, goal, added⟩)

theorem legal_close (here : Nat) (ahead : TerminalSet) {seeds : List Progress}
    (legal : ∀ item ∈ seeds, item.Legal) : (close here ahead seeds).Legal := by
  unfold close
  refine List.foldlRecOn _ _ legal_empty fun column legalColumn item among => ?_
  exact legal_add here ahead _ (legal item among) legalColumn

theorem mem_insertByStart {x item : Progress} {items : List Progress}
    (among : item ∈ insertByStart x items) : item = x ∨ item ∈ items := by
  induction items with
  | nil => simpa [insertByStart] using among
  | cons y rest ih =>
      rw [insertByStart] at among
      split at among
      · simpa using among
      · rcases List.mem_cons.mp among with rfl | later
        · exact .inr List.mem_cons_self
        · rcases ih later with same | old
          · exact .inl same
          · exact .inr (List.mem_cons_of_mem _ old)

theorem legal_insertByStart {x : Progress} {items : List Progress} (added : x.Legal)
    (legal : ∀ item ∈ items, item.Legal) : ∀ item ∈ insertByStart x items, item.Legal := by
  intro item among
  rcases mem_insertByStart among with rfl | old
  · exact added
  · exact legal item old

theorem legal_read {column : Column} (legal : column.Legal) (here code start stop : Nat) :
    ∀ item ∈ column.read here code start stop, item.Legal := by
  unfold read
  refine List.foldlRecOn (motive := fun found => ∀ item ∈ found, Progress.Legal item) _ _ (by simp)
    fun found legalFound item among => ?_
  refine List.foldlRecOn (motive := fun found => ∀ item ∈ found, Progress.Legal item) _ _ legalFound
    fun found legalFound edge leaves => ?_
  split
  · rename_i c kind goal
    split
    · have taken :=
        (legal.items item among).advance_lexeme leaves goal start stop here legal.waiting
      exact legal_insertByStart taken legalFound
    · exact legalFound
  · exact legalFound

/-- A root that is found has a trail. -/
theorem grown_of_root? {column : Column} (legal : column.Legal) {root : Node}
    (found : column.root? = some root) : root.Grown := by
  obtain ⟨item, first, rfl⟩ := Option.map_eq_some_iff.mp found
  have holds := List.find?_some first
  rw [Bool.and_eq_true, beq_iff_eq] at holds
  obtain ⟨isProgram, ends⟩ := holds
  have trail := (legal.items item (List.mem_of_find?_eq_some first)).trail
  rw [Progress.spot] at ends
  rw [isProgram] at trail ends
  exact ⟨item.place, item.children.reverse, trail, ends, rfl⟩

end Column

/-! ## Readings -/

namespace Ahead

/-- A column to be made from legal items. -/
def Legal (x : Ahead) : Prop :=
  ∀ item ∈ x.seeds, item.Legal

theorem legal_initial (source : Text) : (initial source).Legal := by
  intro item among
  unfold initial at among
  split at among <;>
    (rw [List.mem_singleton.mp among]; exact Progress.legal_fresh _ _)

theorem legal_insert {x : Ahead} {columns : List Ahead} (added : x.Legal)
    (legal : ∀ y ∈ columns, y.Legal) : ∀ y ∈ insert x columns, y.Legal := by
  induction columns with
  | nil => simpa [insert] using added
  | cons y rest ih =>
      rw [List.forall_mem_cons] at legal
      rw [insert]
      split
      · exact List.forall_mem_cons.mpr ⟨added, List.forall_mem_cons.mpr legal⟩
      · split
        · refine List.forall_mem_cons.mpr ⟨?_, legal.2⟩
          exact List.foldlRecOn (motive := fun found => ∀ item ∈ found, Progress.Legal item) _ _
            legal.1 fun found legalFound item among =>
              Column.legal_insertByStart (added item among) legalFound
        · exact List.forall_mem_cons.mpr ⟨legal.1, ih legal.2⟩

theorem legal_stop {x : Ahead} (legal : x.Legal) : x.stop.column.Legal :=
  Column.legal_close _ _ legal

theorem Stop.legal_after {s : Stop} (legal : s.column.Legal) (start : Nat) (text : Text)
    (candidates : List Candidate) : ∀ x ∈ s.after start text candidates, x.Legal := by
  intro x found
  obtain ⟨c, -, rfl⟩ := Option.map_eq_some_iff.mp found
  exact Column.legal_read legal _ _ _ _

theorem Stop.legal_next {s : Stop} (legal : s.column.Legal) : ∀ x ∈ s.next, x.Legal := by
  intro x among
  simp only [next, List.mem_append, Option.mem_toList] at among
  rcases among with (main | angle) | inner
  · exact legal_after legal _ _ _ x main
  · exact legal_after legal _ _ _ x angle
  · exact legal_after legal _ _ _ x inner

theorem Stop.grown_of_root? {s : Stop} (legal : s.column.Legal) {root : Node}
    (found : s.root? = some root) : root.Grown := by
  unfold Stop.root? at found
  split at found
  · exact Column.grown_of_root? legal found
  · cases found

end Ahead

theorem Reading.grown_of_run {fuel : Nat} {last : Ahead.Stop} {before more : List Ahead}
    {root : Node} (legal : ∀ x ∈ more, x.Legal)
    (read : Reading.run fuel last before more = .accepted root) : root.Grown := by
  induction fuel generalizing last before more with
  | zero => simp [Reading.run] at read
  | succ fuel ih =>
      cases more with
      | nil => simp [Reading.run] at read
      | cons x more =>
          rw [List.forall_mem_cons] at legal
          have made := Ahead.legal_stop legal.1
          rw [Reading.run] at read
          split at read
          · rename_i found
            cases read
            exact x.stop.grown_of_root? made found
          · refine ih ?_ read
            exact List.foldlRecOn (motive := fun ahead => ∀ y ∈ ahead, Ahead.Legal y) _ _ legal.2
              fun ahead legalAhead y among =>
                Ahead.legal_insert (Ahead.Stop.legal_next made y among) legalAhead

/-- Every tree that is read has grown by the rules of the grammar, comments apart. -/
theorem grown_of_readTree? {source : Text} {root : Node} (read : readTree? source = some root) :
    ∃ bare : Node, bare.Grown ∧ root = bare.withComments source := by
  have made := Ahead.legal_stop (Ahead.legal_initial source)
  unfold readTree? at read
  split at read
  · rename_i bare accepted
    refine ⟨bare, ?_, (Option.some.inj read).symm⟩
    unfold Ahead.run at accepted
    dsimp only at accepted
    split at accepted
    · rename_i found
      cases accepted
      exact Ahead.Stop.grown_of_root? made found
    · exact Reading.grown_of_run (Ahead.Stop.legal_next made) accepted
  · cases read

end Rethrow.Java
