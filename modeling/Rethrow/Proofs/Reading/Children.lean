import Rethrow.Unit.Equality
import Rethrow.Unit.Reading

/-!
# The children of a container

Documentation comments wait for the declaration behind them while the children of a unit or of a
type's body are read. What each child becomes depends on its neighbours only: a documentation
comment is taken by the next child if that one may be documented, and stands for itself
otherwise; every other child becomes one entry of its own.

So the entries are the shares of the children, put together in order (`documented_eq`), and no
child is lost, doubled or moved (`children_kept`).
-/

namespace Rethrow.Reading

open Java

/-! ## Shares -/

section

variable (isDoc takesDoc : Node → Bool)

/-- The entries that a child adds: `doc` is the documentation comment right in front of it, and
`next` is the child behind it. -/
def shareOf (doc : Option Node) (n : Node) (next : Option Node) : List Entry :=
  if isDoc n then if next.any takesDoc then [] else [.loose n]
  else [.child (if takesDoc n then doc else none) n]

/-- The shares of some children, the first of which stands behind the documentation comment
`doc`. -/
def sharesOf (doc : Option Node) : List Node → List (List Entry)
  | [] => []
  | n :: rest =>
    shareOf isDoc takesDoc doc n rest.head? ::
      sharesOf (if isDoc n then some n else none) rest

/-- The documentation comment right in front of the child with an index. -/
def docBefore (doc : Option Node) (nodes : List Node) : Nat → Option Node
  | 0 => doc
  | index + 1 => nodes[index]?.filter isDoc

variable {isDoc takesDoc}

/-- The pending comment is loose unless the first child takes it, and the shares follow. -/
theorem documented_eq (apart : ∀ n, isDoc n = true → takesDoc n = false) (pending : Option Node)
    (nodes : List Node) :
    documented isDoc takesDoc pending nodes =
      (if nodes.head?.any takesDoc then [] else looseEntry pending) ++
        (sharesOf isDoc takesDoc pending nodes).flatten := by
  -- The pending comment is the share of a child that is already behind: it stands in front.
  induction nodes generalizing pending with
  | nil => simp [documented, sharesOf]
  | cons n rest ih =>
      rw [documented, sharesOf, List.flatten_cons, List.head?_cons, Option.any_some, shareOf]
      split
      · rename_i doc
        rw [apart n doc, if_neg Bool.false_ne_true, ih (some n)]
        rfl
      · split
        · rw [ih none]
          simp [looseEntry]
        · rw [ih none]
          simp [looseEntry]

theorem length_sharesOf (doc : Option Node) (nodes : List Node) :
    (sharesOf isDoc takesDoc doc nodes).length = nodes.length := by
  induction nodes generalizing doc with
  | nil => rfl
  | cons n rest ih => rw [sharesOf, List.length_cons, ih, List.length_cons]

/-- A share is told by the neighbours of its child. -/
theorem getElem?_sharesOf (doc : Option Node) (nodes : List Node) (index : Nat) :
    (sharesOf isDoc takesDoc doc nodes)[index]? = nodes[index]?.map fun n =>
      shareOf isDoc takesDoc (docBefore isDoc doc nodes index) n nodes[index + 1]? := by
  induction nodes generalizing doc index with
  | nil => rfl
  | cons n rest ih =>
      cases index with
      | zero => simp [sharesOf, docBefore, List.head?_eq_getElem?]
      | succ index =>
          rw [sharesOf, List.getElem?_cons_succ, List.getElem?_cons_succ, ih]
          cases index with
          | zero => simp [docBefore, Option.filter]
          | succ index => rfl

end

/-! ## Lists of children -/

/-- How the children of a container are listed. -/
structure Listing (α : Type) where
  /-- The children that may be documented. -/
  takesDoc : Node → Bool
  /-- What stands for a documentation comment that no declaration follows. -/
  alone : Text → α
  /-- What may stand for any other child. -/
  shows : Node → α → Prop
  /-- The documentation of what stands for a child. -/
  documentation : α → Option Text

/-- The documentation comment of a child: the one in front of it or, without one, one that is its
first named child. -/
def docNode? (source : Text) (before : Option Node) (n : Node) : Option Node :=
  (before.filter (isDoc source)).or (n.namedChildren.head?.filter (isDoc source))

theorem docOf_filter (source : Text) (before : Option Node) (n : Node) :
    docOf source (before.filter (isDoc source)) n =
      (docNode? source before n).map (verbatim source) := by
  rw [docOf, docNode?]
  cases before.filter (isDoc source) <;> rfl

/-- The child in front of the one with an index. -/
def previous (nodes : List Node) : Nat → Option Node
  | 0 => none
  | index + 1 => nodes[index]?

namespace Listing

variable {α : Type}

/-- What a list may hold for a child `n` between two neighbours. -/
inductive Share (source : Text) (listing : Listing α) (before : Option Node) (n : Node)
    (next : Option Node) : List α → Prop where
  /-- A documentation comment is taken by the child behind it. -/
  | taken {follower : Node} (doc : isDoc source n = true) (behind : next = some follower)
      (takes : listing.takesDoc follower = true) : Share source listing before n next []
  /-- A documentation comment stands for itself. -/
  | loose (doc : isDoc source n = true)
      (free : ∀ follower, next = some follower → listing.takesDoc follower = false) :
      Share source listing before n next [listing.alone (verbatim source n)]
  /-- Any other child is one entry, which has documentation only if the child may have it. -/
  | child {x : α} (plain : isDoc source n = false) (shown : listing.shows n x)
      (documented : listing.documentation x =
        if listing.takesDoc n then (docNode? source before n).map (verbatim source) else none) :
      Share source listing before n next [x]

/-- A list holds every one of some children once, and in order. -/
def Keeps (source : Text) (listing : Listing α) (nodes : List Node) (made : List α) : Prop :=
  ∃ shares : List (List α), made = shares.flatten ∧ shares.length = nodes.length ∧
    ∀ index n share, nodes[index]? = some n → shares[index]? = some share →
      listing.Share source (previous nodes index) n nodes[index + 1]? share

/-- Entries are kept if what stands for each of them is right. -/
theorem keeps_documented {source : Text} {listing : Listing α} {entry : Entry → α}
    {nodes : List Node} (apart : ∀ n, isDoc source n = true → listing.takesDoc n = false)
    (loose : ∀ d, entry (.loose d) = listing.alone (verbatim source d))
    (child : ∀ n ∈ nodes, ∀ doc, listing.shows n (entry (.child doc n)) ∧
      listing.documentation (entry (.child doc n)) =
        if listing.takesDoc n then docOf source doc n else none) :
    listing.Keeps source nodes
      ((documented (isDoc source) listing.takesDoc none nodes).map entry) := by
  refine ⟨(sharesOf (isDoc source) listing.takesDoc none nodes).map (List.map entry), ?_, ?_, ?_⟩
  · rw [documented_eq apart, List.map_append, List.map_flatten]
    split <;> rfl
  · rw [List.length_map, length_sharesOf]
  · intro index n share at_ found
    have before : docBefore (isDoc source) none nodes index =
        (previous nodes index).filter (isDoc source) := by
      cases index <;> rfl
    rw [List.getElem?_map, getElem?_sharesOf, at_, before, Option.map_some, Option.map_some,
      Option.some.injEq] at found
    subst found
    unfold shareOf
    by_cases doc : isDoc source n = true
    · rw [if_pos doc]
      by_cases takes : nodes[index + 1]?.any listing.takesDoc = true
      · rw [if_pos takes]
        obtain ⟨follower, behind, takes'⟩ := (Option.any_eq_true _ _).mp takes
        exact .taken doc behind takes'
      · rw [if_neg takes, List.map_singleton, loose]
        refine .loose doc fun follower behind => ?_
        rw [behind] at takes
        simpa using takes
    · obtain ⟨shown, documentation⟩ := child n (List.mem_of_getElem? at_)
        (if listing.takesDoc n then (previous nodes index).filter (isDoc source) else none)
      rw [if_neg doc, List.map_singleton]
      refine .child (Bool.eq_false_iff.mpr doc) shown (documentation.trans ?_)
      split
      · exact docOf_filter ..
      · rfl

end Listing

/-! ## Units -/

/-- What stands for a child of a unit. -/
inductive ItemShows (source : Text) (n : Node) : Item → Prop where
  | typeDecl {decl : TypeDecl} (declares : isTypeDecl n = true)
      (made : typeDecl source decl.doc n = decl) : ItemShows source n (.typeDecl decl)
  | packageDecl (made : n.isRule .packageDeclaration = true) :
      ItemShows source n (.packageDecl (collapsed source n))
  | importDecl (made : n.isRule .importDeclaration = true) :
      ItemShows source n (.importDecl (collapsed source n))
  | comment (made : n.isComment = true) : ItemShows source n (.comment (verbatim source n))
  | other (type : isTypeDecl n = false) (package : n.isRule .packageDeclaration = false)
      (import_ : n.isRule .importDeclaration = false) (comment : n.isComment = false) :
      ItemShows source n (.other (verbatim source n))

/-- The documentation of an item. -/
def itemDoc : Item → Option Text
  | .typeDecl decl => decl.doc
  | _ => none

/-- The children of a unit are listed as items. -/
def unitListing (source : Text) : Listing Item where
  takesDoc := isTypeDecl
  alone := .comment
  shows := ItemShows source
  documentation := itemDoc

/-! ## Members -/

/-- What stands for a child of the body of a type. -/
inductive MemberShows (source : Text) (n : Node) : Member → Prop where
  | procedure {decl : Procedure} (method : n.isRule .methodDeclaration = true)
      (made : procedure source decl.doc n = .procedure decl) :
      MemberShows source n (.procedure decl)
  | constructor {decl : Constructor} (constructs : isConstructor n = true)
      (made : constructor source decl.doc n = .constructor decl) :
      MemberShows source n (.constructor decl)
  | field (made : n.isRule .fieldDeclaration = true ∨ n.isRule .constantDeclaration = true) :
      MemberShows source n (.field (verbatim source n))
  | nested {name : Text} (declares : isTypeDecl n = true)
      (named : ((n.child? .name).map (textOf source)).getD [] = name) :
      MemberShows source n (.nested name (verbatim source n))
  | other (plain : takesMemberDoc n = false) (field : n.isRule .fieldDeclaration = false)
      (constant : n.isRule .constantDeclaration = false) (type : isTypeDecl n = false) :
      MemberShows source n (.other (verbatim source n))

/-- The documentation of a member. -/
def memberDoc : Member → Option Text
  | .procedure decl => decl.doc
  | .constructor decl => decl.doc
  | _ => none

/-- The children of the body of a type are listed as members. -/
def bodyListing (source : Text) : Listing Member where
  takesDoc := takesMemberDoc
  alone := .other
  shows := MemberShows source
  documentation := memberDoc

/-- A method or constructor has the parts that the grammar gives it. -/
structure Complete (n : Node) : Prop where
  method : n.isRule .methodDeclaration = true →
    (n.child? .name).isSome = true ∧ (n.child? .parameters).isSome = true
  plain : n.isRule .constructorDeclaration = true → (n.child? .name).isSome = true ∧
    (n.child? .parameters).isSome = true ∧ (n.child? .body).isSome = true
  compact : n.isRule .compactConstructor = true →
    (n.child? .name).isSome = true ∧ (n.child? .body).isSome = true

instance (n : Node) : Decidable (Complete n) :=
  decidable_of_iff (_ ∧ _ ∧ _)
    ⟨fun parts => ⟨parts.1, parts.2.1, parts.2.2⟩,
      fun complete => ⟨complete.method, complete.plain, complete.compact⟩⟩

theorem Complete.procedure_eq {n : Node} (complete : Complete n)
    (method : n.isRule .methodDeclaration = true) (source : Text) (doc : Option Text) :
    ∃ decl : Procedure, procedure source doc n = .procedure decl ∧ decl.doc = doc := by
  obtain ⟨named, listed⟩ := complete.method method
  obtain ⟨name, named⟩ := Option.isSome_iff_exists.mp named
  obtain ⟨parameters, listed⟩ := Option.isSome_iff_exists.mp listed
  rw [procedure, named, listed]
  exact ⟨_, rfl, rfl⟩

theorem Complete.constructor_eq {n : Node} (complete : Complete n)
    (constructs : isConstructor n = true) (source : Text) (doc : Option Text) :
    ∃ decl : Constructor, constructor source doc n = .constructor decl ∧ decl.doc = doc := by
  have parts : (n.child? .name).isSome = true ∧ (n.child? .body).isSome = true ∧
      ((n.child? .parameters).isSome || n.isRule .compactConstructor) = true := by
    rw [isConstructor, Bool.or_eq_true] at constructs
    rcases constructs with plain | compact
    · obtain ⟨named, listed, bodied⟩ := complete.plain plain
      exact ⟨named, bodied, by rw [listed, Bool.true_or]⟩
    · obtain ⟨named, bodied⟩ := complete.compact compact
      exact ⟨named, bodied, by rw [compact, Bool.or_true]⟩
  obtain ⟨named, bodied, allowed⟩ := parts
  obtain ⟨name, named⟩ := Option.isSome_iff_exists.mp named
  obtain ⟨body, bodied⟩ := Option.isSome_iff_exists.mp bodied
  rw [constructor, named, bodied]
  dsimp only
  rw [if_pos allowed]
  exact ⟨_, rfl, rfl⟩

/-! ## Containers -/

theorem kind_of_isDoc {source : Text} {n : Node} (doc : isDoc source n = true) :
    n.kind = .comment .block := by
  rw [isDoc, Bool.and_eq_true, decide_eq_true_eq] at doc
  exact doc.1

theorem isTypeDecl_of_isDoc {source : Text} {n : Node} (doc : isDoc source n = true) :
    isTypeDecl n = false := by
  rw [isTypeDecl, kind_of_isDoc doc]

theorem takesMemberDoc_of_isDoc {source : Text} {n : Node} (doc : isDoc source n = true) :
    takesMemberDoc n = false := by
  simp [takesMemberDoc, isConstructor, Node.isRule, kind_of_isDoc doc]

theorem shows_item (source : Text) (doc : Option Node) (n : Node) :
    ItemShows source n (item source (.child doc n)) ∧
      itemDoc (item source (.child doc n)) =
        if isTypeDecl n then docOf source doc n else none := by
  unfold item
  dsimp only
  split
  · rename_i declares
    exact ⟨.typeDecl declares rfl, rfl⟩
  · split
    · rename_i made
      exact ⟨.packageDecl made, rfl⟩
    · split
      · rename_i made
        exact ⟨.importDecl made, rfl⟩
      · split
        · rename_i made
          exact ⟨.comment made, rfl⟩
        · refine ⟨.other ?_ ?_ ?_ ?_, rfl⟩ <;> rwa [Bool.eq_false_iff]

theorem shows_member {n : Node} (complete : Complete n) (source : Text) (doc : Option Node) :
    MemberShows source n (member source (.child doc n)) ∧
      memberDoc (member source (.child doc n)) =
        if takesMemberDoc n then docOf source doc n else none := by
  unfold member
  dsimp only
  by_cases method : n.isRule .methodDeclaration = true
  · obtain ⟨decl, made, documented⟩ := complete.procedure_eq method source (docOf source doc n)
    rw [if_pos method, if_pos (by rw [takesMemberDoc, method, Bool.true_or]), made]
    exact ⟨.procedure method (by rw [documented, made]), documented⟩
  · rw [if_neg method]
    by_cases constructs : isConstructor n = true
    · obtain ⟨decl, made, documented⟩ :=
        complete.constructor_eq constructs source (docOf source doc n)
      rw [if_pos constructs, if_pos (by rw [takesMemberDoc, constructs, Bool.or_true]), made]
      exact ⟨.constructor constructs (by rw [documented, made]), documented⟩
    · have plain : takesMemberDoc n = false := by
        simp [takesMemberDoc, method, constructs]
      rw [if_neg constructs, plain, if_neg Bool.false_ne_true]
      split
      · rename_i made
        exact ⟨.field (Bool.or_eq_true _ _ ▸ made), rfl⟩
      · rename_i noField
        rw [Bool.not_eq_true, Bool.or_eq_false_iff] at noField
        split
        · rename_i declares
          exact ⟨.nested declares rfl, rfl⟩
        · rename_i noType
          exact ⟨.other plain noField.1 noField.2 (Bool.eq_false_iff.mpr noType), rfl⟩

/-- The items of a unit and the members of a type keep every child once and in order: each
documentation comment is the documentation of the declaration right behind it or, without one,
stands for itself. -/
theorem children_kept (source : Text) (container : Node) :
    (unitListing source).Keeps source container.namedChildren (unit source container).items ∧
      ((∀ n ∈ container.namedChildren, Complete n) →
        (bodyListing source).Keeps source container.namedChildren (members source container)) := by
  constructor
  · exact Listing.keeps_documented (fun n => isTypeDecl_of_isDoc) (fun d => rfl)
      fun n _ doc => shows_item source doc n
  · intro complete
    exact Listing.keeps_documented (fun n => takesMemberDoc_of_isDoc) (fun d => rfl)
      fun n listed doc => shows_member (complete n listed) source doc

/-- The text of a body in which documentation comments follow one another, stand in front of a
field and stand last. -/
def notedSource : Text :=
  "/** a *//** b */void f(){}/** c */int x;/** d */".toList

/-- The tree of `notedSource`. -/
def notedBody : Node :=
  .node (.rule .classBody) none 0 48
    [.node (.comment .block) none 0 8 [], .node (.comment .block) none 8 16 [],
      .node (.rule .methodDeclaration) none 16 26
        [.node .identifier (some .type) 16 20 [], .node .identifier (some .name) 21 22 [],
          .node (.rule .formalParameters) (some .parameters) 22 24 [],
          .node (.rule .block) (some .body) 24 26 []],
      .node (.comment .block) none 26 34 [], .node (.rule .fieldDeclaration) none 34 40 [],
      .node (.comment .block) none 40 48 []]

/-- The members of `notedBody`. -/
def notedMembers : List Member :=
  [.other "/** a */".toList,
    .procedure {
      doc := some "/** b */".toList, returnType := "void".toList, name := "f".toList
      parameters := "()".toList, body := some [] },
    .other "/** c */".toList, .field "int x;".toList, .other "/** d */".toList]

theorem children_kept_notedBody :
    (∀ n ∈ notedBody.namedChildren, Complete n) ∧
      members notedSource notedBody = notedMembers ∧
      (bodyListing notedSource).Keeps notedSource notedBody.namedChildren notedMembers := by
  have complete : ∀ n ∈ notedBody.namedChildren, Complete n := by decide
  have made : members notedSource notedBody = notedMembers := by decide +kernel
  exact ⟨complete, made, made ▸ (children_kept notedSource notedBody).2 complete⟩

end Rethrow.Reading
