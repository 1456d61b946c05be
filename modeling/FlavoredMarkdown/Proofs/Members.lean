import FlavoredMarkdown.Render.Visit

/-!
# The nodes of a tree

Statements about a document speak of all nodes of certain kinds, and of the container directly
around them. `Node.members` lists the nodes of a tree in document order, each with the kind of its
parent.

Results:
* `mem_members_box`: what is in a container is the container itself and what is in its children.
* `parent_of_mem_members`: the parent of a node below the root is in the list as well.
* `parentKind?_cons`: the children of a container see its kind as that of their parent.
* `mem_members_of_visited`, `parent_of_mem_visited`: the nodes that a rendering visits are nodes of
  the tree, and none is directly in an image.
-/

namespace FlavoredMarkdown

/-- A node and the kind of the container directly around it. -/
structure Member where
  parent : Option Container
  node : Node

namespace Node

/-- The kind of a container. -/
def container? : Node → Option Container
  | .leaf .. => none
  | .box kind .. => some kind

/-- Whether the node is an image. -/
def isImage : Node → Bool
  | .box (.image ..) .. => true
  | _ => false

theorem exists_of_isImage {n : Node} (h : n.isImage = true) :
    ∃ url title info children, n = .box (.image url title) info children := by
  unfold isImage at h
  split at h
  · exact ⟨_, _, _, _, rfl⟩
  · cases h

mutual

/-- The nodes of a tree in document order, each with the kind of its parent. -/
def members (parent : Option Container) : Node → List Member
  | .leaf kind info => [⟨parent, .leaf kind info⟩]
  | .box kind info children => ⟨parent, .box kind info children⟩ :: membersAll (some kind) children

/-- The nodes of several trees with one parent. -/
def membersAll (parent : Option Container) : List Node → List Member
  | [] => []
  | n :: rest => members parent n ++ membersAll parent rest

end

@[simp] theorem members_leaf (parent : Option Container) (kind : Leaf) (info : Info) :
    members parent (.leaf kind info) = [⟨parent, .leaf kind info⟩] := by
  rw [members]

@[simp] theorem members_box (parent : Option Container) (kind : Container) (info : Info)
    (children : List Node) :
    members parent (.box kind info children) =
      ⟨parent, .box kind info children⟩ :: membersAll (some kind) children := by
  rw [members]

theorem membersAll_eq_flatMap (parent : Option Container) (nodes : List Node) :
    membersAll parent nodes = nodes.flatMap (members parent) := by
  induction nodes with
  | nil => rfl
  | cons n rest ih => rw [membersAll, ih, List.flatMap_cons]

/-- A tree is among its own nodes. -/
theorem self_mem_members (parent : Option Container) (n : Node) :
    ⟨parent, n⟩ ∈ members parent n := by
  cases n <;> simp

theorem mem_members_box {parent : Option Container} {kind : Container} {info : Info}
    {children : List Node} {q : Member} :
    q ∈ members parent (.box kind info children) ↔
      q = ⟨parent, .box kind info children⟩ ∨ ∃ c ∈ children, q ∈ members (some kind) c := by
  simp [membersAll_eq_flatMap]

/-- What is below a container is among its nodes. -/
theorem mem_members_of_below (parent : Option Container) {kind : Container} (info : Info)
    {children : List Node} {q : Member} (h : q ∈ membersAll (some kind) children) :
    q ∈ members parent (.box kind info children) := by
  rw [members_box]
  exact List.mem_cons_of_mem _ h

mutual

/-- The parent of a node below is in the list as well. -/
theorem parent_of_mem_members {q : Member} : ∀ (n : Node) (parent : Option Container),
    q ∈ members parent n →
      q = ⟨parent, n⟩ ∨ ∃ r ∈ members parent n, q.parent = r.node.container?
  | .leaf kind info, parent, h => by simpa using Or.inl h
  | .box kind info children, parent, h => by
    rw [members_box] at h ⊢
    rcases List.mem_cons.mp h with rfl | h
    · exact .inl rfl
    · rcases parent_of_mem_membersAll children (some kind) h with hp | ⟨r, hr, hq⟩
      · exact .inr ⟨_, List.mem_cons_self .., hp⟩
      · exact .inr ⟨r, List.mem_cons_of_mem _ hr, hq⟩

theorem parent_of_mem_membersAll {q : Member} : ∀ (nodes : List Node) (parent : Option Container),
    q ∈ membersAll parent nodes →
      q.parent = parent ∨ ∃ r ∈ membersAll parent nodes, q.parent = r.node.container?
  | [], parent, h => by simp [membersAll] at h
  | n :: rest, parent, h => by
    rw [membersAll] at h ⊢
    rcases List.mem_append.mp h with h | h
    · rcases parent_of_mem_members n parent h with rfl | ⟨r, hr, hq⟩
      · exact .inl rfl
      · exact .inr ⟨r, List.mem_append_left _ hr, hq⟩
    · rcases parent_of_mem_membersAll rest parent h with hp | ⟨r, hr, hq⟩
      · exact .inl hp
      · exact .inr ⟨r, List.mem_append_right _ hr, hq⟩

end

end Node

/-- Inside a container, its kind is that of the parent. -/
@[simp] theorem parentKind?_cons (kind : Container) (info : Info) (children : List Node)
    (place : List Nat) (ancestors : List Occurrence) :
    parentKind? (⟨.box kind info children, place⟩ :: ancestors) = some kind := rfl

@[simp] theorem parentKind?_nil : parentKind? [] = none := rfl

/-! ## Visited nodes -/

namespace Node

mutual

/-- The nodes of a tree that a rendering visits, in document order: those that are in no image. -/
def visited (parent : Option Container) : Node → List Member
  | .leaf kind info => [⟨parent, .leaf kind info⟩]
  | .box kind info children =>
    ⟨parent, .box kind info children⟩ ::
      if (Node.box kind info children).isImage then [] else visitedAll (some kind) children

/-- The visited nodes of several trees with one parent. -/
def visitedAll (parent : Option Container) : List Node → List Member
  | [] => []
  | n :: rest => visited parent n ++ visitedAll parent rest

end

@[simp] theorem visited_leaf (parent : Option Container) (kind : Leaf) (info : Info) :
    visited parent (.leaf kind info) = [⟨parent, .leaf kind info⟩] := by
  rw [visited]

theorem visited_box (parent : Option Container) (kind : Container) (info : Info)
    (children : List Node) :
    visited parent (.box kind info children) =
      ⟨parent, .box kind info children⟩ ::
        if (Node.box kind info children).isImage then [] else visitedAll (some kind) children := by
  rw [visited]

mutual

/-- Visited nodes are nodes of the tree. -/
theorem mem_members_of_visited {q : Member} : ∀ (n : Node) (parent : Option Container),
    q ∈ visited parent n → q ∈ members parent n
  | .leaf kind info, parent, h => by simpa using h
  | .box kind info children, parent, h => by
    rw [visited_box] at h
    rw [members_box]
    rcases List.mem_cons.mp h with rfl | h
    · exact List.mem_cons_self
    · split at h
      · cases h
      · exact List.mem_cons_of_mem _ (mem_membersAll_of_visited children (some kind) h)

theorem mem_membersAll_of_visited {q : Member} : ∀ (nodes : List Node)
    (parent : Option Container), q ∈ visitedAll parent nodes → q ∈ membersAll parent nodes
  | [], parent, h => by simp [visitedAll] at h
  | n :: rest, parent, h => by
    rw [visitedAll] at h
    rw [membersAll]
    rcases List.mem_append.mp h with h | h
    · exact List.mem_append_left _ (mem_members_of_visited n parent h)
    · exact List.mem_append_right _ (mem_membersAll_of_visited rest parent h)

end

mutual

/-- No visited node is directly in an image, unless the whole tree is. -/
theorem parent_of_mem_visited {q : Member} : ∀ (n : Node) (parent : Option Container),
    q ∈ visited parent n → q.parent = parent ∨ ∀ url title, q.parent ≠ some (.image url title)
  | .leaf kind info, parent, h => by
    rw [visited_leaf, List.mem_singleton] at h
    exact .inl (h ▸ rfl)
  | .box kind info children, parent, h => by
    rw [visited_box] at h
    rcases List.mem_cons.mp h with rfl | h
    · exact .inl rfl
    · split at h
      · cases h
      · next hi =>
        rcases parent_of_mem_visitedAll children (some kind) h with hp | hp
        · right
          rintro url title he
          rw [hp, Option.some.injEq] at he
          exact hi (by rw [he]; rfl)
        · exact .inr hp

theorem parent_of_mem_visitedAll {q : Member} : ∀ (nodes : List Node)
    (parent : Option Container), q ∈ visitedAll parent nodes →
      q.parent = parent ∨ ∀ url title, q.parent ≠ some (.image url title)
  | [], parent, h => by simp [visitedAll] at h
  | n :: rest, parent, h => by
    rw [visitedAll] at h
    rcases List.mem_append.mp h with h | h
    · exact parent_of_mem_visited n parent h
    · exact parent_of_mem_visitedAll rest parent h

end

end Node

/-! ## What statements ask of the nodes -/

namespace Member

/-- Whether the node is directly in a link. -/
def inLink (q : Member) : Bool :=
  match q.parent with
  | some (.link ..) => true
  | _ => false

/-- Whether the node is directly in a link or an image. -/
def inLabel (q : Member) : Bool :=
  match q.parent with
  | some (.link ..) | some (.image ..) => true
  | _ => false

/-- The literal text of a text node. -/
def text? (q : Member) : Option String :=
  match q.node with
  | .leaf (.text content) _ => some content
  | _ => none

/-- The URL of a link or an image. -/
def url? (q : Member) : Option String :=
  match q.node with
  | .box (.link url _) .. | .box (.image url _) .. => some url
  | _ => none

/-- The symbol of a task item that has one. -/
def symbol? (q : Member) : Option Char :=
  match q.node with
  | .box (.taskItem symbol) .. => symbol
  | _ => none

/-- Whether the node is a list that is flagged as a task list. -/
def isTaskList (q : Member) : Bool :=
  match q.node with
  | .box (.list _ _ _ isTaskList) .. => isTaskList
  | _ => false

/-- The alignment of a table cell that has one. -/
def alignment? (q : Member) : Option String :=
  match q.node with
  | .box (.tableCell alignment) .. => alignment
  | _ => none

/-- Whether the node is a footnote. -/
def isFootnote (q : Member) : Bool :=
  match q.node with
  | .box (.footnoteDefinition ..) .. => true
  | _ => false

/-- The first row of the body of a table that has one. -/
def firstBodyRow? (q : Member) : Option Node :=
  match q.node with
  | .box (.table hasHeader) _ children => (tableRows hasHeader children).head?
  | _ => none

end Member

end FlavoredMarkdown
