import FlavoredMarkdown.Document.PlainText

/-!
# Walking through a document

Model of `walk`. A walk visits a container before its children and again after them, and a leaf once. At
each visit a handler is called with the chain of containers that are open around the node. What it
answers on the way in decides about the children: they are visited, or flattened to plain text and
written at once, or left out.

A node in a tree is an `Occurrence`: the node and its place, the indices of the children on the way
down to it. Equal nodes at two places are two occurrences, which is how a handler can tell the first
row of a table from a row like it.
-/

namespace FlavoredMarkdown

/-- A node at its place in a tree. The last step of the way down comes first. -/
structure Occurrence where
  node : Node
  place : List Nat
  deriving Inhabited

/-- A whole tree. Trees that must be told apart get different labels. -/
def Occurrence.root (node : Node) (label : Nat) : Occurrence := ⟨node, [label]⟩

/-- The node at position `i` below. -/
def Occurrence.below (o : Occurrence) (i : Nat) (child : Node) : Occurrence := ⟨child, i :: o.place⟩

/-- The occurrences directly below. -/
def Occurrence.children (o : Occurrence) : List Occurrence := o.node.children.mapIdx o.below

/-- Whether two occurrences are one. -/
def Occurrence.isSame (o p : Occurrence) : Bool := o.place == p.place

/-- What becomes of the children of the node just visited (`ChildRendering`). -/
inductive Signal
  | html
  | plain
  | skip
  deriving DecidableEq, Repr

/-- The two visits of a container. -/
inductive Phase
  | entering
  | leaving
  deriving DecidableEq, Repr

/-- What is done at the visits of a walk: `dispatch` and `write_plain`. `ancestors` are the open
containers, the nearest first. -/
structure Handler (m : Type → Type) where
  visit : (ancestors : List Occurrence) → Occurrence → Phase → m Signal
  writePlain : String → m Unit

/-- A visit that is still to be made. -/
abbrev Visit := Occurrence × Phase

namespace Visit

/-- A measure for the visits that a visit may lead to, itself included. -/
def weight : Visit → Nat
  | (o, .entering) => o.node.weight
  | (_, .leaving) => 1

/-- The measure of several visits. -/
def weights : List Visit → Nat
  | [] => 0
  | v :: rest => weight v + weights rest

theorem weights_append (as bs : List Visit) : weights (as ++ bs) = weights as + weights bs := by
  induction as with
  | nil => simp [weights]
  | cons a as ih => simp [weights, ih, Nat.add_assoc]

theorem weights_children (o : Occurrence) :
    weights (o.children.map fun c => (c, Phase.entering)) = Node.weights o.node.children := by
  have h : ∀ (ns : List Node) (f : Nat → List Nat),
      weights ((ns.mapIdx fun i c => (⟨c, f i⟩ : Occurrence)).map fun c => (c, Phase.entering)) =
        Node.weights ns := by
    intro ns
    induction ns with
    | nil => intro f; simp [weights, Node.weights]
    | cons n rest ih =>
      intro f
      simp only [List.mapIdx_cons, List.map_cons, weights, Node.weights]
      rw [ih fun i => f (i + 1)]
      rfl
  exact h o.node.children (· :: o.place)

end Visit

/-- The visits that follow a container's first visit: its children's, if they are wanted, and its
second one. -/
def Occurrence.visitsBelow (o : Occurrence) : Signal → List Visit
  | .html => o.children.map (fun c => (c, Phase.entering)) ++ [(o, Phase.leaving)]
  | _ => [(o, Phase.leaving)]

theorem Occurrence.weights_visitsBelow (o : Occurrence) (s : Signal) :
    Visit.weights (o.visitsBelow s) < o.node.weight := by
  have h := Node.weights_children o.node
  have hc := Visit.weights_children o
  cases s with
  | html =>
    simp only [visitsBelow, Visit.weights_append, hc, Visit.weights, Visit.weight]
    omega
  | plain => simp [visitsBelow, Visit.weights, Visit.weight]; omega
  | skip => simp [visitsBelow, Visit.weights, Visit.weight]; omega

/-- Makes the pending visits, the next one first. The answer is the chain of containers that are still
open at the end. -/
def walkFrom {m : Type → Type} [Monad m] (handler : Handler m) (ancestors : List Occurrence) :
    (pending : List Visit) → m (List Occurrence)
  | [] => pure ancestors
  | (o, .leaving) :: rest => do
    let _ ← handler.visit ancestors.tail o .leaving
    walkFrom handler ancestors.tail rest
  | (o, .entering) :: rest => do
    let signal ← handler.visit ancestors o .entering
    if o.node.isLeaf then
      walkFrom handler ancestors rest
    else
      if signal = .plain then handler.writePlain (plainText o.node.children)
      walkFrom handler (o :: ancestors) (o.visitsBelow signal ++ rest)
termination_by pending => Visit.weights pending
decreasing_by
  · simp [Visit.weights, Visit.weight]
  · have := Node.two_le_weight o.node
    simp only [Visit.weights, Visit.weight]
    omega
  · have := o.weights_visitsBelow signal
    simp only [Visit.weights_append, Visit.weights, Visit.weight]
    omega

/-- Walks through a tree, inside the containers that are already open (`walk`). -/
def walk {m : Type → Type} [Monad m] (handler : Handler m) (ancestors : List Occurrence)
    (root : Occurrence) : m (List Occurrence) :=
  walkFrom handler ancestors [(root, .entering)]

end FlavoredMarkdown
