import FlavoredMarkdown.Proofs.Members

/-!
# A walk is a traversal of the tree

`walk` works off a list of pending visits (`walkFrom`) in which the children still to come and the
second visits of all open containers lie mixed, and it keeps the open containers beside it. `traverse`
says along the tree what is done: a container is visited, then what is below it is treated as the
handler asked for, then it is visited again inside the same containers.

* The handler is arbitrary: any monad that obeys the monad laws, so any state, any errors and any
  effect of `writePlain`. An equation between two programs of such a monad says that they make the
  same calls, in the same order and on the same state.
* Ancestors are kept nearest first, so `o :: ancestors` is what the children of `o` see.

Results:
* `walkFrom_enter` / `walkFrom_enterAll`: the pending first visits of a tree, or of a row of trees,
  are the traversal of it followed by the rest of the list. This is the invariant of the walk.
* **`walk_eq_traverse`**: a whole walk is the traversal of its root, and ends with the open
  containers it started with.
* `Correspondence.AtMembers.rel_traverse`: two traversals of one tree are related as soon as what
  they do at its nodes is, for every relation that the monad operations respect.
-/

namespace FlavoredMarkdown

variable {m : Type → Type} [Monad m]

/-- What is done between the two visits of a container: `descend` into the children, write them as
plain text, or nothing. -/
def Handler.inside (handler : Handler m) (children : List Node) (descend : m Unit) :
    Signal → m Unit
  | .html => descend
  | .plain => handler.writePlain (plainText children)
  | .skip => pure ()

/-- The two visits of a container inside the same ancestors, and what is done between them. -/
def Handler.around (handler : Handler m) (ancestors : List Occurrence) (o : Occurrence)
    (descend : m Unit) : m Unit := do
  let signal ← handler.visit ancestors o .entering
  handler.inside o.node.children descend signal
  let _ ← handler.visit ancestors o .leaving

mutual

/-- The visits to a node and to all that is below it, inside the containers that are already open.
-/
def traverse (handler : Handler m) (ancestors : List Occurrence) (place : List Nat) :
    Node → m Unit
  | .leaf kind info => do
    let _ ← handler.visit ancestors ⟨.leaf kind info, place⟩ .entering
  | .box kind info children =>
    let o : Occurrence := ⟨.box kind info children, place⟩
    handler.around ancestors o (traverseAll handler (o :: ancestors) place 0 children)

/-- The visits to the children at a place, the first of which has the position `i`. -/
def traverseAll (handler : Handler m) (ancestors : List Occurrence) (place : List Nat) (i : Nat) :
    List Node → m Unit
  | [] => pure ()
  | n :: rest => do
    traverse handler ancestors (i :: place) n
    traverseAll handler ancestors place (i + 1) rest

end

/-- The first visits to the children at a place, the first of which has the position `i`. -/
def entries (place : List Nat) (i : Nat) (nodes : List Node) : List Visit :=
  nodes.mapIdx fun j n => (⟨n, (i + j) :: place⟩, Phase.entering)

theorem entries_cons (place : List Nat) (i : Nat) (n : Node) (rest : List Node) :
    entries place i (n :: rest) = (⟨n, i :: place⟩, .entering) :: entries place (i + 1) rest := by
  simp [entries, List.mapIdx_cons, Nat.add_comm, Nat.add_left_comm]

/-- The visits to the children of a container are the entries at its place. -/
theorem Occurrence.entries_children (o : Occurrence) :
    o.children.map (fun c => (c, Phase.entering)) = entries o.place 0 o.node.children := by
  unfold Occurrence.children entries
  simp [List.mapIdx_eq_zipIdx_map, Occurrence.below]

/-! ## The steps of a walk -/

section Steps

variable (handler : Handler m) (ancestors : List Occurrence)

@[simp] theorem walkFrom_nil : walkFrom handler ancestors [] = pure ancestors := by
  rw [walkFrom]

theorem walkFrom_leave (o parent : Occurrence) (rest : List Visit) :
    walkFrom handler (parent :: ancestors) ((o, .leaving) :: rest) = (do
      let _ ← handler.visit ancestors o .leaving
      walkFrom handler ancestors rest) := by
  rw [walkFrom]
  rfl

theorem walkFrom_leaf (kind : Leaf) (info : Info) (place : List Nat) (rest : List Visit) :
    walkFrom handler ancestors ((⟨.leaf kind info, place⟩, .entering) :: rest) = (do
      let _ ← handler.visit ancestors ⟨.leaf kind info, place⟩ .entering
      walkFrom handler ancestors rest) := by
  rw [walkFrom]
  simp [Node.isLeaf]

theorem walkFrom_box {o : Occurrence} (h : o.node.isLeaf = false) (rest : List Visit) :
    walkFrom handler ancestors ((o, .entering) :: rest) = (do
      let signal ← handler.visit ancestors o .entering
      if signal = .plain then handler.writePlain (plainText o.node.children)
      walkFrom handler (o :: ancestors) (o.visitsBelow signal ++ rest)) := by
  rw [walkFrom]
  simp [h]

end Steps

/-! ## The invariant of a walk -/

section Refinement

variable [LawfulMonad m] (handler : Handler m)

mutual

/-- A pending first visit stands for the traversal of the tree below it. -/
theorem walkFrom_enter : ∀ (n : Node) (ancestors : List Occurrence) (place : List Nat)
    (rest : List Visit),
    walkFrom handler ancestors ((⟨n, place⟩, .entering) :: rest) = (do
      traverse handler ancestors place n
      walkFrom handler ancestors rest)
  | .leaf kind info, ancestors, place, rest => by
    rw [walkFrom_leaf, traverse]
    simp
  | .box kind info children, ancestors, place, rest => by
    rw [walkFrom_box handler ancestors rfl, traverse]
    simp only [Handler.around, bind_assoc]
    congr 1
    funext signal
    cases signal with
    | html =>
      simp only [Occurrence.visitsBelow, Occurrence.entries_children, Node.children,
        Handler.inside, List.append_assoc, reduceCtorEq, if_false, pure_bind]
      rw [walkFrom_enterAll children]
      simp [walkFrom_leave]
    | plain => simp [Occurrence.visitsBelow, Handler.inside, Node.children, walkFrom_leave]
    | skip => simp [Occurrence.visitsBelow, Handler.inside, walkFrom_leave]

/-- Pending first visits to the children at a place stand for their traversals, one after the
other. -/
theorem walkFrom_enterAll : ∀ (nodes : List Node) (ancestors : List Occurrence)
    (place : List Nat) (i : Nat) (rest : List Visit),
    walkFrom handler ancestors (entries place i nodes ++ rest) = (do
      traverseAll handler ancestors place i nodes
      walkFrom handler ancestors rest)
  | [], ancestors, place, i, rest => by simp [entries, traverseAll]
  | n :: nodes, ancestors, place, i, rest => by
    rw [entries_cons, List.cons_append, walkFrom_enter n, traverseAll, bind_assoc]
    congr 1
    funext _
    exact walkFrom_enterAll nodes ancestors place (i + 1) rest

end

/-- **A walk is the traversal of its root.** It makes the visits of the traversal and no others, in
the same order and on the same state, and gives back the containers that were open. -/
theorem walk_eq_traverse (ancestors : List Occurrence) (root : Occurrence) :
    walk handler ancestors root = (do
      traverse handler ancestors root.place root.node
      pure ancestors) := by
  rw [walk, walkFrom_enter handler root.node ancestors root.place []]
  simp

end Refinement

/-- A call that a handler received: the kinds of the open containers, the kind of the node and the
visit, or a text to write. -/
inductive Call
  | visit (ancestors : List String) (kind : String) (phase : Phase)
  | plain (s : String)
  deriving DecidableEq

/-- The handler that notes its calls and answers by the kind of the node. -/
def recorder (answer : String → Signal) : Handler (StateM (List Call)) where
  visit ancestors o phase := do
    modify (· ++ [.visit (ancestors.map fun a => a.node.kindName) o.node.kindName phase])
    pure (answer o.node.kindName)
  writePlain s := modify (· ++ [.plain s])

/-- A walk inside an open list, with all three answers of the handler. -/
theorem walk_eq_traverse_recorder :
    LawfulMonad (StateM (List Call)) ∧
      (walk (recorder fun kind => if kind = "image" then .plain else if kind = "link" then .skip
          else .html) [.root (.box .listItem {} []) 1]
        (.root (.box .paragraph {} [.box (.image "u" none) {} [.leaf (.text "a") {}],
          .box (.link "v" none) {} [.leaf (.text "b") {}], .leaf (.code "c") {}]) 0)).run [] =
      ([.root (.box .listItem {} []) 1],
        [.visit ["list_item"] "paragraph" .entering,
          .visit ["paragraph", "list_item"] "image" .entering, .plain "a",
          .visit ["paragraph", "list_item"] "image" .leaving,
          .visit ["paragraph", "list_item"] "link" .entering,
          .visit ["paragraph", "list_item"] "link" .leaving,
          .visit ["paragraph", "list_item"] "code" .entering,
          .visit ["list_item"] "paragraph" .leaving]) := by
  refine ⟨inferInstance, ?_⟩
  rw [walk_eq_traverse]
  have alt : plainText [.leaf (.text "a") {}] = "a" := by
    simp [plainText, flattenOnto, Leaf.literal]
  simp only [Occurrence.root, traverse, traverseAll, Handler.around, Handler.inside, recorder,
    Node.kindName, Node.children, Container.name, Leaf.name, alt]
  rfl

/-! ## Two traversals of one tree -/

/-- A relation between the programs of two monads that their operations respect. -/
structure Correspondence (m n : Type → Type) [Monad m] [Monad n] where
  rel : {α : Type} → m α → n α → Prop
  rel_pure : ∀ {α : Type} (a : α), rel (pure a : m α) (pure a)
  rel_bind : ∀ {α β : Type} {x : m α} {y : n α} {f : α → m β} {g : α → n β},
    rel x y → (∀ a, rel (f a) (g a)) → rel (x >>= f) (y >>= g)

section Correspondence

variable {n : Type → Type} [Monad n] (c : Correspondence m n) {handler : Handler m}
  {handler' : Handler n}

/-- Related visits around related programs make related programs. -/
theorem Correspondence.rel_around
    (hplain : ∀ s, c.rel (handler.writePlain s) (handler'.writePlain s))
    {ancestors : List Occurrence} {o : Occurrence}
    (hv : ∀ phase, c.rel (handler.visit ancestors o phase) (handler'.visit ancestors o phase))
    {x : m Unit} {y : n Unit} (h : c.rel x y) :
    c.rel (handler.around ancestors o x) (handler'.around ancestors o y) := by
  refine c.rel_bind (hv .entering) fun signal => c.rel_bind ?_ fun _ => ?_
  · cases signal with
    | html => exact h
    | plain => exact hplain _
    | skip => exact c.rel_pure ()
  · exact c.rel_bind (hv .leaving) fun _ => c.rel_pure ()

/-- What two handlers do at the nodes of a tree is related: at a leaf the visit, and at a container
the visits around any two related programs. -/
structure Correspondence.AtMembers (handler : Handler m) (handler' : Handler n)
    (members : List Member) : Prop where
  leaf : ∀ (ancestors : List Occurrence) (place : List Nat) (kind : Leaf) (info : Info),
    ⟨parentKind? ancestors, .leaf kind info⟩ ∈ members →
      c.rel (handler.visit ancestors ⟨.leaf kind info, place⟩ .entering)
        (handler'.visit ancestors ⟨.leaf kind info, place⟩ .entering)
  box : ∀ (ancestors : List Occurrence) (place : List Nat) (kind : Container) (info : Info)
    (children : List Node), ⟨parentKind? ancestors, .box kind info children⟩ ∈ members →
      ∀ {x : m Unit} {y : n Unit}, c.rel x y →
        c.rel (handler.around ancestors ⟨.box kind info children, place⟩ x)
          (handler'.around ancestors ⟨.box kind info children, place⟩ y)

variable {c}

theorem Correspondence.AtMembers.mono {members members' : List Member}
    (h : c.AtMembers handler handler' members) (hs : ∀ q ∈ members', q ∈ members) :
    c.AtMembers handler handler' members' where
  leaf ancestors place kind info hm := h.leaf ancestors place kind info (hs _ hm)
  box ancestors place kind info children hm := h.box ancestors place kind info children (hs _ hm)

/-- It is enough that the visits are related. -/
theorem Correspondence.atMembers_of_visits
    (hplain : ∀ s, c.rel (handler.writePlain s) (handler'.writePlain s)) {members : List Member}
    (hv : ∀ (ancestors : List Occurrence) (o : Occurrence) (phase : Phase),
      ⟨parentKind? ancestors, o.node⟩ ∈ members →
        c.rel (handler.visit ancestors o phase) (handler'.visit ancestors o phase)) :
    c.AtMembers handler handler' members where
  leaf ancestors place kind info hm := hv ancestors ⟨.leaf kind info, place⟩ .entering hm
  box ancestors place kind info children hm _ _ h :=
    c.rel_around hplain (fun phase => hv ancestors ⟨.box kind info children, place⟩ phase hm) h

mutual

/-- **Traversals of one tree are related** if what is done at its nodes is. -/
theorem Correspondence.AtMembers.rel_traverse :
    ∀ (t : Node) (ancestors : List Occurrence) (place : List Nat),
      c.AtMembers handler handler' (t.members (parentKind? ancestors)) →
      c.rel (traverse handler ancestors place t) (traverse handler' ancestors place t)
  | .leaf kind info, ancestors, place, h => by
    rw [traverse, traverse]
    exact c.rel_bind (h.leaf _ _ _ _ (by simp)) fun _ => c.rel_pure ()
  | .box kind info children, ancestors, place, h => by
    rw [traverse, traverse]
    refine h.box _ _ _ _ _ (by simp) ?_
    exact Correspondence.AtMembers.rel_traverseAll children _ _ _
      (h.mono fun q hq => Node.mem_members_of_below _ _ hq)

theorem Correspondence.AtMembers.rel_traverseAll :
    ∀ (nodes : List Node) (ancestors : List Occurrence) (place : List Nat) (i : Nat),
      c.AtMembers handler handler' (Node.membersAll (parentKind? ancestors) nodes) →
      c.rel (traverseAll handler ancestors place i nodes)
        (traverseAll handler' ancestors place i nodes)
  | [], ancestors, place, i, h => by
    rw [traverseAll, traverseAll]
    exact c.rel_pure ()
  | t :: rest, ancestors, place, i, h => by
    rw [traverseAll, traverseAll]
    rw [Node.membersAll] at h
    refine c.rel_bind ?_ fun _ => ?_
    · exact Correspondence.AtMembers.rel_traverse t _ _
        (h.mono fun q hq => List.mem_append_left _ hq)
    · exact Correspondence.AtMembers.rel_traverseAll rest _ _ _
        (h.mono fun q hq => List.mem_append_right _ hq)

end

end Correspondence

end FlavoredMarkdown
