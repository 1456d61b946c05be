import FlavoredMarkdown.Proofs.Members

/-!
# How trees are flattened

The plain text of some trees is defined twice: along the trees, and by the loop of `plain_text`, which
keeps the nodes still to come in a list. Read from its end that list is a stack. The trees are put on it
in reverse, and each turn takes the node on top, adds the text that the node stands for itself and puts
its children on the stack in reverse, until nothing is left.

* The loop has no bound of its own. Each turn uses up one node of the trees, however many children it
  puts on the stack. Trees are finite; a node below itself would keep the loop going.
* The children of a container are the nodes directly in it (`get_node_children`), in document order: the
  items of a list, the cells of a row. Of a table they are the header row, if it has one, and then the
  rows.

Results:
* `Node.inOrder_cons`: document order, node by node.
* `flattenOnto_eq`, `plainText_eq_plainTexts`: the nodes to come add the text that is defined along the
  trees.
* `Flattening.toCome_turn`, `Flattening.result_turn`: what a turn takes, and that it leaves the result as
  it is. This is the invariant of the loop.
* `Flattening.run_iff`: from every state there is one run and no other.
* **`plainText_inOrder`**: the loop ends, takes each node once in document order, and gives the text that
  is defined along the trees.
-/

namespace FlavoredMarkdown

/-! ## Along the trees -/

namespace Node

/-- The text that a node stands for itself, without what is below it: what a text, code, inline HTML and
inline mathematics hold, a space for a break, and nothing for any other node. -/
def ownText : Node → String
  | .leaf kind _ =>
    match kind with
    | .text content | .code content | .htmlInline content | .mathInline content => content
    | .lineBreak _ => " "
    | _ => ""
  | .box .. => ""

theorem ownText_leaf (kind : Leaf) (info : Info) : (leaf kind info).ownText = kind.literal := by
  cases kind <;> rfl

theorem plainTexts_append (as bs : List Node) :
    plainTexts (as ++ bs) = plainTexts as ++ plainTexts bs := by
  induction as with
  | nil => simp [plainTexts]
  | cons a as ih => rw [List.cons_append, plainTexts, plainTexts, ih, String.append_assoc]

/-- The nodes of some trees in document order. -/
def inOrder (nodes : List Node) : List Node := (membersAll none nodes).map Member.node

/-- The kind of the parent says nothing about the order. -/
theorem map_node_membersAll (parent : Option Container) (nodes : List Node) :
    (membersAll parent nodes).map Member.node = inOrder nodes := by
  induction nodes with
  | nil => rfl
  | cons n rest ih =>
    rw [inOrder] at ih ⊢
    cases n <;> simp [membersAll, ih]

theorem inOrder_append (as bs : List Node) : inOrder (as ++ bs) = inOrder as ++ inOrder bs := by
  simp [inOrder, membersAll_eq_flatMap]

/-- A tree comes with its root first, and then what is below. -/
theorem inOrder_cons (n : Node) (rest : List Node) :
    inOrder (n :: rest) = n :: inOrder (n.children ++ rest) := by
  rw [inOrder_append]
  cases n with
  | leaf kind info => simp [inOrder, membersAll, children]
  | box kind info children =>
    simp only [inOrder, membersAll, members_box, List.cons_append, List.map_cons, List.map_append]
    rw [map_node_membersAll, Node.children, inOrder]

end Node

/-! ## The loop over the nodes to come -/

/-- A node to come adds its own text and leaves its children in its place. -/
theorem flattenOnto_cons (text : String) (n : Node) (rest : List Node) :
    flattenOnto text (n :: rest) = flattenOnto (text ++ n.ownText) (n.children ++ rest) := by
  cases n with
  | leaf kind info => rw [flattenOnto, Node.ownText_leaf, Node.children, List.nil_append]
  | box kind info children => rw [flattenOnto, Node.ownText, Node.children, String.append_empty]

/-- The nodes to come add their text, in order. -/
theorem flattenOnto_eq (text : String) (pending : List Node) :
    flattenOnto text pending = text ++ Node.plainTexts pending := by
  fun_induction flattenOnto text pending with
  | case1 text => simp [Node.plainTexts]
  | case2 text kind info rest ih =>
    rw [ih, Node.plainTexts, Node.plainText, String.append_assoc]
  | case3 text kind info children rest ih =>
    rw [ih, Node.plainTexts_append, Node.plainTexts, Node.plainText]

/-- The plain text is that of the trees, one after the other. -/
theorem plainText_eq_plainTexts (nodes : List Node) : plainText nodes = Node.plainTexts nodes := by
  rw [plainText, flattenOnto_eq, String.empty_append]

theorem plainText_append (as bs : List Node) : plainText (as ++ bs) = plainText as ++ plainText bs := by
  simp only [plainText_eq_plainTexts, Node.plainTexts_append]

theorem plainText_leaf (kind : Leaf) (info : Info) :
    plainText [.leaf kind info] = (Node.leaf kind info).ownText := by
  rw [plainText, flattenOnto, flattenOnto, String.empty_append, Node.ownText_leaf]

theorem plainText_box (kind : Container) (info : Info) (children : List Node) :
    plainText [.box kind info children] = plainText children := by
  rw [plainText, flattenOnto, List.append_nil, plainText]

/-! ## The turns of the loop -/

/-- Where the loop is: the text so far, and the stack of the nodes to come, whose top is its end. -/
structure Flattening where
  text : String
  stack : List Node

namespace Flattening

/-- The trees are put on the stack in reverse, so that the first one is on top. -/
def start (nodes : List Node) : Flattening := ⟨"", nodes.reverse⟩

/-- A turn takes the node on top: it adds the node's own text, and its children come on the stack in
reverse. -/
def next (text : String) (below : List Node) (n : Node) : Flattening :=
  ⟨text ++ n.ownText, below ++ n.children.reverse⟩

/-- The turns from a state on until the stack is empty: which nodes they take, and the text at the end.
-/
inductive Run : Flattening → (taken : List Node) → (text : String) → Prop
  | done {text : String} : Run ⟨text, []⟩ [] text
  | turn {text result : String} {below taken : List Node} {n : Node}
      (rest : Run (next text below n) taken result) :
      Run ⟨text, below ++ [n]⟩ (n :: taken) result

/-- The nodes that are still to be taken, in turn. -/
def toCome (s : Flattening) : List Node := Node.inOrder s.stack.reverse

/-- The text that the loop over the nodes to come ends with. -/
def result (s : Flattening) : String := flattenOnto s.text s.stack.reverse

section Turn

variable (text : String) (below : List Node) (n : Node)

/-- Read from the end, the children stand where the node was. The two reversals cancel. -/
theorem reverse_stack_next : (next text below n).stack.reverse = n.children ++ below.reverse := by
  rw [next, List.reverse_append, List.reverse_reverse]

/-- A turn takes the first of the nodes to come and leaves the others. -/
theorem toCome_turn : toCome ⟨text, below ++ [n]⟩ = n :: toCome (next text below n) := by
  rw [toCome, toCome, reverse_stack_next, List.reverse_concat]
  exact Node.inOrder_cons n below.reverse

/-- A turn leaves the result as it is. -/
theorem result_turn : result ⟨text, below ++ [n]⟩ = result (next text below n) := by
  rw [result, result, reverse_stack_next, List.reverse_concat]
  exact flattenOnto_cons text n below.reverse

end Turn

/-- A run takes the nodes to come and ends with the result. -/
theorem Run.unique {s : Flattening} {taken : List Node} {text : String} (h : Run s taken text) :
    taken = s.toCome ∧ text = s.result := by
  induction h with
  | done => exact ⟨rfl, by rw [result, List.reverse_nil, flattenOnto]⟩
  | @turn text result below taken n rest ih =>
    obtain ⟨htaken, hresult⟩ := ih
    rw [toCome_turn, result_turn]
    exact ⟨congrArg (n :: ·) htaken, hresult⟩

/-- The stack is empty, or there is a node on top of others. -/
theorem ended_or_turn (s : Flattening) :
    s = ⟨s.text, []⟩ ∨ ∃ below n, s = ⟨s.text, below ++ [n]⟩ := by
  obtain ⟨text, stack⟩ := s
  rcases List.eq_nil_or_concat stack with rfl | ⟨below, n, rfl⟩
  · exact .inl rfl
  · exact .inr ⟨below, n, by rw [List.concat_eq_append]⟩

/-- From every state the loop comes to an end: the stack may grow in a turn, but there is one node less
to come after it. -/
theorem run_toCome (s : Flattening) : Run s s.toCome s.result := by
  rcases s.ended_or_turn with hs | ⟨below, n, hs⟩
  · rw [hs, result, List.reverse_nil, flattenOnto]
    exact .done
  · have hrest := run_toCome (next s.text below n)
    rw [hs, toCome_turn, result_turn]
    exact .turn hrest
termination_by s.toCome.length
decreasing_by
  rw [hs, toCome_turn, List.length_cons]
  exact Nat.lt_succ_self _

/-- **From every state there is one run**: it takes the nodes to come and ends with the result. -/
theorem run_iff (s : Flattening) (taken : List Node) (text : String) :
    Run s taken text ↔ taken = s.toCome ∧ text = s.result := by
  constructor
  · exact Run.unique
  · rintro ⟨rfl, rfl⟩
    exact s.run_toCome

end Flattening

/-- **The plain text of some trees** is what the loop over a stack of them ends with. The loop ends from
every start, after it has taken each node of the trees once, in document order. Its text is the one that
is defined along the trees: a leaf gives its own text, a container what is in it, one child after
the other, and a table its header row, if it has one, before its rows. So trees one after the other give
their texts one after the other. -/
theorem plainText_inOrder :
    (∀ (nodes taken : List Node) (text : String),
      Flattening.Run (.start nodes) taken text ↔
        taken = Node.inOrder nodes ∧ text = plainText nodes) ∧
    (∀ nodes : List Node, plainText nodes = Node.plainTexts nodes) ∧
    (∀ (kind : Leaf) (info : Info), plainText [.leaf kind info] = (Node.leaf kind info).ownText) ∧
    (∀ (kind : Container) (info : Info) (children : List Node),
      plainText [.box kind info children] = plainText children) ∧
    (∀ (header : Option Node) (info : Info) (rows : List Node),
      plainText [.box (.table header.isSome) info (header.toList ++ rows)] =
        plainText header.toList ++ plainText rows) ∧
    ∀ as bs : List Node, plainText (as ++ bs) = plainText as ++ plainText bs := by
  refine ⟨fun nodes taken text => ?_, plainText_eq_plainTexts, plainText_leaf, plainText_box,
    fun header info rows => ?_, plainText_append⟩
  · rw [Flattening.run_iff, Flattening.toCome, Flattening.result, Flattening.start,
      List.reverse_reverse, plainText]
  · rw [plainText_box, plainText_append]

/-- A break in a header cell gives a space, and a block of code gives nothing. -/
example :
    plainText [.box (.table true) {} [
        .box (.tableRow true) {} [.box (.tableCell none) {}
          [.leaf (.text "a") {}, .leaf (.lineBreak true) {}, .leaf (.code "b") {}]],
        .box (.tableRow false) {} [.box (.tableCell none) {} [.leaf (.mathInline "c") {}]]],
      .leaf (.codeBlock "d" none) {}, .leaf (.htmlInline "<e>") {}] = "a bc<e>" := by
  decide +kernel

end FlavoredMarkdown
