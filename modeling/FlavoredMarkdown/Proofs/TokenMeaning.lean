import FlavoredMarkdown.Markdown.Meaning
import FlavoredMarkdown.Proofs.Members
import Mathlib.Data.List.Forall2

/-!
# Tokens mean well-formed documents

Renderings rely on facts that no field of a node says: a heading has one of six levels, the items of a
list are items, the header row of a table is the one that is flagged. The reading of tokens
(`MarkdownToAstConverter`) brings them about, whatever the fields of the tokens hold. It goes down the
tree of the tokens, so each function of it gets one lemma, that it gives nodes of which all this holds
(`Node.Fine`, for items and rows more than that), and these are proved together along the tokens.

* A token has a shape (`Token.HasShape`): it is a record, what is below it is listed, its attributes
  are a dictionary and its texts are texts. Reading fails on tokens of other shapes.
* `Node.Fine` has a switch for footnotes: below the blocks at top level there are none, if there are
  no tokens for them.

Results:
* `Token.gives_inlinesBehind`, `Token.gives_tableParts`, `Token.gives_blocks` and those with it: what
  inline tokens, the parts of a table and blocks give.
* `Token.gives_rootFootnotes`: the footnotes of a document are those of the items, in order.
* **`wellFormed_documentOf`**: tokens of the right shape mean a well-formed document.
-/

namespace FlavoredMarkdown

/-! ## Readings that give something -/

section Readings

variable {α β : Type} {x : Reading α} {f : α → Reading β} {P P' : α → Prop} {Q : β → Prop}

/-- The reading gives this result whatever the log is. -/
def Yields (x : Reading α) (a : α) : Prop := ∀ log, ∃ log', x.run.run log = (.ok a, log')

/-- The reading gives a result with a property, the same one whatever the log is. -/
def Gives (x : Reading α) (P : α → Prop) : Prop := ∃ a, Yields x a ∧ P a

theorem yields_pure (a : α) : Yields (pure a) a := fun log => ⟨log, rfl⟩

theorem Yields.bind {a : α} {b : β} (hx : Yields x a) (hf : Yields (f a) b) :
    Yields (x >>= f) b := by
  intro log
  obtain ⟨log', h⟩ := hx log
  obtain ⟨log'', h'⟩ := hf log'
  refine ⟨log'', ?_⟩
  simp only [ExceptT.run_bind, StateT.run_bind, h]
  exact h'

theorem Yields.unique {a b : α} (ha : Yields x a) (hb : Yields x b) : a = b := by
  obtain ⟨_, h⟩ := ha []
  obtain ⟨_, h'⟩ := hb []
  cases h.symm.trans h'
  rfl

theorem gives_pure {a : α} (h : P a) : Gives (pure a) P := ⟨a, yields_pure a, h⟩

theorem Gives.bind (hx : Gives x P) (hf : ∀ a, P a → Gives (f a) Q) : Gives (x >>= f) Q := by
  obtain ⟨a, ha, hP⟩ := hx
  obtain ⟨b, hb, hQ⟩ := hf a hP
  exact ⟨b, ha.bind hb, hQ⟩

theorem Gives.map {g : α → β} (hx : Gives x fun a => Q (g a)) : Gives (g <$> x) Q := by
  rw [map_eq_pure_bind]
  exact hx.bind fun _ => gives_pure

theorem Gives.imp (hx : Gives x P) (h : ∀ a, P a → P' a) : Gives x P' := by
  obtain ⟨a, ha, hP⟩ := hx
  exact ⟨a, ha, h a hP⟩

theorem Gives.bind_ite {y : Reading α} {c : Prop} [Decidable c] (hx : Gives (if c then x else y) P)
    (hf : ∀ a, P a → Gives (f a) Q) : Gives (if c then x >>= f else y >>= f) Q := by
  by_cases hc : c
  · rw [if_pos hc] at hx ⊢
    exact hx.bind hf
  · rw [if_neg hc] at hx ⊢
    exact hx.bind hf

theorem gives_note (what : String) (type : Value) :
    Gives (Token.noteSkipped what type) fun _ => True :=
  ⟨(), fun _ => ⟨_, rfl⟩, trivial⟩

end Readings

/-! ## The shape of tokens -/

namespace Value

/-- A text. -/
def isText : Value → Bool
  | .str _ => true
  | _ => false

/-- Nothing or a text. -/
def isText? : Value → Bool
  | .null | .str _ => true
  | _ => false

/-- Nothing or a dictionary. -/
def isRecord? : Value → Bool
  | .null | .dict _ | .keyed _ => true
  | _ => false

/-- Nothing or a single character. -/
def isSymbol? : Value → Bool
  | .null => true
  | .str s => s.toList.length == 1
  | _ => false

end Value

namespace Token

mutual

/-- The tokens of a tree, each before those below it. -/
def all : Token → List Token
  | .mk fields listed children => .mk fields listed children :: allIn children
  | .stray v => [.stray v]

/-- The tokens of several trees. -/
def allIn : List Token → List Token
  | [] => []
  | t :: rest => all t ++ allIn rest

end

/-- Whether a token is a record. -/
def isRecord : Token → Bool
  | .mk .. => true
  | .stray _ => false

/-- The attributes of a token, if they are a dictionary. -/
def attrs (t : Token) : List (String × Value) :=
  match t.field? "attrs" with
  | some (.dict entries) => entries
  | some (.keyed entries) => Mapping.named entries
  | _ => []

/-- The shape of a token: a record whose type is a text, whose children are a list and whose
attributes are a dictionary, if there are any; its literal text and its info string are texts, and the
symbol of a task is a single character. Levels, starts, numbers and the like may be anything. -/
structure HasShape (t : Token) : Prop where
  record : t.isRecord = true
  type : ∀ v ∈ t.field? "type", v.isText? = true
  children : t.listed = true ∨ t.field? "children" = none
  attributes : ∀ v ∈ t.field? "attrs", v.isRecord? = true
  raw : ∀ v ∈ t.field? "raw", v.isText = true
  info : ∀ v ∈ t.attrs.lookup "info", v.isText? = true
  symbol : t.isOfType "task_list_item" = true → ∀ v ∈ t.attrs.lookup "symbol", v.isSymbol? = true

instance (t : Token) : Decidable t.HasShape :=
  decidable_of_iff
    (t.isRecord = true ∧ (∀ v ∈ t.field? "type", v.isText? = true) ∧
      (t.listed = true ∨ t.field? "children" = none) ∧
      (∀ v ∈ t.field? "attrs", v.isRecord? = true) ∧ (∀ v ∈ t.field? "raw", v.isText = true) ∧
      (∀ v ∈ t.attrs.lookup "info", v.isText? = true) ∧
      (t.isOfType "task_list_item" = true → ∀ v ∈ t.attrs.lookup "symbol", v.isSymbol? = true))
    ⟨fun ⟨h1, h2, h3, h4, h5, h6, h7⟩ => ⟨h1, h2, h3, h4, h5, h6, h7⟩,
      fun ⟨h1, h2, h3, h4, h5, h6, h7⟩ => ⟨h1, h2, h3, h4, h5, h6, h7⟩⟩

section Fields

variable {t : Token} (h : t.HasShape)

include h

theorem gives_checkRecord : Gives t.checkRecord fun _ => True := by
  cases t with
  | mk fields listed children => exact gives_pure trivial
  | stray v => exact nomatch h.record

theorem gives_attributes : Gives t.attributes (· = t.attrs) := by
  refine (gives_checkRecord h).bind fun _ _ => ?_
  have hshape := h.attributes
  unfold attrs
  cases hv : t.field? "attrs" with
  | none => exact gives_pure rfl
  | some v =>
    have hr := hshape v hv
    cases v with
    | dict entries | keyed entries | null => exact gives_pure rfl
    | _ => cases hr

theorem gives_checkChildren : Gives t.checkChildren fun _ => True := by
  have hnone : t.childFault? = none := by
    cases t with
    | stray v => exact nomatch h.record
    | mk fields listed children =>
      cases listed with
      | true => rfl
      | false =>
        have hc : fields.lookup "children" = none := h.children.resolve_left Bool.false_ne_true
        simp only [childFault?, hc]
  unfold checkChildren
  rw [hnone]
  exact gives_pure trivial

theorem isText?_type : t.type.isText? = true := by
  have htype := h.type
  unfold type
  cases hv : t.field? "type" with
  | none => rfl
  | some v => exact htype v hv

/-- The literal text of a token is kept as a text. -/
theorem textField_raw (name : String) : (textField name (t.field? "raw")).2 = {} := by
  cases hv : t.field? "raw" with
  | none => rfl
  | some v =>
    have hs := h.raw v hv
    cases v with
    | str s => rfl
    | _ => cases hs

end Fields

end Token

/-! ## Nodes in order -/

/-- The value of a field as it was given. -/
def Info.given (info : Info) (name : String) (v : Value) : Value :=
  (info.asGiven.lookup name).getD v

/-- Whether the node is the item of a list. -/
def Node.isItem : Node → Bool
  | .box .listItem .. | .box (.taskItem _) .. => true
  | _ => false

/-- What holds of each node of a well-formed document. The level of a heading is a number from one to
six. A list has items only, it is flagged as a task list just if one of them is a task, and it starts
at one unless it is ordered. The header row of a table is flagged as one and no other row is. -/
def Node.InOrder : Node → Prop
  | .box (.heading level) info _ =>
    ∃ n, (info.given "level" (.int level.val)).number? = some (.int n) ∧ 1 ≤ n ∧ n ≤ 6
  | .box (.list ordered start _ isTaskList) info items =>
    (∀ item ∈ items, item.isItem = true) ∧
      (isTaskList = true ↔ ∃ item ∈ items, Token.isTask item = true) ∧
      (ordered = false → info.given "start" (.int start) = .int 1)
  | .box (.table hasHeader) _ children =>
    (hasHeader = true → ∃ row rows, children = row :: rows ∧ row.container? = some (.tableRow true)) ∧
      ∀ row ∈ tableRows hasHeader children, row.container? = some (.tableRow false)
  | _ => True

/-- A tree that may stand in a well-formed document below the root, with footnotes in it only if
`notes` says so. -/
def Node.Fine (notes : Bool) (n : Node) : Prop :=
  ∀ parent, ∀ q ∈ n.members parent,
    q.node.InOrder ∧ q.node.container? ≠ some .document ∧ (q.isFootnote = true → notes = true)

section Fine

variable {notes : Bool}

theorem Node.fine_leaf (kind : Leaf) (info : Info) : (Node.leaf kind info).Fine notes := by
  intro parent q hq
  rw [members_leaf, List.mem_singleton] at hq
  subst hq
  simp [InOrder, container?, Member.isFootnote]

theorem Node.fine_box {kind : Container} {info : Info} {children : List Node}
    (horder : (Node.box kind info children).InOrder) (hdoc : kind ≠ .document)
    (hnote : ∀ identifier index, kind = .footnoteDefinition identifier index → notes = true)
    (hc : ∀ c ∈ children, c.Fine notes) : (Node.box kind info children).Fine notes := by
  intro parent q hq
  rcases mem_members_box.mp hq with rfl | ⟨c, hm, hq⟩
  · refine ⟨horder, fun h => hdoc (Option.some.inj h), fun h => ?_⟩
    unfold Member.isFootnote at h
    split at h
    · next hk =>
      cases hk
      exact hnote _ _ rfl
    · cases h
  · exact hc c hm _ q hq

theorem Node.Fine.mono {n : Node} (h : n.Fine false) : n.Fine notes := fun parent q hq =>
  have ⟨horder, hdoc, hnote⟩ := h parent q hq
  ⟨horder, hdoc, fun hq => nomatch hnote hq⟩

/-- A container of a kind of which nothing is asked. -/
def Container.isPlain : Container → Bool
  | .document | .heading _ | .list .. | .table _ | .footnoteDefinition .. => false
  | _ => true

theorem Node.fine_plain {kind : Container} (h : kind.isPlain = true) (info : Info)
    {children : List Node} (hc : ∀ c ∈ children, c.Fine notes) :
    (Node.box kind info children).Fine notes := by
  refine fine_box ?_ ?_ ?_ hc
  · cases kind with
    | heading level | list ordered start tight isTaskList | table hasHeader => cases h
    | _ => trivial
  · rintro rfl
    cases h
  · rintro identifier index rfl
    cases h

end Fine

/-- A footnote, which holds other footnotes only if `notes` says so. -/
structure Node.IsNote (notes : Bool) (n : Node) : Prop where
  kind : ∃ identifier index, n.container? = some (.footnoteDefinition identifier index)
  content : ∀ c ∈ n.children, c.Fine notes

theorem Node.IsNote.fine {notes : Bool} {n : Node} (h : n.IsNote notes) (hn : notes = true) :
    n.Fine notes := by
  obtain ⟨identifier, index, hk⟩ := h.kind
  cases n with
  | leaf kind info => cases hk
  | box kind info children =>
    cases hk
    exact Node.fine_box trivial (fun h => nomatch h) (fun _ _ _ => hn) h.content

/-- A row that may stand in a table, flagged as a header or not. -/
def Node.IsRow (notes isHeader : Bool) (n : Node) : Prop :=
  n.container? = some (.tableRow isHeader) ∧ n.Fine notes

/-! ## Inline tokens -/

/-- A text whose content is kept as a text. -/
def Node.IsClean : Node → Prop
  | .leaf (.text _) info => info = {}
  | _ => True

/-- What inline tokens give. -/
def Node.IsInline (n : Node) : Prop := n.IsClean ∧ n.Fine false

namespace Token

theorem isInline_rawLeaf {t : Token} (h : t.HasShape) (leaf : String → Leaf) :
    (rawLeaf leaf t).IsInline := by
  refine ⟨?_, Node.fine_leaf _ _⟩
  have hinfo := textField_raw h "content"
  unfold rawLeaf
  generalize textField "content" (t.field? "raw") = field at hinfo
  obtain ⟨raw, info⟩ := field
  obtain rfl : info = {} := hinfo
  simp only
  cases leaf raw <;> trivial

theorem isInline_rawContent {t : Token} (h : t.HasShape) : ∀ n ∈ rawContent t, n.IsInline := by
  intro n hn
  unfold rawContent at hn
  split at hn
  · next v hv =>
    have hs := h.raw v hv
    split at hn
    · rw [List.mem_singleton.mp hn]
      cases v with
      | str s => exact ⟨rfl, Node.fine_leaf _ _⟩
      | _ => cases hs
    · cases hn
  · cases hn

/-- Texts that meet can be joined. -/
theorem gives_addInline {n : Node} {before : List Node} (hn : n.IsInline)
    (hb : ∀ m ∈ before, m.IsInline) : Gives (addInline n before) fun nodes => ∀ m ∈ nodes, m.IsInline := by
  unfold addInline
  split
  · next a ia before b ib =>
    obtain rfl : ib = {} := hn.1
    obtain rfl : ia = {} := (hb _ (List.mem_cons_self ..)).1
    refine gives_pure fun m hm => ?_
    rcases List.mem_cons.mp hm with rfl | hm
    · exact ⟨rfl, Node.fine_leaf _ _⟩
    · exact hb m (List.mem_cons_of_mem _ hm)
  · exact gives_pure (List.forall_mem_cons.mpr ⟨hn, hb⟩)

theorem gives_footnoteReference {t : Token} (h : t.HasShape) :
    Gives (footnoteReference t) Node.IsInline :=
  (gives_attributes h).bind fun _ _ => gives_pure ⟨trivial, Node.fine_leaf _ _⟩

/-- Only inline containers have types of inline tokens. -/
theorem isPlain_of_named {s : String} {kind : Container}
    (h : InlineKind.named? s = some (.span kind)) : kind.isPlain = true := by
  unfold InlineKind.named? at h
  split at h
  all_goals cases h <;> rfl

theorem forall_mem_allIn_cons {P : Token → Prop} {t : Token} {rest : List Token} :
    (∀ s ∈ allIn (t :: rest), P s) ↔ (∀ s ∈ all t, P s) ∧ ∀ s ∈ allIn rest, P s := by
  rw [allIn, List.forall_mem_append]

theorem forall_mem_all_mk {P : Token → Prop} {fields : List (String × Value)} {listed : Bool}
    {children : List Token} :
    (∀ s ∈ all (.mk fields listed children), P s) ↔
      P (.mk fields listed children) ∧ ∀ s ∈ allIn children, P s := by
  rw [all, List.forall_mem_cons]

mutual

theorem gives_inlinesBehind : ∀ (tokens : List Token) (before : List Node),
    (∀ s ∈ allIn tokens, s.HasShape) → (∀ n ∈ before, n.IsInline) →
    Gives (inlinesBehind before tokens) fun nodes => ∀ n ∈ nodes, n.IsInline
  | [], before, _, hb => by
    rw [inlinesBehind]
    exact gives_pure fun n hn => hb n (List.mem_reverse.mp hn)
  | t :: rest, before, h, hb => by
    obtain ⟨ht, hrest⟩ := forall_mem_allIn_cons.mp h
    rw [inlinesBehind]
    refine (gives_inline t ht).bind fun o ho => ?_
    cases o with
    | none => exact gives_inlinesBehind rest before hrest hb
    | some n =>
      refine (gives_addInline (ho n rfl) hb).bind fun nodes hn => ?_
      exact gives_inlinesBehind rest nodes hrest hn

theorem gives_inline : ∀ t : Token, (∀ s ∈ all t, s.HasShape) →
    Gives (inline t) fun o => ∀ n ∈ o, n.IsInline
  | .stray v, h => nomatch (h _ (List.mem_singleton.mpr rfl)).record
  | .mk fields listed children, h => by
    obtain ⟨ht, hc⟩ := forall_mem_all_mk.mp h
    -- what the token holds, as a list of tokens or as a literal text
    have hcontent : Gives (if listed then inlinesBehind [] children else
        pure (rawContent (.mk fields listed children))) fun nodes => ∀ n ∈ nodes, n.IsInline := by
      split
      · exact gives_inlinesBehind children [] hc fun _ hn => nomatch hn
      · exact gives_pure (isInline_rawContent ht)
    have hsome {n : Node} (hn : n.IsInline) : ∀ m ∈ some n, m.IsInline := by
      rintro m ⟨⟩
      exact hn
    have htype := isText?_type ht
    rw [inline]
    split
    · next hv => exact nomatch (congrArg Value.isText? hv).symm.trans htype
    · next hv => exact nomatch (congrArg Value.isText? hv).symm.trans htype
    · next hv => exact nomatch (congrArg Value.isText? hv).symm.trans htype
    · simp only
      split
      · refine (gives_note _ _).bind fun _ _ => gives_pure fun _ hn => nomatch hn
      · exact gives_pure (hsome (isInline_rawLeaf ht _))
      · exact gives_pure (hsome (isInline_rawLeaf ht _))
      · exact gives_pure (hsome (isInline_rawLeaf ht _))
      · exact gives_pure (hsome (isInline_rawLeaf ht _))
      · exact gives_pure (hsome ⟨trivial, Node.fine_leaf _ _⟩)
      · exact ((gives_footnoteReference ht).imp fun _ => hsome).map
      · next kind hk =>
        obtain ⟨name, -, hname⟩ := Option.bind_eq_some_iff.mp hk
        exact hcontent.bind_ite fun content hn => gives_pure (hsome ⟨trivial,
          Node.fine_plain (isPlain_of_named hname) _ fun c hc => (hn c hc).2⟩)
      · refine (gives_attributes ht).bind fun _ _ => ?_
        exact hcontent.bind_ite fun content hn => gives_pure (hsome ⟨trivial,
          Node.fine_plain rfl _ fun c hc => (hn c hc).2⟩)
      · refine (gives_attributes ht).bind fun _ _ => ?_
        exact hcontent.bind_ite fun content hn => gives_pure (hsome ⟨trivial,
          Node.fine_plain rfl _ fun c hc => (hn c hc).2⟩)

end

/-! ## Tables -/

theorem forall_mem_all {P : Token → Prop} {t : Token} :
    (∀ s ∈ all t, P s) ↔ P t ∧ ∀ s ∈ allIn t.children, P s := by
  cases t with
  | mk fields listed children => exact forall_mem_all_mk
  | stray v =>
    rw [all, List.forall_mem_singleton]
    exact (and_iff_left fun _ hs => nomatch hs).symm

section Parts

variable (notes : Bool)

theorem gives_inlineContent {t : Token} (h : ∀ s ∈ all t, s.HasShape) :
    Gives (inlineContent t) fun nodes => ∀ n ∈ nodes, n.Fine notes := by
  obtain ⟨ht, hc⟩ := forall_mem_all.mp h
  refine (gives_checkChildren ht).bind fun _ _ => ?_
  refine (gives_inlinesBehind t.children [] hc fun _ hn => nomatch hn).imp fun nodes hnodes n hn => ?_
  exact (hnodes n hn).2.mono

theorem gives_cells {tokens : List Token} (h : ∀ s ∈ allIn tokens, s.HasShape) :
    Gives (cells tokens) fun nodes => ∀ n ∈ nodes, n.Fine notes := by
  induction tokens with
  | nil => exact gives_pure fun _ hn => nomatch hn
  | cons t rest ih =>
    obtain ⟨ht, hrest⟩ := forall_mem_allIn_cons.mp h
    rw [cells]
    refine (gives_attributes (forall_mem_all.mp ht).1).bind fun attrs _ => ?_
    refine (gives_inlineContent notes ht).bind fun content hn => (ih hrest).bind fun nodes hnodes => ?_
    exact gives_pure (List.forall_mem_cons.mpr ⟨Node.fine_plain rfl _ hn, hnodes⟩)

theorem gives_rows {tokens : List Token} (h : ∀ s ∈ allIn tokens, s.HasShape) :
    Gives (rows tokens) fun nodes => ∀ n ∈ nodes, n.IsRow notes false := by
  induction tokens with
  | nil => exact gives_pure fun _ hn => nomatch hn
  | cons t rest ih =>
    obtain ⟨ht, hrest⟩ := forall_mem_allIn_cons.mp h
    obtain ⟨hself, hc⟩ := forall_mem_all.mp ht
    rw [rows]
    refine (gives_checkChildren hself).bind fun _ _ => ?_
    refine (gives_cells notes hc).bind fun cells hn => (ih hrest).bind fun nodes hnodes => ?_
    exact gives_pure (List.forall_mem_cons.mpr ⟨⟨rfl, Node.fine_plain rfl _ hn⟩, hnodes⟩)

theorem gives_tableParts {tokens : List Token} (h : ∀ s ∈ allIn tokens, s.HasShape)
    {header : Option Node} {body : List Node} (hheader : ∀ n ∈ header, n.IsRow notes true)
    (hbody : ∀ n ∈ body, n.IsRow notes false) :
    Gives (tableParts header body tokens) fun p =>
      (∀ n ∈ p.1, n.IsRow notes true) ∧ ∀ n ∈ p.2, n.IsRow notes false := by
  induction tokens generalizing header body with
  | nil => exact gives_pure ⟨hheader, hbody⟩
  | cons t rest ih =>
    obtain ⟨ht, hrest⟩ := forall_mem_allIn_cons.mp h
    obtain ⟨hself, hc⟩ := forall_mem_all.mp ht
    rw [tableParts]
    refine (gives_checkRecord hself).bind fun _ _ => ?_
    split
    · refine (gives_checkChildren hself).bind fun _ _ => (gives_cells notes hc).bind fun cells hn => ?_
      refine ih hrest ?_ hbody
      rintro n ⟨⟩
      exact ⟨rfl, Node.fine_plain rfl _ hn⟩
    · split
      · refine (gives_checkChildren hself).bind fun _ _ => (gives_rows notes hc).bind fun rows hn => ?_
        exact ih hrest hheader (List.forall_mem_append.mpr ⟨hbody, hn⟩)
      · exact ih hrest hheader hbody

/-- The header row stands in front of the rows of the body. -/
theorem fine_table {notes : Bool} {header : Option Node} {body : List Node}
    (hheader : ∀ n ∈ header, n.IsRow notes true) (hbody : ∀ n ∈ body, n.IsRow notes false) :
    (table (header, body)).Fine notes := by
  cases header with
  | none =>
    have horder : (Node.box (.table false) {} body).InOrder :=
      ⟨Bool.noConfusion, fun n hn => (hbody n hn).1⟩
    exact Node.fine_box horder (fun h => nomatch h) (fun _ _ h => nomatch h) fun n hn =>
      (hbody n hn).2
  | some row =>
    have hrow := hheader row rfl
    have horder : (Node.box (.table true) {} (row :: body)).InOrder :=
      ⟨fun _ => ⟨row, body, rfl, hrow.1⟩, fun n hn => (hbody n hn).1⟩
    refine Node.fine_box horder (fun h => nomatch h) (fun _ _ h => nomatch h) ?_
    exact List.forall_mem_cons.mpr ⟨hrow.2, fun n hn => (hbody n hn).2⟩

/-! ## Blocks -/

theorem gives_codeBlock {t : Token} (h : t.HasShape) :
    Gives (codeBlock t) fun nodes => ∀ n ∈ nodes, n.Fine notes := by
  have hinfo : Gives (infoField (t.attrs.lookup "info")) fun _ => True := by
    have hshape := h.info
    cases hv : t.attrs.lookup "info" with
    | none => exact gives_pure trivial
    | some v =>
      have ht := hshape v hv
      cases v with
      | str s | null => exact gives_pure trivial
      | _ => cases ht
  unfold codeBlock
  refine (gives_attributes h).bind fun attrs ha => ?_
  subst ha
  refine hinfo.bind fun info _ => gives_pure ?_
  exact List.forall_mem_singleton.mpr (Node.fine_leaf _ _)

theorem inOrder_heading (v : Option Value) (children : List Node) :
    (Node.box (.heading (levelField v).1) (levelField v).2 children).InOrder := by
  have hlevel (level : HeadingLevel) : (Node.box (.heading level) {} children).InOrder :=
    ⟨level.val, rfl, by exact_mod_cast level.one_le, by exact_mod_cast level.le_six⟩
  unfold levelField
  split
  · exact hlevel _
  · exact ⟨1, rfl, by decide, by decide⟩
  · exact hlevel _

theorem gives_heading {t : Token} (h : ∀ s ∈ all t, s.HasShape) :
    Gives (heading t) fun nodes => ∀ n ∈ nodes, n.Fine notes := by
  unfold heading
  refine (gives_attributes (forall_mem_all.mp h).1).bind fun attrs _ => ?_
  refine (gives_inlineContent notes h).bind fun content hn => gives_pure ?_
  refine List.forall_mem_singleton.mpr (Node.fine_box (inOrder_heading _ _) ?_ ?_ hn)
  · exact fun h => nomatch h
  · exact fun _ _ h => nomatch h

theorem fine_listOf {notes : Bool} {t : Token} {attrs : List (String × Value)} {items : List Node}
    (h : ∀ n ∈ items, n.isItem = true ∧ n.Fine notes) : (listOf t attrs items).Fine notes := by
  refine Node.fine_box ⟨fun n hn => (h n hn).1, ?_, ?_⟩ (fun h => nomatch h)
    (fun _ _ h => nomatch h) fun n hn => (h n hn).2
  · rw [List.any_eq_true]
  · intro hordered
    simp only [hordered]
    rfl

theorem gives_symbol {v : Value} (h : v.isSymbol? = true) :
    Gives (liftM (symbolField v) : Reading (Option Char × Info)) fun _ => True := by
  have hok : ∃ p, symbolField v = .ok p := by
    cases v with
    | null => exact ⟨_, rfl⟩
    | str s =>
      obtain ⟨c, hc⟩ := List.length_eq_one_iff.mp (eq_of_beq h)
      simp only [symbolField, checkedSymbol, hc]
      exact ⟨_, rfl⟩
    | _ => cases h
  obtain ⟨p, hp⟩ := hok
  refine ⟨p, fun log => ⟨log, ?_⟩, trivial⟩
  rw [hp]
  rfl

end Parts

/-- A token that has the right shape, and that is not of the type of footnotes unless `notes` says
so. -/
structure Allowed (notes : Bool) (t : Token) : Prop where
  shape : t.HasShape
  notes : t.isOfType "footnotes" = true → notes = true

/-- The tokens with their numbers, from `next` on. -/
def numbered (next : Int) : List Token → List (Token × Int)
  | [] => []
  | t :: rest => (t, next) :: numbered (next + 1) rest

/-- Whether the node is the footnote of an item with a number: it is named by the item, it has the
index that the item gives or else the number, and it holds what the children of the item mean. -/
def IsFootnoteOf (p : Token × Int) (n : Node) : Prop :=
  ∃ identifier index info content,
    n = .box (.footnoteDefinition identifier index) info content ∧
    identifier = (p.1.attrs.lookup "key").elim "" Value.shown ∧
    info.given "index" (.int index) = (p.1.attrs.lookup "index").getD (.int p.2) ∧
    (documentOf p.1.children).1 = .ok (.box .document {} content)

theorem given_intField (name : String) (missing : Int) (v : Option Value) :
    (intField name missing v).2.given name (.int (intField name missing v).1) =
      v.getD (.int missing) := by
  unfold intField
  split
  · rfl
  · rfl
  · simp [Info.given]

theorem documentOf_of_yields {tokens : List Token} {content : List Node}
    (h : Yields (blocks tokens) content) :
    (documentOf tokens).1 = .ok (.box .document {} content) := by
  have hdoc : Yields (do return .box .document {} (← blocks tokens)) (Node.box .document {} content) :=
    h.bind (yields_pure _)
  obtain ⟨log, hlog⟩ := hdoc []
  unfold documentOf
  rw [hlog]

theorem named_eq_footnotes {t : Token} :
    t.typeName?.bind BlockKind.named? = some .footnotes ↔ t.isOfType "footnotes" = true := by
  unfold typeName? isOfType
  cases t.type with
  | str s =>
    simp only [Option.bind_some]
    constructor
    · intro h
      unfold BlockKind.named? at h
      split at h <;> cases h
      rfl
    · intro h
      rw [eq_of_beq h]
      rfl
  | _ => simp

section Blocks

variable (notes : Bool)

mutual

theorem gives_blocks : ∀ tokens : List Token, (∀ s ∈ allIn tokens, s.Allowed notes) →
    Gives (blocks tokens) fun nodes => ∀ n ∈ nodes, n.Fine notes
  | [], _ => by
    rw [blocks]
    exact gives_pure fun _ hn => nomatch hn
  | t :: rest, h => by
    obtain ⟨ht, hrest⟩ := forall_mem_allIn_cons.mp h
    rw [blocks]
    refine (gives_block t ht).bind fun here hhere => ?_
    refine (gives_blocks rest hrest).bind fun nodes hnodes => ?_
    exact gives_pure (List.forall_mem_append.mpr ⟨hhere, hnodes⟩)

theorem gives_block : ∀ t : Token, (∀ s ∈ all t, s.Allowed notes) →
    Gives (block t) fun nodes => ∀ n ∈ nodes, n.Fine notes
  | .stray v, h => nomatch (h _ (List.mem_singleton.mpr rfl)).shape.record
  | .mk fields listed children, h => by
    obtain ⟨hself, hc⟩ := forall_mem_all_mk.mp h
    have hshape : ∀ s ∈ all (.mk fields listed children), s.HasShape := fun s hs => (h s hs).shape
    have hchildren := gives_checkChildren hself.shape
    have hone {n : Node} (hn : n.Fine notes) : ∀ m ∈ [n], m.Fine notes :=
      List.forall_mem_singleton.mpr hn
    rw [block]
    split
    · simp only
      split
      · exact (gives_note _ _).bind fun _ _ => gives_pure fun _ hn => nomatch hn
      · exact gives_pure fun _ hn => nomatch hn
    · exact gives_heading notes hshape
    · exact (gives_inlineContent notes hshape).bind fun content hn =>
        gives_pure (hone (Node.fine_plain rfl _ hn))
    · exact gives_codeBlock notes hself.shape
    · exact gives_pure (hone (Node.fine_leaf _ _))
    · exact gives_pure (hone (Node.fine_leaf _ _))
    · exact gives_pure (hone (Node.fine_leaf _ _))
    · exact hchildren.bind fun _ _ => (gives_blocks children hc).bind fun content hn =>
        gives_pure (hone (Node.fine_plain rfl _ hn))
    · exact hchildren.bind fun _ _ => (gives_blocks children hc).bind fun content hn =>
        gives_pure (hone (Node.fine_plain rfl _ hn))
    · refine (gives_attributes hself.shape).bind fun attrs _ => hchildren.bind fun _ _ => ?_
      exact (gives_items children hc).bind fun items hn => gives_pure (hone (fine_listOf hn))
    · refine hchildren.bind fun _ _ => ?_
      have hheader : ∀ n ∈ (none : Option Node), n.IsRow notes true := fun _ hn => nomatch hn
      have hbody : ∀ n ∈ ([] : List Node), n.IsRow notes false := fun _ hn => nomatch hn
      exact (gives_tableParts notes (fun s hs => (hc s hs).shape) hheader hbody).bind fun p hp =>
        gives_pure (hone (fine_table hp.1 hp.2))
    · next hk =>
      refine hchildren.bind fun _ _ => (gives_footnotes children 1 hc).imp fun nodes hnodes n hn => ?_
      exact (hnodes.2 n hn).fine (hself.notes (named_eq_footnotes.mp hk))
    · exact hchildren.bind fun _ _ => (gives_definitions children hc).bind fun content hn =>
        gives_pure (hone (Node.fine_plain rfl _ hn))

theorem gives_items : ∀ tokens : List Token, (∀ s ∈ allIn tokens, s.Allowed notes) →
    Gives (items tokens) fun nodes => ∀ n ∈ nodes, n.isItem = true ∧ n.Fine notes
  | [], _ => by
    rw [items]
    exact gives_pure fun _ hn => nomatch hn
  | .stray v :: rest, h => nomatch (h _ (List.mem_cons_self ..)).shape.record
  | .mk fields listed children :: rest, h => by
    obtain ⟨ht, hrest⟩ := forall_mem_allIn_cons.mp h
    obtain ⟨hself, hc⟩ := forall_mem_all_mk.mp ht
    have hitem {n : Node} (hn : n.isItem = true ∧ n.Fine notes) :
        Gives (do return n :: (← items rest)) fun nodes =>
          ∀ n ∈ nodes, n.isItem = true ∧ n.Fine notes :=
      (gives_items rest hrest).bind fun nodes hnodes =>
        gives_pure (List.forall_mem_cons.mpr ⟨hn, hnodes⟩)
    rw [items]
    refine (gives_checkChildren hself.shape).bind fun _ _ => ?_
    refine (gives_blocks children hc).bind fun content hn => ?_
    split
    · next htask =>
      refine (gives_attributes hself.shape).bind fun attrs hattrs => ?_
      subst hattrs
      refine (gives_symbol ?_).bind fun p _ => hitem ⟨rfl, Node.fine_plain rfl _ hn⟩
      have hsymbol := hself.shape.symbol htask
      cases hv : (Token.mk fields listed children).attrs.lookup "symbol" with
      | none => rfl
      | some v => exact hsymbol v hv
    · split
      · exact hitem ⟨rfl, Node.fine_plain rfl _ hn⟩
      · exact gives_items rest hrest

/-- Each item gives one footnote. -/
theorem gives_footnotes : ∀ (tokens : List Token) (next : Int),
    (∀ s ∈ allIn tokens, s.Allowed notes) →
    Gives (footnotes next tokens) fun nodes =>
      List.Forall₂ IsFootnoteOf (numbered next tokens) nodes ∧ ∀ n ∈ nodes, n.IsNote notes
  | [], next, _ => by
    rw [footnotes]
    exact gives_pure ⟨.nil, fun _ hn => nomatch hn⟩
  | .stray v :: rest, next, h => nomatch (h _ (List.mem_cons_self ..)).shape.record
  | .mk fields listed children :: rest, next, h => by
    obtain ⟨ht, hrest⟩ := forall_mem_allIn_cons.mp h
    obtain ⟨hself, hc⟩ := forall_mem_all_mk.mp ht
    rw [footnotes]
    refine (gives_attributes hself.shape).bind fun attrs hattrs => ?_
    subst hattrs
    refine (gives_checkChildren hself.shape).bind fun _ _ => ?_
    -- the content is named first: it is also what the children mean as a document of their own
    obtain ⟨content, hcontent, hn⟩ := gives_blocks children hc
    have hthis : Gives (blocks children) (· = content) := ⟨content, hcontent, rfl⟩
    refine hthis.bind fun _ he => ?_
    subst he
    refine (gives_footnotes rest (next + 1) hrest).bind fun nodes hnodes => gives_pure ?_
    have hnote := documentOf_of_yields hcontent
    exact ⟨.cons ⟨_, _, _, _, rfl, rfl, given_intField _ _ _, hnote⟩ hnodes.1,
      List.forall_mem_cons.mpr ⟨⟨⟨_, _, rfl⟩, hn⟩, hnodes.2⟩⟩

theorem gives_definitions : ∀ tokens : List Token, (∀ s ∈ allIn tokens, s.Allowed notes) →
    Gives (definitions tokens) fun nodes => ∀ n ∈ nodes, n.Fine notes
  | [], _ => by
    rw [definitions]
    exact gives_pure fun _ hn => nomatch hn
  | .stray v :: rest, h => nomatch (h _ (List.mem_cons_self ..)).shape.record
  | .mk fields listed children :: rest, h => by
    obtain ⟨ht, hrest⟩ := forall_mem_allIn_cons.mp h
    obtain ⟨hself, hc⟩ := forall_mem_all_mk.mp ht
    have hpart {n : Node} (hn : n.Fine notes) :
        Gives (do return n :: (← definitions rest)) fun nodes => ∀ n ∈ nodes, n.Fine notes :=
      (gives_definitions rest hrest).bind fun nodes hnodes =>
        gives_pure (List.forall_mem_cons.mpr ⟨hn, hnodes⟩)
    rw [definitions]
    split
    · exact (gives_inlineContent notes fun s hs => (ht s hs).shape).bind fun content hn =>
        hpart (Node.fine_plain rfl _ hn)
    · split
      · exact (gives_checkChildren hself.shape).bind fun _ _ =>
          (gives_blocks children hc).bind fun content hn => hpart (Node.fine_plain rfl _ hn)
      · exact gives_definitions rest hrest

end

end Blocks

/-! ## Footnotes -/

/-- The items of the tokens of footnotes, each with its number among those of its token. -/
def footnoteItems (tokens : List Token) : List (Token × Int) :=
  tokens.flatMap fun t => if t.isOfType "footnotes" then numbered 1 t.children else []

/-- A member of a document that is a footnote of an item, directly below the root. -/
def IsRootFootnoteOf (p : Token × Int) (q : Member) : Prop :=
  q.parent = some .document ∧ IsFootnoteOf p q.node

theorem filter_members_of_fine {nodes : List Node} (h : ∀ n ∈ nodes, n.Fine false)
    (parent : Option Container) : (Node.membersAll parent nodes).filter Member.isFootnote = [] := by
  refine List.filter_eq_nil_iff.mpr fun q hq hf => ?_
  rw [Node.membersAll_eq_flatMap] at hq
  obtain ⟨n, hn, hq⟩ := List.mem_flatMap.mp hq
  exact nomatch (h n hn parent q hq).2.2 hf

theorem filter_members_of_notes {nodes : List Node} (h : ∀ n ∈ nodes, n.IsNote false)
    (parent : Option Container) :
    (Node.membersAll parent nodes).filter Member.isFootnote = nodes.map fun n => ⟨parent, n⟩ := by
  induction nodes with
  | nil => rfl
  | cons n rest ih =>
    obtain ⟨hn, hrest⟩ := List.forall_mem_cons.mp h
    have hself : (n.members parent).filter Member.isFootnote = [⟨parent, n⟩] := by
      obtain ⟨identifier, index, hk⟩ := hn.kind
      cases n with
      | leaf kind info => cases hk
      | box kind info children =>
        cases hk
        have hbelow := filter_members_of_fine hn.content (some (.footnoteDefinition identifier index))
        rw [Node.children] at hbelow
        rw [Node.members_box, List.filter_cons_of_pos rfl, hbelow]
    rw [Node.membersAll, List.filter_append, hself, ih hrest]
    rfl

theorem block_footnotes {t : Token} (h : t.HasShape) (hf : t.isOfType "footnotes" = true) :
    block t = (do
      checkChildren t
      footnotes 1 t.children) := by
  cases t with
  | stray v => exact nomatch h.record
  | mk fields listed children =>
    rw [block]
    simp only [named_eq_footnotes.mpr hf]
    rfl

/-- If footnotes are given at top level only, the footnotes among the blocks are those of the items.
-/
theorem gives_rootFootnotes {tokens : List Token} (h : ∀ s ∈ allIn tokens, s.HasShape)
    (htop : ∀ t ∈ tokens, ∀ s ∈ allIn t.children, s.isOfType "footnotes" = false) :
    Gives (blocks tokens) fun nodes => List.Forall₂ IsRootFootnoteOf (footnoteItems tokens)
      ((Node.membersAll (some .document) nodes).filter Member.isFootnote) := by
  induction tokens with
  | nil =>
    rw [blocks]
    exact gives_pure .nil
  | cons t rest ih =>
    obtain ⟨ht, hrest⟩ := forall_mem_allIn_cons.mp h
    obtain ⟨htt, htrest⟩ := List.forall_mem_cons.mp htop
    obtain ⟨hself, hc⟩ := forall_mem_all.mp ht
    have hallowed : ∀ s ∈ allIn t.children, s.Allowed false := fun s hs =>
      ⟨hc s hs, fun hf => (htt s hs).symm.trans hf⟩
    have hthis : Gives (block t) fun nodes => List.Forall₂ IsRootFootnoteOf
        (if t.isOfType "footnotes" then numbered 1 t.children else [])
        ((Node.membersAll (some .document) nodes).filter Member.isFootnote) := by
      cases hf : t.isOfType "footnotes" with
      | false =>
        have hfalse : ∀ s ∈ all t, s.Allowed false :=
          forall_mem_all.mpr ⟨⟨hself, fun ht => hf.symm.trans ht⟩, hallowed⟩
        refine (gives_block false t hfalse).imp fun nodes hnodes => ?_
        rw [filter_members_of_fine hnodes]
        exact .nil
      | true =>
        rw [block_footnotes hself hf]
        refine (gives_checkChildren hself).bind fun _ _ => ?_
        refine (gives_footnotes false t.children 1 hallowed).imp fun nodes hnodes => ?_
        rw [filter_members_of_notes hnodes.2]
        exact List.forall₂_map_right_iff.mpr (hnodes.1.imp fun _ _ hp => ⟨rfl, hp⟩)
    rw [blocks]
    refine hthis.bind fun here hhere => (ih hrest htrest).bind fun nodes hnodes => gives_pure ?_
    rw [Node.membersAll_eq_flatMap, List.flatMap_append, List.filter_append]
    rw [Node.membersAll_eq_flatMap] at hhere hnodes
    exact List.rel_append hhere hnodes

end Token

/-! ## Documents -/

/-- A document of which every node is in order, and of which only the root is a document. -/
structure Node.WellFormed (doc : Node) : Prop where
  root : doc.container? = some .document
  single : ∀ c ∈ doc.children, ∀ q ∈ c.members (some .document),
    q.node.container? ≠ some .document
  inOrder : ∀ q ∈ doc.members none, q.node.InOrder

/-- **Tokens mean well-formed documents.** Tokens of the right shape are read without a fault, whatever
the fields hold that may be anything, and give a well-formed document. If footnotes are given at top
level only, the footnotes of the document are directly below its root, one for each item and in the
order of the items. -/
theorem wellFormed_documentOf {tokens : List Token} (h : ∀ s ∈ Token.allIn tokens, s.HasShape) :
    ∃ doc, (documentOf tokens).1 = .ok doc ∧ doc.WellFormed ∧
      ((∀ t ∈ tokens, ∀ s ∈ Token.allIn t.children, s.isOfType "footnotes" = false) →
        List.Forall₂ Token.IsRootFootnoteOf (Token.footnoteItems tokens)
          ((doc.members none).filter Member.isFootnote)) := by
  obtain ⟨content, hcontent, hfine⟩ := Token.gives_blocks true tokens fun s hs => ⟨h s hs, fun _ => rfl⟩
  refine ⟨.box .document {} content, Token.documentOf_of_yields hcontent, ⟨rfl, ?_, ?_⟩, fun htop => ?_⟩
  · exact fun c hc q hq => (hfine c hc _ q hq).2.1
  · intro q hq
    rcases Node.mem_members_box.mp hq with rfl | ⟨c, hc, hq⟩
    · trivial
    · exact (hfine c hc _ q hq).1
  · -- read again under the hypothesis on footnotes, the same tokens give the same content
    obtain ⟨content', hcontent', hnotes⟩ := Token.gives_rootFootnotes h htop
    obtain rfl := hcontent.unique hcontent'
    rw [Node.members_box, List.filter_cons_of_neg (by simp [Member.isFootnote])]
    exact hnotes

/-- A heading whose level is a truth value, a list that is not ordered but given a start, with a
paragraph among its items, a table with its body in front of its header, and two footnotes. -/
theorem wellFormed_documentOf_odd :
    let tokens : List Token := [
      .node "heading" [("attrs", .dict [("level", .bool true)])]
        [.plain "text" [("raw", .str "a")], .plain "text" [("raw", .str "b")]],
      .node "list" [("tight", .int 0), ("attrs", .dict [("start", .int 7)])]
        [.node "task_list_item" [("attrs", .dict [("symbol", .str "~")])] [], .node "paragraph" [] [],
          .mk [] false []],
      .node "table" [] [.node "table_body" [] [.node "table_row" [] []], .node "table_head" [] []],
      .node "footnotes" [("attrs", .null)]
        [.node "footnote_item" [("attrs", .dict [("key", .int 5)])] [.plain "paragraph" []],
          .node "footnote_item" [("attrs", .keyed [(.int 1, .null), (.str "index", .str "i")])] []]]
    (∀ s ∈ Token.allIn tokens, s.HasShape) ∧
      (∀ t ∈ tokens, ∀ s ∈ Token.allIn t.children, s.isOfType "footnotes" = false) ∧
      ∃ doc, (documentOf tokens).1 = .ok doc ∧ doc.WellFormed ∧
        ((doc.members none).filter Member.isFootnote).length = 2 := by
  intro tokens
  have h : ∀ s ∈ Token.allIn tokens, s.HasShape := by decide
  have htop : ∀ t ∈ tokens, ∀ s ∈ Token.allIn t.children, s.isOfType "footnotes" = false := by
    decide
  obtain ⟨doc, hdoc, hwell, hnotes⟩ := wellFormed_documentOf h
  exact ⟨h, htop, doc, hdoc, hwell, (hnotes htop).length_eq.symm⟩

end FlavoredMarkdown
