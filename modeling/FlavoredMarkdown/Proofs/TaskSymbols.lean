import FlavoredMarkdown.Proofs.Overrides
import FlavoredMarkdown.Proofs.TaskItems
import FlavoredMarkdown.Proofs.TaskMarking

/-!
# From task markers to task items

A marker is found among the tokens of blocks, before the texts of the blocks are read. Its character
goes into the attributes of a token, from there into a document, and a formatter decides by it how the
item is shown. These three agree on what a symbol is: whatever the tokens are, the symbols that are
marked are symbols that a task item can have. The one that says that a task does not apply is among
them in relaxed reading only.

* Between marking and the document the texts of blocks are read, which is not part of this theory. All
  that is asked of it is `Token.Inlined`: a text makes way for tokens that are no task items.

Results:
* `Token.isMarked_markTasks`: the shape of tokens is right after the marking if it is before, and the
  symbols are those of markers.
* `Formatter.format_applying`: a document whose tasks all apply looks the same whether or not the
  formatter knows tasks that do not apply.
* **`symbols_documentOf`**: the symbols of the task items of a document are those of markers.
-/

namespace FlavoredMarkdown

/-! ## Symbols -/

/-- The symbol of a task item whose marker has this character. -/
def taskSymbol? (c : Char) : Option Char := if c = ' ' then none else some c

/-- A marked symbol is one that a task item can have. -/
theorem isSymbol?_symbolValue (c : Char) : (symbolValue c).isSymbol? = true := by
  unfold symbolValue
  split
  · rfl
  · simp [Value.isSymbol?]

/-- A marked symbol is read as it is, and nothing else is kept of it. -/
theorem Token.symbolField_symbolValue (c : Char) :
    symbolField (symbolValue c) = .ok (taskSymbol? c, {}) := by
  unfold symbolValue taskSymbol?
  split
  · rfl
  · simp [symbolField, checkedSymbol]

theorem isTaskSymbol_of_itemMarker? {relaxed : Bool} {item : Token} {c : Char} {rest : List Char}
    (h : itemMarker? relaxed item = some (c, rest)) : isTaskSymbol relaxed c = true := by
  obtain ⟨-, first, more, text, -, -, hmarker⟩ := Token.itemMarker?_eq_some_iff.mp h
  exact isTaskSymbol_iff.mpr hmarker.1

/-! ## Marking -/

namespace Token

/-- A token as it is before tasks are marked: of the right shape, with its children in a list if it has
any, with a text for its text, and no task item. -/
structure IsUnmarked (t : Token) : Prop where
  shape : t.HasShape
  children : t.field? "children" = none
  text : ∀ v ∈ t.field? "text", v.isText = true
  noTask : t.isOfType "task_list_item" = false

instance (t : Token) : Decidable t.IsUnmarked :=
  decidable_of_iff
    (t.HasShape ∧ (t.field? "children").isNone = true ∧ (∀ v ∈ t.field? "text", v.isText = true) ∧
      t.isOfType "task_list_item" = false)
    ⟨fun ⟨h1, h2, h3, h4⟩ => ⟨h1, Option.isNone_iff_eq_none.mp h2, h3, h4⟩,
      fun ⟨h1, h2, h3, h4⟩ => ⟨h1, Option.isNone_iff_eq_none.mpr h2, h3, h4⟩⟩

/-- A token of the right shape. If it is a task item, its symbol is that of a marker. -/
structure IsMarked (relaxed : Bool) (t : Token) : Prop where
  shape : t.HasShape
  symbol : t.isOfType "task_list_item" = true →
    ∃ c, isTaskSymbol relaxed c = true ∧ t.attrs.lookup "symbol" = some (symbolValue c)

section Marking

variable {relaxed : Bool} {t t' : Token}

/-- A token that is no task item has no symbol to be asked for. -/
theorem HasShape.isMarked (h : t.HasShape) (ht : t.isOfType "task_list_item" = false) :
    t.IsMarked relaxed :=
  ⟨h, fun hk => by rw [ht] at hk; cases hk⟩

/-- The text of a token and what is below it do not count. -/
theorem IsMarked.of_fields (h : t.IsMarked relaxed) (hrecord : t'.isRecord = true)
    (hchildren : t'.listed = true ∨ t'.field? "children" = none)
    (hfields : ∀ name, name ≠ "text" → t'.field? name = t.field? name) : t'.IsMarked relaxed := by
  have hattrs : t'.attrs = t.attrs := by
    unfold attrs
    rw [hfields "attrs" (by decide)]
  have htype (name : String) : t'.isOfType name = t.isOfType name := by
    unfold isOfType type
    rw [hfields "type" (by decide)]
  obtain ⟨hshape, hsymbol⟩ := h
  constructor
  · constructor
    · exact hrecord
    · rw [hfields "type" (by decide)]
      exact hshape.type
    · exact hchildren
    · rw [hfields "attrs" (by decide)]
      exact hshape.attributes
    · rw [hfields "raw" (by decide)]
      exact hshape.raw
    · rw [hattrs]
      exact hshape.info
    · rw [htype, hattrs]
      exact hshape.symbol
  · rw [htype, hattrs]
    exact hsymbol

/-- An item with a marker becomes a task item with its symbol. -/
theorem isMarked_taskItem {fields : List (String × Value)} {listed : Bool} {children : List Token}
    {c : Char} (h : (Token.mk fields listed children).HasShape) (hc : isTaskSymbol relaxed c = true)
    (below : List Token) :
    (Token.mk (setEntry "attrs" (.dict [("symbol", symbolValue c)])
      (setEntry "type" (.str "task_list_item") fields)) listed below).IsMarked relaxed := by
  let task := Token.mk (setEntry "attrs" (.dict [("symbol", symbolValue c)])
    (setEntry "type" (.str "task_list_item") fields)) listed below
  have htype : task.field? "type" = some (.str "task_list_item") := lookup_type_task c fields
  have hentry : task.field? "attrs" = some (.dict [("symbol", symbolValue c)]) :=
    lookup_setEntry_self _ _
  have hother {name : String} (ha : name ≠ "attrs") (ht : name ≠ "type") :
      task.field? name = fields.lookup name := lookup_task c fields ha ht
  have hattrs : task.attrs = [("symbol", symbolValue c)] := by
    unfold attrs
    rw [hentry]
  show task.IsMarked relaxed
  constructor
  · constructor
    · rfl
    · rw [htype]
      rintro v ⟨⟩
      rfl
    · rw [hother (by decide) (by decide)]
      exact h.children
    · rw [hentry]
      rintro v ⟨⟩
      rfl
    · rw [hother (by decide) (by decide)]
      exact h.raw
    · rw [hattrs]
      rintro v ⟨⟩
    · rw [hattrs]
      rintro - v ⟨⟩
      exact isSymbol?_symbolValue c
  · rw [hattrs]
    exact fun _ => ⟨c, hc, rfl⟩

/-- The marking makes marked tokens of unmarked ones. -/
theorem carriesOver_isMarked : CarriesOver relaxed IsUnmarked (IsMarked relaxed) := by
  constructor
  · intro v h
    cases h.shape.record
  · intro fields listed children c rest below h hm
    exact isMarked_taskItem h.shape (isTaskSymbol_of_itemMarker? hm) below
  · intro fields listed children below h _ _
    have hmarked : (Token.mk fields listed children).IsMarked relaxed := h.shape.isMarked h.noTask
    exact hmarked.of_fields rfl h.shape.children fun _ _ => rfl
  · intro t text h
    refine h.of_fields ?_ ?_ fun name hn => field?_setField_ne hn _
    · rw [isRecord_setField, h.shape.record]
    · rw [listed_setField, field?_setField_ne (by decide)]
      exact h.shape.children

/-- **What is marked has a symbol of a marker**, and the shape is kept. -/
theorem isMarked_markTasks (tokens : List Token) (h : ∀ s ∈ allIn tokens, s.IsUnmarked) :
    ∀ s ∈ allIn (markTasks relaxed tokens), s.IsMarked relaxed :=
  carriesOver_isMarked.markTasks tokens h

theorem IsUnmarked.isTextual (h : t.IsUnmarked) : t.IsTextual := ⟨h.shape.record, h.children, h.text⟩

/-- One can look for tasks among tokens that are not marked yet. -/
theorem taskFaults?_eq_none (tokens : List Token) (h : ∀ s ∈ allIn tokens, s.IsUnmarked) :
    taskFaults? tokens = none :=
  taskFaults?_of_isTextual tokens fun s hs => (h s hs).isTextual

end Marking

/-! ## Reading the texts of blocks -/

mutual

/-- What may become of a token when the texts of blocks are read. It stays, or its text makes way for
tokens of the right shape, of which none is a task item. -/
inductive Inlined : Token → Token → Prop
  | kept {fields : List (String × Value)} {listed : Bool} {children children' : List Token} :
    InlinedAll children children' →
    Inlined (.mk fields listed children) (.mk fields listed children')
  | read {fields fields' : List (String × Value)} {children children' : List Token} :
    (fields.lookup "text").isSome = true →
    (∀ name, name ≠ "text" → fields'.lookup name = fields.lookup name) →
    (∀ s ∈ allIn children', s.HasShape ∧ s.isOfType "task_list_item" = false) →
    Inlined (.mk fields false children) (.mk fields' true children')

/-- What may become of some tokens. -/
inductive InlinedAll : List Token → List Token → Prop
  | nil : InlinedAll [] []
  | cons {t t' : Token} {rest rest' : List Token} :
    Inlined t t' → InlinedAll rest rest' → InlinedAll (t :: rest) (t' :: rest')

end

section Reading

variable {relaxed : Bool}

mutual

/-- Reading texts brings up no symbols. -/
theorem Inlined.isMarked : ∀ {t t' : Token}, Inlined t t' → (∀ s ∈ all t, s.IsMarked relaxed) →
    ∀ s ∈ all t', s.IsMarked relaxed
  | .mk fields listed children, _, .kept hi, h => by
    obtain ⟨hself, hc⟩ := forall_mem_all_mk.mp h
    refine forall_mem_all_mk.mpr ⟨?_, hi.isMarked hc⟩
    exact hself.of_fields rfl hself.shape.children fun _ _ => rfl
  | .mk fields _ children, .mk fields' _ children', .read _ hfields hnew, h => by
    obtain ⟨hself, -⟩ := forall_mem_all_mk.mp h
    refine forall_mem_all_mk.mpr ⟨hself.of_fields rfl (.inl rfl) hfields, fun s hs => ?_⟩
    exact (hnew s hs).1.isMarked (hnew s hs).2

theorem InlinedAll.isMarked : ∀ {tokens tokens' : List Token}, InlinedAll tokens tokens' →
    (∀ s ∈ allIn tokens, s.IsMarked relaxed) → ∀ s ∈ allIn tokens', s.IsMarked relaxed
  | _, _, .nil, _ => fun _ hs => nomatch hs
  | _, _, .cons ht hr, h => by
    obtain ⟨hself, hrest⟩ := forall_mem_allIn_cons.mp h
    exact forall_mem_allIn_cons.mpr ⟨ht.isMarked hself, hr.isMarked hrest⟩

end

end Reading

end Token

/-! ## Tasks that do not apply -/

/-- The style with tasks that do not apply known or not. -/
def Style.applying (style : Style) (knows : Bool) : Style :=
  { style with user := { style.user with
      on := fun f => if f = .inapplicableTasks then knows else style.user.on f } }

section Visits

variable {style : Style} (knows : Bool) (ancestors : List Occurrence) (marks : Marks)

theorem Formatter.visitor_applying (formatter : Formatter) (kind : String) :
    formatter.visitor (style.applying knows) kind = formatter.visitor style kind := by
  cases formatter <;> rfl

/-- A node that is no task that does not apply is written alike. -/
theorem Override.emission_applying {o : Occurrence}
    (h : (Member.mk (parentKind? ancestors) o.node).symbol? ≠ some '~') (override : Override)
    (phase : Phase) :
    (override.visit (style.applying knows) ancestors marks o phase).emission =
      (override.visit style ancestors marks o phase).emission := by
  obtain ⟨n, place⟩ := o
  cases n with
  | leaf kind info => cases override <;> cases kind <;> rfl
  | box kind info children =>
    cases kind with
    | taskItem symbol =>
      cases override with
      | taskItem =>
        let o : Occurrence := ⟨.box (.taskItem symbol) info children, place⟩
        have hdefault (style : Style) :
            (Override.visitTaskItem style ancestors marks o info symbol phase).emission =
              (Default.visit style ancestors marks o phase).emission :=
          emission_visitTaskItem style ancestors marks phase fun _ => h
        have hhtml : (style.applying knows).html = style.html := rfl
        show (Override.visitTaskItem (style.applying knows) ancestors marks o info symbol
          phase).emission = (Override.visitTaskItem style ancestors marks o info symbol phase).emission
        rw [hdefault, hdefault, Default.visit_congr hhtml]
      | _ => rfl
    | _ => cases override <;> rfl

end Visits

/-- **Where all tasks apply it does not count** whether tasks that do not apply are known. -/
theorem Formatter.format_applying (formatter : Formatter) (style : Style) {doc : Node}
    (h : ∀ q ∈ doc.members none, q.symbol? ≠ some '~') (knows : Bool) :
    (formatter.format (style.applying knows) doc).1 = (formatter.format style doc).1 := by
  have hvisit : ∀ (ancestors : List Occurrence) (o : Occurrence) (phase : Phase),
      ⟨parentKind? ancestors, o.node⟩ ∈ doc.members none →
        (formatter.emitter (style.applying knows)).visit ancestors o phase =
          (formatter.emitter style).visit ancestors o phase := by
    intro ancestors o phase hm
    funext marks
    rw [Formatter.emitter_visit, Formatter.emitter_visit, Formatter.visitor_applying]
    have hhtml : (style.applying knows).html = style.html := rfl
    rcases formatter.visitor_eq style o.node.kindName with hv | ⟨override, hv⟩ <;> rw [hv]
    · exact congrArg Visited.emission (Default.visit_congr hhtml ancestors marks o phase)
    · exact Override.emission_applying knows ancestors marks (h _ hm) override phase
  have hmembers : sameEmission.AtMembers (formatter.emitter (style.applying knows))
      (formatter.emitter style) (doc.members (parentKind? [])) :=
    Correspondence.atMembers_of_visits (fun _ => rfl) hvisit
  have hsame := hmembers.rel_traverse doc [] (Occurrence.root doc 0).place
  rw [Formatter.format_eq, Formatter.format_eq]
  exact congrArg (fun x : Emit Unit => (x {}).html) hsame

/-! ## Documents -/

/-- The symbol of a task item as it was given. -/
def Member.symbolGiven? (q : Member) : Option Value :=
  match q.node with
  | .box (.taskItem symbol) info _ =>
    some (info.given "symbol" (symbol.elim .null fun c => .str (String.singleton c)))
  | _ => none

section Documents

variable {relaxed : Bool} {tokens : List Token} {doc : Node}

/-- Marked tokens of the right shape mean a document. -/
theorem documentOf_of_isMarked (h : ∀ s ∈ Token.allIn tokens, s.IsMarked relaxed) :
    ∃ doc, (documentOf tokens).1 = .ok doc := by
  obtain ⟨content, hcontent, -⟩ :=
    Token.gives_blocks true tokens fun s hs => ⟨(h s hs).shape, fun _ => rfl⟩
  exact ⟨_, Token.documentOf_of_yields hcontent⟩

/-- The symbols of the task items are those of markers. -/
theorem taskItem_of_isMarked (h : ∀ s ∈ Token.allIn tokens, s.IsMarked relaxed)
    (hdoc : (documentOf tokens).1 = .ok doc) {q : Member} (hq : q ∈ doc.members none)
    {symbol : Option Char} {info : Info} {children : List Node}
    (he : q.node = .box (.taskItem symbol) info children) :
    ∃ c, isTaskSymbol relaxed c = true ∧ symbol = taskSymbol? c ∧ info = {} := by
  obtain ⟨t, ht, hk, hsymbol⟩ := tasks_documentOf hdoc hq he
  obtain ⟨c, hc, hv⟩ := (h t ht).symbol hk
  rw [hv, Option.getD_some, Token.symbolField_symbolValue] at hsymbol
  cases hsymbol
  exact ⟨c, hc, rfl, rfl⟩

/-- What is given as a symbol is what the marking set it to. -/
theorem symbolGiven?_of_isMarked (h : ∀ s ∈ Token.allIn tokens, s.IsMarked relaxed)
    (hdoc : (documentOf tokens).1 = .ok doc) {q : Member} (hq : q ∈ doc.members none) {v : Value}
    (hv : v ∈ q.symbolGiven?) : ∃ c, isTaskSymbol relaxed c = true ∧ v = symbolValue c := by
  unfold Member.symbolGiven? at hv
  split at hv
  · next symbol info children he =>
    obtain ⟨c, hc, rfl, rfl⟩ := taskItem_of_isMarked h hdoc hq he
    refine ⟨c, hc, ?_⟩
    obtain rfl := Option.some.inj hv
    unfold taskSymbol? symbolValue
    split <;> rfl
  · cases hv

/-- A strict marker has a space or an x. -/
theorem eq_of_isTaskSymbol {c : Char} (h : isTaskSymbol false c = true) :
    c = ' ' ∨ c = 'x' ∨ c = 'X' := by
  simpa [isTaskSymbol, or_assoc] using h

/-- In strict reading there are no tasks that do not apply. -/
theorem symbol?_ne_of_isMarked (h : ∀ s ∈ Token.allIn tokens, s.IsMarked false)
    (hdoc : (documentOf tokens).1 = .ok doc) {q : Member} (hq : q ∈ doc.members none) :
    q.symbol? ≠ some '~' := by
  intro hs
  unfold Member.symbol? at hs
  split at hs
  · next symbol info children he =>
    obtain ⟨c, hc, rfl, -⟩ := taskItem_of_isMarked h hdoc hq he
    rcases eq_of_isTaskSymbol hc with rfl | rfl | rfl <;> cases hs
  · cases hs

/-- **The symbols of task items are those of markers.** Among tokens of blocks in the right shape one
can look for tasks. When the tasks are marked and the texts are read the tokens mean a document, and
each task item of it has no symbol or a single character. In strict reading it has no symbol or an x,
and whether the formatter knows tasks that do not apply makes no difference to the page. -/
theorem symbols_documentOf (relaxed : Bool) {tokens : List Token}
    (h : ∀ s ∈ Token.allIn tokens, s.IsUnmarked) :
    tasksMarked? relaxed tokens = .ok (markTasks relaxed tokens) ∧
      ∀ tokens', Token.InlinedAll (markTasks relaxed tokens) tokens' →
        ∃ doc, (documentOf tokens').1 = .ok doc ∧
          (∀ q ∈ doc.members none, ∀ v ∈ q.symbolGiven?, v.isSymbol? = true) ∧
          (relaxed = false →
            (∀ q ∈ doc.members none, ∀ v ∈ q.symbolGiven?,
              v = .null ∨ v = .str "x" ∨ v = .str "X") ∧
            ∀ style : Style, (Formatter.standard.format (style.applying true) doc).1 =
              (Formatter.standard.format (style.applying false) doc).1) := by
  constructor
  · rw [tasksMarked?, Token.taskFaults?_eq_none tokens h]
  · intro tokens' hread
    have hmarked := hread.isMarked (Token.isMarked_markTasks tokens h)
    obtain ⟨doc, hdoc⟩ := documentOf_of_isMarked hmarked
    refine ⟨doc, hdoc, fun q hq v hv => ?_, ?_⟩
    · obtain ⟨c, -, rfl⟩ := symbolGiven?_of_isMarked hmarked hdoc hq hv
      exact isSymbol?_symbolValue c
    · rintro rfl
      constructor
      · intro q hq v hv
        obtain ⟨c, hc, rfl⟩ := symbolGiven?_of_isMarked hmarked hdoc hq hv
        rcases eq_of_isTaskSymbol hc with rfl | rfl | rfl
        · exact .inl rfl
        · exact .inr (.inl rfl)
        · exact .inr (.inr rfl)
      · intro style
        have happly : ∀ q ∈ doc.members none, q.symbol? ≠ some '~' := fun q hq =>
          symbol?_ne_of_isMarked hmarked hdoc hq
        rw [Formatter.format_applying _ style happly, Formatter.format_applying _ style happly]

/-- A marked item with two items below it: one is marked as open, and the other has a marker that is
none in strict reading. -/
theorem symbols_documentOf_nested :
    let text (s : String) : Token := .plain "block_text" [("text", .str s)]
    let list (items : List Token) : Token := .node "list" [("tight", .bool true)] items
    let tokens : List Token := [list [.node "list_item" [] [text "[x] a",
      list [.node "list_item" [] [text "[ ] b"], .node "list_item" [] [text "[~] c"]]]]]
    let read (s : String) : Token := .node "block_text" [] [.plain "text" [("raw", .str s)]]
    let task (symbol : Value) (children : List Token) : Token :=
      .node "task_list_item" [("attrs", .dict [("symbol", symbol)])] children
    let tokens' : List Token := [list [task (.str "x") [read "a",
      list [task .null [read "b"], .node "list_item" [] [read "[~] c"]]]]]
    (∀ s ∈ Token.allIn tokens, s.IsUnmarked) ∧
      Token.InlinedAll (markTasks false tokens) tokens' ∧
      ∃ doc, (documentOf tokens').1 = .ok doc ∧
        (doc.members none).filterMap Member.symbolGiven? = [.str "x", .null] ∧
        ∀ style : Style, (Formatter.standard.format (style.applying true) doc).1 =
          (Formatter.standard.format (style.applying false) doc).1 := by
  intro text list tokens read task tokens'
  have h : ∀ s ∈ Token.allIn tokens, s.IsUnmarked := by decide
  have hshape (s : String) : (Token.plain "text" [("raw", .str s)]).HasShape := by
    constructor
    · rfl
    · rintro v ⟨⟩
      rfl
    · exact .inr rfl
    · rintro v ⟨⟩
    · rintro v ⟨⟩
      rfl
    · rintro v ⟨⟩
    · rintro ⟨⟩
  have hread (s : String) : Token.Inlined (text s) (read s) := by
    refine .read rfl (fun name hn => ?_) fun t ht => ?_
    · simp [List.lookup_cons, beq_eq_false_iff_ne.mpr hn]
    · obtain rfl := List.mem_singleton.mp ht
      exact ⟨hshape s, rfl⟩
  have hinlined : Token.InlinedAll (markTasks false tokens) tokens' := by
    show Token.InlinedAll [list [task (.str "x") [text "a",
      list [task .null [text "b"], .node "list_item" [] [text "[~] c"]]]]] tokens'
    refine .cons (.kept (.cons (.kept (.cons (hread "a") (.cons (.kept ?_) .nil))) .nil)) .nil
    exact .cons (.kept (.cons (hread "b") .nil)) (.cons (.kept (.cons (hread "[~] c") .nil)) .nil)
  obtain ⟨doc, hdoc, -, hstrict⟩ := (symbols_documentOf false h).2 tokens' hinlined
  refine ⟨h, hinlined, doc, hdoc, ?_, (hstrict rfl).2⟩
  cases hdoc
  rfl

end Documents

end FlavoredMarkdown
