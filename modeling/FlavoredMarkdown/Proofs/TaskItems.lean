import FlavoredMarkdown.Proofs.TokenMeaning

/-!
# Task items come from task tokens

The items of a list are task items where a token says so (`_process_list`), and the symbol of such an
item is the one in the attributes of its token. Nothing else in a document is a task item. This holds of
all tokens that are read, also of those whose shape is not the right one, as long as the reading gives a
result.

Results:
* `Ensures`: what holds of the results of a reading that may fail.
* `Token.ensures_blocks` and those with it: the task items that blocks give.
* **`tasks_documentOf`**: each task item of a document has the symbol of one of the tokens.
-/

namespace FlavoredMarkdown

/-! ## Readings that may fail -/

section Readings

variable {α β : Type} {x : Reading α} {f : α → Reading β} {P P' : α → Prop} {Q : β → Prop}

/-- If the reading gives a result, the result has the property. -/
def Ensures (x : Reading α) (P : α → Prop) : Prop :=
  ∀ log a log', x.run.run log = (.ok a, log') → P a

theorem ensures_pure {a : α} (h : P a) : Ensures (pure a) P := by
  intro log b log' hb
  cases hb
  exact h

theorem ensures_throw (e : TokenError) : Ensures (throw e : Reading α) P := by
  intro log a log' h
  cases h

theorem ensures_true : Ensures x fun _ => True := fun _ _ _ _ => trivial

theorem Ensures.bind (hx : Ensures x P) (hf : ∀ a, P a → Ensures (f a) Q) :
    Ensures (x >>= f) Q := by
  intro log b log' h
  simp only [ExceptT.run_bind, StateT.run_bind] at h
  cases hr : x.run.run log with
  | mk result log'' =>
    rw [hr] at h
    cases result with
    | ok a => exact hf a (hx log a log'' hr) log'' b log' h
    | error e => cases h

theorem Ensures.map {g : α → β} (hx : Ensures x fun a => Q (g a)) : Ensures (g <$> x) Q := by
  rw [map_eq_pure_bind]
  exact hx.bind fun _ => ensures_pure

/-- Nothing comes after a failure. -/
theorem ensures_fail (e : TokenError) : Ensures ((throw e : Reading α) >>= f) Q := by
  have hnone : Ensures (throw e : Reading α) fun _ => False := ensures_throw e
  exact hnone.bind fun _ h => h.elim

theorem Ensures.bind_ite {y : Reading α} {c : Prop} [Decidable c]
    (hx : Ensures (if c then x else y) P) (hf : ∀ a, P a → Ensures (f a) Q) :
    Ensures (if c then x >>= f else y >>= f) Q := by
  by_cases hc : c
  · rw [if_pos hc] at hx ⊢
    exact hx.bind hf
  · rw [if_neg hc] at hx ⊢
    exact hx.bind hf

/-- Of the first of two steps nothing need be known. -/
theorem Ensures.after (hf : ∀ a, Ensures (f a) Q) : Ensures (x >>= f) Q :=
  ensures_true.bind fun a _ => hf a

theorem Ensures.imp (hx : Ensures x P) (h : ∀ a, P a → P' a) : Ensures x P' :=
  fun log a log' hr => h a (hx log a log' hr)

end Readings

/-! ## The task items of a tree -/

/-- What holds of the symbol and the rest of each task item of a tree. -/
def Node.TasksAre (tasks : Option Char → Info → Prop) (n : Node) : Prop :=
  ∀ parent, ∀ q ∈ n.members parent, ∀ symbol info children,
    q.node = .box (.taskItem symbol) info children → tasks symbol info

section Tasks

variable {tasks : Option Char → Info → Prop}

theorem Node.tasksAre_leaf (kind : Leaf) (info : Info) : (Node.leaf kind info).TasksAre tasks := by
  intro parent q hq symbol info' children he
  rw [members_leaf, List.mem_singleton] at hq
  subst hq
  cases he

theorem Node.tasksAre_box {kind : Container} {info : Info} {children : List Node}
    (hk : ∀ symbol, kind = .taskItem symbol → tasks symbol info)
    (hc : ∀ c ∈ children, c.TasksAre tasks) : (Node.box kind info children).TasksAre tasks := by
  intro parent q hq symbol info' children' he
  rcases mem_members_box.mp hq with rfl | ⟨c, hm, hq⟩
  · cases he
    exact hk symbol rfl
  · exact hc c hm _ q hq symbol info' children' he

/-- A container that is no task item. -/
theorem Node.tasksAre_other {kind : Container} {info : Info} {children : List Node}
    (hk : Token.isTask (.box kind info children) = false) (hc : ∀ c ∈ children, c.TasksAre tasks) :
    (Node.box kind info children).TasksAre tasks := by
  refine tasksAre_box (fun symbol he => ?_) hc
  subst he
  cases hk

end Tasks

namespace Token

/-- What holds of the symbol of a token, if it is that of a task item and its symbol can be read. -/
def TaskIs (tasks : Option Char → Info → Prop) (t : Token) : Prop :=
  t.isOfType "task_list_item" = true →
    ∀ p, symbolField ((t.attrs.lookup "symbol").getD .null) = .ok p → tasks p.1 p.2

section Inlines

variable {tasks : Option Char → Info → Prop}

theorem ensures_attributes (t : Token) : Ensures t.attributes (· = t.attrs) := by
  refine Ensures.after fun _ => ?_
  unfold attrs
  cases t.field? "attrs" with
  | none => exact ensures_pure rfl
  | some v =>
    cases v with
    | dict entries | keyed entries => exact ensures_pure rfl
    | _ =>
      simp only
      split
      · exact ensures_throw _
      · exact ensures_pure rfl

theorem tasksAre_rawContent (t : Token) : ∀ n ∈ rawContent t, n.TasksAre tasks := by
  intro n hn
  unfold rawContent at hn
  repeat' split at hn
  · rw [List.mem_singleton.mp hn]
    exact Node.tasksAre_leaf _ _
  all_goals cases hn

theorem ensures_addInline {n : Node} {before : List Node} (hn : n.TasksAre tasks)
    (hb : ∀ m ∈ before, m.TasksAre tasks) :
    Ensures (addInline n before) fun nodes => ∀ m ∈ nodes, m.TasksAre tasks := by
  unfold addInline
  split
  · next a ia before b ib =>
    have hjoined : Ensures (joined (literal a ia) (literal b ib)) (Node.TasksAre tasks) := by
      unfold joined
      split
      · exact ensures_pure (Node.tasksAre_leaf _ _)
      · exact ensures_throw _
      · exact ensures_throw _
    refine hjoined.bind fun m hm => ensures_pure (List.forall_mem_cons.mpr ⟨hm, fun m hm => ?_⟩)
    exact hb m (List.mem_cons_of_mem _ hm)
  · exact ensures_pure (List.forall_mem_cons.mpr ⟨hn, hb⟩)

theorem ensures_footnoteReference (t : Token) :
    Ensures (footnoteReference t) (Node.TasksAre tasks) :=
  Ensures.after fun _ => ensures_pure (Node.tasksAre_leaf _ _)

/-- No inline type is that of a task item. -/
theorem isTask_of_named {s : String} {kind : Container}
    (h : InlineKind.named? s = some (.span kind)) (info : Info) (children : List Node) :
    isTask (.box kind info children) = false := by
  unfold InlineKind.named? at h
  split at h
  all_goals cases h <;> rfl

mutual

theorem ensures_inlinesBehind : ∀ (tokens : List Token) (before : List Node),
    (∀ n ∈ before, n.TasksAre tasks) →
    Ensures (inlinesBehind before tokens) fun nodes => ∀ n ∈ nodes, n.TasksAre tasks
  | [], before, hb => by
    rw [inlinesBehind]
    exact ensures_pure fun n hn => hb n (List.mem_reverse.mp hn)
  | t :: rest, before, hb => by
    rw [inlinesBehind]
    refine (ensures_inline t).bind fun o ho => ?_
    cases o with
    | none => exact ensures_inlinesBehind rest before hb
    | some n =>
      refine (ensures_addInline (ho n rfl) hb).bind fun nodes hn => ?_
      exact ensures_inlinesBehind rest nodes hn

theorem ensures_inline : ∀ t : Token,
    Ensures (inline t) fun o => ∀ n ∈ o, n.TasksAre tasks
  | .stray v => by
    rw [inline]
    exact ensures_throw _
  | .mk fields listed children => by
    have hcontent : Ensures (if listed then inlinesBehind [] children else
        pure (rawContent (.mk fields listed children))) fun nodes => ∀ n ∈ nodes, n.TasksAre tasks := by
      split
      · exact ensures_inlinesBehind children [] (List.forall_mem_nil _)
      · exact ensures_pure (tasksAre_rawContent _)
    have hsome {n : Node} (hn : n.TasksAre tasks) : ∀ m ∈ some n, m.TasksAre tasks := by
      rintro m ⟨⟩
      exact hn
    have hleaf (kind : Leaf) (info : Info) : ∀ m ∈ some (Node.leaf kind info), m.TasksAre tasks :=
      hsome (Node.tasksAre_leaf kind info)
    rw [inline]
    split
    · exact ensures_fail _
    · exact ensures_fail _
    · exact ensures_fail _
    · simp only
      split
      · exact Ensures.after fun _ => ensures_pure fun _ hn => nomatch hn
      · exact ensures_pure (hleaf _ _)
      · exact ensures_pure (hleaf _ _)
      · exact ensures_pure (hleaf _ _)
      · exact ensures_pure (hleaf _ _)
      · exact ensures_pure (hleaf _ _)
      · exact ((ensures_footnoteReference _).imp fun _ => hsome).map
      · next kind hk =>
        obtain ⟨name, -, hname⟩ := Option.bind_eq_some_iff.mp hk
        exact hcontent.bind_ite fun content hn => ensures_pure (hsome
          (Node.tasksAre_other (isTask_of_named hname _ _) hn))
      · exact Ensures.after fun _ => hcontent.bind_ite fun content hn =>
          ensures_pure (hsome (Node.tasksAre_other rfl hn))
      · exact Ensures.after fun _ => hcontent.bind_ite fun content hn =>
          ensures_pure (hsome (Node.tasksAre_other rfl hn))

end

variable (tasks)

theorem ensures_inlineContent (t : Token) :
    Ensures (inlineContent t) fun nodes => ∀ n ∈ nodes, n.TasksAre tasks :=
  Ensures.after fun _ => ensures_inlinesBehind t.children [] (List.forall_mem_nil _)

/-! ## Tables -/

theorem ensures_cells (tokens : List Token) :
    Ensures (cells tokens) fun nodes => ∀ n ∈ nodes, n.TasksAre tasks := by
  induction tokens with
  | nil => exact ensures_pure (List.forall_mem_nil _)
  | cons t rest ih =>
    rw [cells]
    refine Ensures.after fun attrs => (ensures_inlineContent tasks t).bind fun content hn => ?_
    refine ih.bind fun nodes hnodes => ensures_pure (List.forall_mem_cons.mpr ⟨?_, hnodes⟩)
    exact Node.tasksAre_other rfl hn

theorem ensures_rows (tokens : List Token) :
    Ensures (rows tokens) fun nodes => ∀ n ∈ nodes, n.TasksAre tasks := by
  induction tokens with
  | nil => exact ensures_pure (List.forall_mem_nil _)
  | cons t rest ih =>
    rw [rows]
    refine Ensures.after fun _ => (ensures_cells tasks t.children).bind fun cells hn => ?_
    refine ih.bind fun nodes hnodes => ensures_pure (List.forall_mem_cons.mpr ⟨?_, hnodes⟩)
    exact Node.tasksAre_other rfl hn

theorem ensures_tableParts (tokens : List Token) {header : Option Node} {body : List Node}
    (hheader : ∀ n ∈ header, n.TasksAre tasks) (hbody : ∀ n ∈ body, n.TasksAre tasks) :
    Ensures (tableParts header body tokens) fun p => (table p).TasksAre tasks := by
  induction tokens generalizing header body with
  | nil =>
    refine ensures_pure ?_
    cases header with
    | none => exact Node.tasksAre_other rfl hbody
    | some row =>
      have hall := List.forall_mem_cons.mpr ⟨hheader row rfl, hbody⟩
      exact Node.tasksAre_other rfl hall
  | cons t rest ih =>
    rw [tableParts]
    refine Ensures.after fun _ => ?_
    split
    · refine Ensures.after fun _ => (ensures_cells tasks t.children).bind fun cells hn => ?_
      refine ih ?_ hbody
      rintro n ⟨⟩
      exact Node.tasksAre_other rfl hn
    · split
      · refine Ensures.after fun _ => (ensures_rows tasks t.children).bind fun rows hn => ?_
        exact ih hheader (List.forall_mem_append.mpr ⟨hbody, hn⟩)
      · exact ih hheader hbody

end Inlines

/-! ## Blocks -/

section Blocks

variable (tasks : Option Char → Info → Prop)

theorem ensures_symbol (v : Value) :
    Ensures (liftM (symbolField v) : Reading (Option Char × Info)) (symbolField v = .ok ·) := by
  intro log p log' h
  cases hv : symbolField v with
  | ok p' =>
    rw [hv] at h
    cases h
    rfl
  | error e =>
    rw [hv] at h
    cases h

theorem ensures_codeBlock (t : Token) :
    Ensures (codeBlock t) fun nodes => ∀ n ∈ nodes, n.TasksAre tasks :=
  Ensures.after fun _ => Ensures.after fun _ =>
    ensures_pure (List.forall_mem_singleton.mpr (Node.tasksAre_leaf _ _))

theorem ensures_heading (t : Token) :
    Ensures (heading t) fun nodes => ∀ n ∈ nodes, n.TasksAre tasks :=
  Ensures.after fun _ => (ensures_inlineContent tasks t).bind fun _ hn =>
    ensures_pure (List.forall_mem_singleton.mpr (Node.tasksAre_other rfl hn))

mutual

theorem ensures_blocks : ∀ tokens : List Token, (∀ s ∈ allIn tokens, s.TaskIs tasks) →
    Ensures (blocks tokens) fun nodes => ∀ n ∈ nodes, n.TasksAre tasks
  | [], _ => by
    rw [blocks]
    exact ensures_pure (List.forall_mem_nil _)
  | t :: rest, h => by
    obtain ⟨ht, hrest⟩ := forall_mem_allIn_cons.mp h
    rw [blocks]
    refine (ensures_block t ht).bind fun here hhere => ?_
    refine (ensures_blocks rest hrest).bind fun nodes hnodes => ?_
    exact ensures_pure (List.forall_mem_append.mpr ⟨hhere, hnodes⟩)

theorem ensures_block : ∀ t : Token, (∀ s ∈ all t, s.TaskIs tasks) →
    Ensures (block t) fun nodes => ∀ n ∈ nodes, n.TasksAre tasks
  | .stray v, _ => by
    rw [block]
    exact ensures_throw _
  | .mk fields listed children, h => by
    obtain ⟨-, hc⟩ := forall_mem_all_mk.mp h
    have hleaf (kind : Leaf) (info : Info) : ∀ n ∈ [Node.leaf kind info], n.TasksAre tasks :=
      List.forall_mem_singleton.mpr (Node.tasksAre_leaf kind info)
    -- no block is a task item itself
    have hbox {kind : Container} {info : Info} {content : List Node}
        (hk : isTask (.box kind info content) = false) (hn : ∀ n ∈ content, n.TasksAre tasks) :
        ∀ n ∈ [Node.box kind info content], n.TasksAre tasks :=
      List.forall_mem_singleton.mpr (Node.tasksAre_other hk hn)
    rw [block]
    split
    · simp only
      split
      · exact Ensures.after fun _ => ensures_pure (List.forall_mem_nil _)
      · exact ensures_pure (List.forall_mem_nil _)
    · exact ensures_heading tasks _
    · exact (ensures_inlineContent tasks _).bind fun _ hn =>
        ensures_pure (hbox rfl hn)
    · exact ensures_codeBlock tasks _
    · exact ensures_pure (hleaf _ _)
    · exact ensures_pure (hleaf _ _)
    · exact ensures_pure (hleaf _ _)
    · exact Ensures.after fun _ => (ensures_blocks children hc).bind fun _ hn =>
        ensures_pure (hbox rfl hn)
    · exact Ensures.after fun _ => (ensures_blocks children hc).bind fun _ hn =>
        ensures_pure (hbox rfl hn)
    · exact Ensures.after fun _ => Ensures.after fun _ =>
        (ensures_items children hc).bind fun _ hn =>
          ensures_pure (hbox rfl hn)
    · have hheader : ∀ n ∈ (none : Option Node), n.TasksAre tasks := fun _ hn => nomatch hn
      have hbody : ∀ n ∈ ([] : List Node), n.TasksAre tasks := List.forall_mem_nil _
      exact Ensures.after fun _ => (ensures_tableParts tasks children hheader hbody).bind
        fun _ hn => ensures_pure (List.forall_mem_singleton.mpr hn)
    · exact Ensures.after fun _ => ensures_footnotes children 1 hc
    · exact Ensures.after fun _ => (ensures_definitions children hc).bind fun _ hn =>
        ensures_pure (hbox rfl hn)

/-- The item of a task token has its symbol. -/
theorem ensures_items : ∀ tokens : List Token, (∀ s ∈ allIn tokens, s.TaskIs tasks) →
    Ensures (items tokens) fun nodes => ∀ n ∈ nodes, n.TasksAre tasks
  | [], _ => by
    rw [items]
    exact ensures_pure (List.forall_mem_nil _)
  | .stray v :: rest, _ => by
    rw [items]
    exact ensures_throw _
  | .mk fields listed children :: rest, h => by
    obtain ⟨ht, hrest⟩ := forall_mem_allIn_cons.mp h
    obtain ⟨hself, hc⟩ := forall_mem_all_mk.mp ht
    have hitem {n : Node} (hn : n.TasksAre tasks) :
        Ensures (do return n :: (← items rest)) fun nodes => ∀ n ∈ nodes, n.TasksAre tasks :=
      (ensures_items rest hrest).bind fun nodes hnodes =>
        ensures_pure (List.forall_mem_cons.mpr ⟨hn, hnodes⟩)
    rw [items]
    refine Ensures.after fun _ => (ensures_blocks children hc).bind fun content hn => ?_
    split
    · next htask =>
      refine (ensures_attributes _).bind fun attrs hattrs => ?_
      subst hattrs
      refine (ensures_symbol _).bind fun p hp => hitem (Node.tasksAre_box ?_ hn)
      rintro symbol ⟨⟩
      exact hself htask p hp
    · split
      · exact hitem (Node.tasksAre_other rfl hn)
      · exact ensures_items rest hrest

theorem ensures_footnotes : ∀ (tokens : List Token) (next : Int),
    (∀ s ∈ allIn tokens, s.TaskIs tasks) →
    Ensures (footnotes next tokens) fun nodes => ∀ n ∈ nodes, n.TasksAre tasks
  | [], next, _ => by
    rw [footnotes]
    exact ensures_pure (List.forall_mem_nil _)
  | .stray v :: rest, next, _ => by
    rw [footnotes]
    exact ensures_throw _
  | .mk fields listed children :: rest, next, h => by
    obtain ⟨ht, hrest⟩ := forall_mem_allIn_cons.mp h
    obtain ⟨-, hc⟩ := forall_mem_all_mk.mp ht
    rw [footnotes]
    refine Ensures.after fun attrs => Ensures.after fun _ => ?_
    refine (ensures_blocks children hc).bind fun content hn => ?_
    refine (ensures_footnotes rest (next + 1) hrest).bind fun nodes hnodes => ensures_pure ?_
    exact List.forall_mem_cons.mpr ⟨Node.tasksAre_other rfl hn, hnodes⟩

theorem ensures_definitions : ∀ tokens : List Token, (∀ s ∈ allIn tokens, s.TaskIs tasks) →
    Ensures (definitions tokens) fun nodes => ∀ n ∈ nodes, n.TasksAre tasks
  | [], _ => by
    rw [definitions]
    exact ensures_pure (List.forall_mem_nil _)
  | .stray v :: rest, _ => by
    rw [definitions]
    exact ensures_throw _
  | .mk fields listed children :: rest, h => by
    obtain ⟨ht, hrest⟩ := forall_mem_allIn_cons.mp h
    obtain ⟨-, hc⟩ := forall_mem_all_mk.mp ht
    have hpart {n : Node} (hn : n.TasksAre tasks) :
        Ensures (do return n :: (← definitions rest)) fun nodes => ∀ n ∈ nodes, n.TasksAre tasks :=
      (ensures_definitions rest hrest).bind fun nodes hnodes =>
        ensures_pure (List.forall_mem_cons.mpr ⟨hn, hnodes⟩)
    rw [definitions]
    split
    · exact (ensures_inlineContent tasks _).bind fun _ hn =>
        hpart (Node.tasksAre_other rfl hn)
    · split
      · exact Ensures.after fun _ => (ensures_blocks children hc).bind fun _ hn =>
          hpart (Node.tasksAre_other rfl hn)
      · exact ensures_definitions rest hrest

end

end Blocks

end Token

/-- **Task items come from task tokens.** Whatever the tokens are, the symbol of each task item of the
document they mean, and what else the item carries, is what the attributes of a task token give. -/
theorem tasks_documentOf {tokens : List Token} {doc : Node} (h : (documentOf tokens).1 = .ok doc)
    {q : Member} (hq : q ∈ doc.members none) {symbol : Option Char} {info : Info}
    {children : List Node} (he : q.node = .box (.taskItem symbol) info children) :
    ∃ t ∈ Token.allIn tokens, t.isOfType "task_list_item" = true ∧
      Token.symbolField ((t.attrs.lookup "symbol").getD .null) = .ok (symbol, info) := by
  let tasks (symbol : Option Char) (info : Info) : Prop :=
    ∃ t ∈ Token.allIn tokens, t.isOfType "task_list_item" = true ∧
      Token.symbolField ((t.attrs.lookup "symbol").getD .null) = .ok (symbol, info)
  have hread : Ensures (do return .box .document {} (← Token.blocks tokens)) (Node.TasksAre tasks) :=
    (Token.ensures_blocks tasks tokens fun t ht hk p hp => ⟨t, ht, hk, hp⟩).bind fun _ hn =>
      ensures_pure (Node.tasksAre_other rfl hn)
  exact hread [] doc _ (Prod.ext h rfl) none q hq symbol info children he

end FlavoredMarkdown
