import FlavoredMarkdown.Markdown.TaskMarker
import FlavoredMarkdown.Proofs.TokenMeaning

/-!
# What the marking of tasks changes

Task items are marked in place by `rewrite`: an item with a marker gets another type and other
attributes, and the text of its first block loses the marker. Items nest, so a token may be edited
twice, by itself and by the item it is the first block of. The two edits do not meet: an item is looked
at through its type and the text of its first block, and neither is changed on its behalf by another
item.

* `StartsWithMarker` and `Token.HasMarker` say what a marker is without the reader of markers.
* Tokens are compared place by place (`Token.below?`), so that their number and their order are kept.
* `Token.IsTextual` is the shape in which one can look for tasks. What the marking does to the tokens
  does not depend on it.

Results:
* `readMarker?_eq_some_iff`, `Token.itemMarker?_eq_some_iff`: which markers are found.
* `Token.CarriesOver.markTasks`: the induction for properties of the tokens of a tree.
* `Token.taskFaults?_of_isTextual`: among textual tokens one can look for tasks.
* `Token.markTasks_of_noMarker`, `Token.noMarker_markTasks`: tokens without markers stay, and marked
  tokens have none.
* **`rewrites_tasksMarked?`**: what is changed in which token, and that nothing is changed twice.
-/

namespace FlavoredMarkdown

section Entries

variable {α : Type} {entries : List (String × α)}

theorem lookup_setEntry_self (key : String) (value : α) :
    (setEntry key value entries).lookup key = some value := by
  induction entries with
  | nil => simp [setEntry]
  | cons entry rest ih =>
    obtain ⟨k, v⟩ := entry
    by_cases h : k = key
    · simp [setEntry, h]
    · rw [setEntry, if_neg h, List.lookup_cons, beq_eq_false_iff_ne.mpr (Ne.symm h)]
      exact ih

theorem lookup_setEntry_ne {key name : String} (h : name ≠ key) (value : α) :
    (setEntry key value entries).lookup name = entries.lookup name := by
  induction entries with
  | nil => simp [setEntry, h]
  | cons entry rest ih =>
    obtain ⟨k, v⟩ := entry
    by_cases hk : k = key
    · subst hk
      simp [setEntry, List.lookup_cons, beq_eq_false_iff_ne.mpr h]
    · rw [setEntry, if_neg hk, List.lookup_cons, List.lookup_cons, ih]

end Entries

/-! ## Markers -/

/-- The text begins with a marker for `c`: the character in brackets, and white space behind them. What
is left is the text behind all the white space. -/
def StartsWithMarker (relaxed : Bool) (c : Char) (rest cs : List Char) : Prop :=
  (if relaxed then c ≠ ']' ∧ c ≠ '\r' ∧ c ≠ '\n' else c = ' ' ∨ c = 'x' ∨ c = 'X') ∧
    (∀ d ∈ rest.head?, Text.isBlank d = false) ∧
    ∃ blanks, blanks ≠ [] ∧ (∀ b ∈ blanks, Text.isBlank b = true) ∧
      cs = '[' :: c :: ']' :: (blanks ++ rest)

theorem isTaskSymbol_iff {relaxed : Bool} {c : Char} : isTaskSymbol relaxed c = true ↔
    if relaxed then c ≠ ']' ∧ c ≠ '\r' ∧ c ≠ '\n' else c = ' ' ∨ c = 'x' ∨ c = 'X' := by
  cases relaxed <;> simp [isTaskSymbol, and_assoc, or_assoc]

/-- Text is cut behind the white space at its front in one way. -/
theorem trimStart_blanks_append {blanks rest : List Char} (hb : ∀ b ∈ blanks, Text.isBlank b = true)
    (hrest : ∀ d ∈ rest.head?, Text.isBlank d = false) : Text.trimStart (blanks ++ rest) = rest := by
  rw [Text.trimStart, List.dropWhile_append_of_pos hb]
  cases rest with
  | nil => rfl
  | cons d more => rw [List.dropWhile_cons, if_neg (by rw [hrest d rfl]; exact Bool.false_ne_true)]

/-- **Which markers are read.** -/
theorem readMarker?_eq_some_iff {relaxed : Bool} {cs rest : List Char} {c : Char} :
    readMarker? relaxed cs = some (c, rest) ↔ StartsWithMarker relaxed c rest cs := by
  unfold StartsWithMarker
  rw [← isTaskSymbol_iff]
  constructor
  · intro h
    unfold readMarker? at h
    split at h
    · next d more =>
      split at h
      · next hm =>
        cases h
        simp only [Bool.and_eq_true, Bool.not_eq_true'] at hm
        obtain ⟨⟨hsymbol, hne⟩, hblank⟩ := hm
        refine ⟨hsymbol, fun d hd => Text.head?_dropWhile hd, more.takeWhile Text.isBlank, ?_, ?_, ?_⟩
        · cases more with
          | nil => cases hne
          | cons b more =>
            have hb : Text.isBlank b = true := by simpa using hblank
            rw [List.takeWhile_cons, if_pos hb]
            exact List.cons_ne_nil _ _
        · exact fun b hb => List.all_eq_true.mp List.all_takeWhile b hb
        · rw [Text.trimStart, List.takeWhile_append_dropWhile]
      · cases h
    · cases h
  · rintro ⟨hsymbol, hrest, blanks, hne, hblank, rfl⟩
    obtain ⟨b, more, rfl⟩ := List.exists_cons_of_ne_nil hne
    have hb : Text.isBlank b = true := hblank b (List.mem_cons_self ..)
    have hm : (isTaskSymbol relaxed c && !(b :: more ++ rest).isEmpty &&
        ((b :: more ++ rest).take 1).all Text.isBlank) = true := by
      simp [hsymbol, hb]
    simp only [readMarker?]
    rw [if_pos hm, trimStart_blanks_append hblank hrest]

section TaskFields

variable (c : Char) (fields : List (String × Value))

/-- A task is known by its type. -/
theorem lookup_type_task : (setEntry "attrs" (.dict [("symbol", symbolValue c)])
    (setEntry "type" (.str "task_list_item") fields)).lookup "type" = some (.str "task_list_item") :=
  (lookup_setEntry_ne (by decide) _).trans (lookup_setEntry_self _ _)

/-- A task has the other fields of the item it was. -/
theorem lookup_task {name : String} (ha : name ≠ "attrs") (ht : name ≠ "type") :
    (setEntry "attrs" (.dict [("symbol", symbolValue c)])
      (setEntry "type" (.str "task_list_item") fields)).lookup name = fields.lookup name :=
  (lookup_setEntry_ne ha _).trans (lookup_setEntry_ne ht _)

end TaskFields

namespace Token

/-- The text of a token, if it has one. -/
def text? (t : Token) : Option Value := t.field? "text"

/-- A list item whose first child has a text that begins with a marker for `c`. -/
def HasMarker (relaxed : Bool) (c : Char) (rest : List Char) (t : Token) : Prop :=
  t.field? "type" = some (.str "list_item") ∧
    ∃ first more text, t.children = first :: more ∧ first.text? = some (.str text) ∧
      StartsWithMarker relaxed c rest text.toList

theorem isOfType_iff {t : Token} {name : String} (h : name ≠ "") :
    t.isOfType name = true ↔ t.field? "type" = some (.str name) := by
  unfold isOfType type
  cases t.field? "type" with
  | none => simpa using h.symm
  | some v => cases v <;> simp

section Marking

variable {relaxed : Bool} {t t' : Token}

/-- An item is looked at through its type and the text of its first child. -/
theorem itemMarker?_congr (htype : t'.field? "type" = t.field? "type")
    (htext : t'.children.map text? = t.children.map text?) :
    itemMarker? relaxed t' = itemMarker? relaxed t := by
  have hitem : t'.isOfType "list_item" = t.isOfType "list_item" := by
    unfold isOfType type
    rw [htype]
  have hfirst (tokens : List Token) :
      (tokens.headD default).field? "text" = ((tokens.map text?).headD none) := by
    cases tokens <;> rfl
  unfold itemMarker?
  rw [hitem, hfirst, hfirst, htext]

/-- **Which items have a marker.** -/
theorem itemMarker?_eq_some_iff {c : Char} {rest : List Char} :
    itemMarker? relaxed t = some (c, rest) ↔ t.HasMarker relaxed c rest := by
  unfold itemMarker? HasMarker
  rw [← isOfType_iff (by decide)]
  constructor
  · intro h
    split at h
    · next hitem =>
      refine ⟨hitem, ?_⟩
      cases ht : t.children with
      | nil =>
        rw [ht] at h
        cases h
      | cons first more =>
        rw [ht, List.headD_cons] at h
        split at h
        · next text htext => exact ⟨first, more, text, rfl, htext, readMarker?_eq_some_iff.mp h⟩
        · cases h
    · cases h
  · rintro ⟨hitem, first, more, text, ht, htext, hmarker⟩
    rw [if_pos hitem, ht, List.headD_cons, show first.field? "text" = _ from htext]
    exact readMarker?_eq_some_iff.mpr hmarker

/-! ## One token -/

/-- The token at a place below a token: a child of it, then a child of that one, and so on. -/
def below? (t : Token) : List Nat → Option Token
  | [] => some t
  | i :: place => t.children[i]?.bind fun c => c.below? place

/-- What a token becomes. An item with a marker becomes a task with its symbol, and its first child is
left with the text behind the marker. Nothing else is changed, and no other token. -/
structure IsRewriting (relaxed : Bool) (t t' : Token) : Prop where
  record : t'.isRecord = t.isRecord
  listed : t'.listed = t.listed
  task : ∀ c rest, t.HasMarker relaxed c rest →
    t'.field? "type" = some (.str "task_list_item") ∧
      t'.field? "attrs" =
        some (.dict [("symbol", if c = ' ' then .null else .str (String.singleton c))]) ∧
      t'.children.map text? = some (.str (String.ofList rest)) :: t.children.tail.map text?
  other : (∀ c rest, ¬t.HasMarker relaxed c rest) →
    t'.field? "type" = t.field? "type" ∧ t'.field? "attrs" = t.field? "attrs" ∧
      t'.children.map text? = t.children.map text?
  fields : ∀ name ∉ ["type", "attrs", "text"], t'.field? name = t.field? name

/-- What a tree becomes: the text of its root is kept, and each of its tokens is rewritten in place. -/
structure IsMarking (relaxed : Bool) (t t' : Token) : Prop where
  text : t'.text? = t.text?
  places : ∀ place, Option.Rel (IsRewriting relaxed) (t.below? place) (t'.below? place)

@[simp]
theorem children_setField (name : String) (v : Value) : (t.setField name v).children = t.children := by
  cases t <;> rfl

@[simp]
theorem isRecord_setField (name : String) (v : Value) : (t.setField name v).isRecord = t.isRecord := by
  cases t <;> rfl

@[simp]
theorem listed_setField (name : String) (v : Value) : (t.setField name v).listed = t.listed := by
  cases t <;> rfl

theorem field?_setField_ne {key name : String} (h : name ≠ key) (v : Value) :
    (t.setField key v).field? name = t.field? name := by
  cases t with
  | mk fields listed children => exact lookup_setEntry_ne h v
  | stray v => rfl

theorem field?_setField_self (h : t.isRecord = true) (key : String) (v : Value) :
    (t.setField key v).field? key = some v := by
  cases t with
  | mk fields listed children => exact lookup_setEntry_self key v
  | stray v => cases h

/-- What a token becomes does not depend on the text that is left to it. -/
theorem IsRewriting.setText (h : IsRewriting relaxed t t') (v : Value) :
    IsRewriting relaxed t (t'.setField "text" v) := by
  have hfield {name : String} (hn : name ≠ "text") :
      (t'.setField "text" v).field? name = t'.field? name := field?_setField_ne hn v
  constructor
  · rw [isRecord_setField, h.record]
  · rw [listed_setField, h.listed]
  · rw [hfield (by decide), hfield (by decide), children_setField]
    exact h.task
  · rw [hfield (by decide), hfield (by decide), children_setField]
    exact h.other
  · intro name hn
    rw [hfield fun he => hn (by simp [he])]
    exact h.fields name hn

/-! ## Trees -/

theorem markTasks_eq_map (tokens : List Token) :
    markTasks relaxed tokens = tokens.map (markTask relaxed) := by
  induction tokens with
  | nil => rfl
  | cons t rest ih => rw [markTasks, ih, List.map_cons]

/-- A token keeps its own text. -/
theorem text?_markTask (t : Token) : (markTask relaxed t).text? = t.text? := by
  cases t with
  | stray v => rfl
  | mk fields listed children =>
    rw [markTask]
    split
    · exact lookup_task _ _ (by decide) (by decide)
    · rfl

theorem map_text?_markTasks (tokens : List Token) :
    (markTasks relaxed tokens).map text? = tokens.map text? := by
  rw [markTasks_eq_map, List.map_map]
  exact List.map_congr_left fun t _ => text?_markTask t

/-- The first token of a list gets another text. -/
theorem map_text?_withoutMarker {first : Token} (h : first.isRecord = true) (text : List Char)
    (rest : List Token) : (withoutMarker text (first :: rest)).map text? =
      some (.str (String.ofList text)) :: rest.map text? := by
  rw [withoutMarker, List.map_cons, text?, field?_setField_self h]

theorem isRecord_markTask (t : Token) : (markTask relaxed t).isRecord = t.isRecord := by
  cases t with
  | stray v => rfl
  | mk fields listed children =>
    rw [markTask]
    split <;> rfl

theorem isRecord_of_text? {v : Value} (h : t.text? = some v) : t.isRecord = true := by
  cases t with
  | mk fields listed children => rfl
  | stray w => cases h

/-- A token is rewritten. -/
theorem isRewriting_markTask (t : Token) : IsRewriting relaxed t (markTask relaxed t) := by
  cases t with
  | stray v =>
    refine ⟨rfl, rfl, fun c rest h => ?_, fun _ => ⟨rfl, rfl, rfl⟩, fun _ _ => rfl⟩
    cases h.1
  | mk fields listed children =>
    rw [markTask]
    split
    · next c text hm =>
      have hmarker := itemMarker?_eq_some_iff.mp hm
      refine ⟨rfl, rfl, fun d rest hd => ?_, fun hnone => absurd hmarker (hnone c text), ?_⟩
      · -- there is no other marker
        have hsame := (itemMarker?_eq_some_iff.mpr hd).symm.trans hm
        cases hsame
        obtain ⟨-, first, more, given, hc, htext, -⟩ := hmarker
        obtain rfl : children = first :: more := hc
        refine ⟨lookup_type_task _ _, lookup_setEntry_self _ _, ?_⟩
        have hrecord : (markTask relaxed first).isRecord = true :=
          (isRecord_markTask first).trans (isRecord_of_text? htext)
        show (withoutMarker text (markTask relaxed first :: markTasks relaxed more)).map text? = _
        rw [map_text?_withoutMarker hrecord, map_text?_markTasks]
        rfl
      · intro name hn
        simp only [List.mem_cons, not_or] at hn
        exact lookup_task _ _ hn.2.1 hn.1
    · next hnone =>
      refine ⟨rfl, rfl, fun c rest h => ?_, fun _ => ⟨rfl, rfl, map_text?_markTasks children⟩,
        fun _ _ => rfl⟩
      cases hnone.symm.trans (itemMarker?_eq_some_iff.mpr h)

/-- The children of a token are marked, and the first of them may get another text. -/
theorem getElem?_children_markTask (relaxed : Bool) (t : Token) (i : Nat) :
    ∃ edit : Token → Token, (edit = id ∨ ∃ v, edit = setField "text" v) ∧
      (markTask relaxed t).children[i]? = t.children[i]?.map fun c => edit (markTask relaxed c) := by
  cases t with
  | stray v => exact ⟨id, .inl rfl, rfl⟩
  | mk fields listed children =>
    have hkept : (markTasks relaxed children)[i]? = children[i]?.map (markTask relaxed) := by
      rw [markTasks_eq_map, List.getElem?_map]
    rw [markTask]
    split
    · next c text hm =>
      cases children with
      | nil => exact ⟨id, .inl rfl, rfl⟩
      | cons first more =>
        cases i with
        | zero => exact ⟨setField "text" (.str (String.ofList text)), .inr ⟨_, rfl⟩, rfl⟩
        | succ i => exact ⟨id, .inl rfl, hkept⟩
    · exact ⟨id, .inl rfl, hkept⟩

/-- What stands below a token does not depend on its text. -/
theorem below?_setField (name : String) (v : Value) (i : Nat) (place : List Nat) :
    (t.setField name v).below? (i :: place) = t.below? (i :: place) := by
  rw [below?, below?, children_setField]

/-- Each token of a tree is rewritten in its place. -/
theorem rel_below?_markTask (place : List Nat) (t : Token) :
    Option.Rel (IsRewriting relaxed) (t.below? place) ((markTask relaxed t).below? place) := by
  induction place generalizing t with
  | nil => exact .some (isRewriting_markTask t)
  | cons i place ih =>
    obtain ⟨edit, hedit, hchild⟩ := getElem?_children_markTask relaxed t i
    rw [below?, below?, hchild]
    cases t.children[i]? with
    | none => exact .none
    | some c =>
      show Option.Rel (IsRewriting relaxed) (c.below? place) ((edit (markTask relaxed c)).below? place)
      rcases hedit with rfl | ⟨v, rfl⟩
      · exact ih c
      · cases place with
        | nil => exact .some ((isRewriting_markTask c).setText v)
        | cons j place =>
          rw [below?_setField]
          exact ih c

theorem isMarking_markTask (t : Token) : IsMarking relaxed t (markTask relaxed t) :=
  ⟨text?_markTask t, fun place => rel_below?_markTask place t⟩

/-! ## What holds of all tokens -/

/-- What has to be shown to carry a property of tokens over to another one of marked tokens. -/
structure CarriesOver (relaxed : Bool) (P Q : Token → Prop) : Prop where
  stray : ∀ v, P (.stray v) → Q (.stray v)
  task : ∀ fields listed children c rest below, P (.mk fields listed children) →
    itemMarker? relaxed (.mk fields listed children) = some (c, rest) →
    Q (.mk (setEntry "attrs" (.dict [("symbol", symbolValue c)])
      (setEntry "type" (.str "task_list_item") fields)) listed below)
  other : ∀ fields listed children below, P (.mk fields listed children) →
    itemMarker? relaxed (.mk fields listed children) = none →
    below.map text? = children.map text? → Q (.mk fields listed below)
  text : ∀ t text, Q t → Q (t.setField "text" (.str text))

section CarriesOver

variable {P Q : Token → Prop}

theorem CarriesOver.withoutMarker (law : CarriesOver relaxed P Q) {tokens : List Token}
    (h : ∀ s ∈ allIn tokens, Q s) (text : List Char) :
    ∀ s ∈ allIn (withoutMarker text tokens), Q s := by
  cases tokens with
  | nil => exact h
  | cons first rest =>
    obtain ⟨hfirst, hrest⟩ := forall_mem_allIn_cons.mp h
    obtain ⟨hself, hbelow⟩ := forall_mem_all.mp hfirst
    refine forall_mem_allIn_cons.mpr ⟨forall_mem_all.mpr ⟨law.text first _ hself, ?_⟩, hrest⟩
    rwa [children_setField]

mutual

theorem CarriesOver.markTask (law : CarriesOver relaxed P Q) : ∀ t : Token, (∀ s ∈ all t, P s) →
    ∀ s ∈ all (markTask relaxed t), Q s
  | .stray v, h => by
    rw [FlavoredMarkdown.markTask, all, List.forall_mem_singleton]
    exact law.stray v (h _ (List.mem_singleton.mpr rfl))
  | .mk fields listed children, h => by
    obtain ⟨hself, hc⟩ := forall_mem_all_mk.mp h
    have hbelow := law.markTasks children hc
    rw [FlavoredMarkdown.markTask]
    split
    · next c text hm =>
      exact forall_mem_all_mk.mpr ⟨law.task _ _ _ _ _ _ hself hm, law.withoutMarker hbelow text⟩
    · next hnone =>
      exact forall_mem_all_mk.mpr
        ⟨law.other _ _ _ _ hself hnone (map_text?_markTasks children), hbelow⟩

/-- **What carries over to each token carries over to all of them.** -/
theorem CarriesOver.markTasks (law : CarriesOver relaxed P Q) : ∀ tokens : List Token,
    (∀ s ∈ allIn tokens, P s) → ∀ s ∈ allIn (markTasks relaxed tokens), Q s
  | [], _ => fun _ hs => nomatch hs
  | t :: rest, h => by
    obtain ⟨ht, hrest⟩ := forall_mem_allIn_cons.mp h
    rw [FlavoredMarkdown.markTasks]
    exact forall_mem_allIn_cons.mpr ⟨law.markTask t ht, law.markTasks rest hrest⟩

end

end CarriesOver

/-! ## Looking for tasks -/

/-- A record whose children, if there are any, are a list and whose text is a text. -/
structure IsTextual (t : Token) : Prop where
  record : t.isRecord = true
  children : t.field? "children" = none
  text : ∀ v ∈ t.text?, v.isText = true

instance (t : Token) : Decidable t.IsTextual :=
  decidable_of_iff
    (t.isRecord = true ∧ (t.field? "children").isNone = true ∧ ∀ v ∈ t.text?, v.isText = true)
    ⟨fun ⟨h1, h2, h3⟩ => ⟨h1, Option.isNone_iff_eq_none.mp h2, h3⟩,
      fun ⟨h1, h2, h3⟩ => ⟨h1, Option.isNone_iff_eq_none.mpr h2, h3⟩⟩

theorem firstChildFault?_of_isTextual (h : ∀ s ∈ all t, s.IsTextual) : firstChildFault? t = none := by
  obtain ⟨hself, hc⟩ := forall_mem_all.mp h
  unfold firstChildFault?
  rw [hself.children]
  cases ht : t.children with
  | nil => rfl
  | cons first rest =>
    rw [ht] at hc
    have hfirst := (forall_mem_all.mp (forall_mem_allIn_cons.mp hc).1).1
    cases first with
    | stray v => cases hfirst.record
    | mk fields listed children =>
      have htext := hfirst.text
      simp only
      cases hv : (Token.mk fields listed children).field? "text" with
      | none => rfl
      | some v =>
        have hs := htext v hv
        cases v with
        | str text => rfl
        | _ => cases hs

mutual

theorem taskFault?_of_isTextual : ∀ t : Token, (∀ s ∈ all t, s.IsTextual) → taskFault? t = none
  | .stray v, h => nomatch (h _ (List.mem_singleton.mpr rfl)).record
  | .mk fields listed children, h => by
    obtain ⟨hself, hc⟩ := forall_mem_all_mk.mp h
    have hfirst := firstChildFault?_of_isTextual h
    have hnone : fields.lookup "children" = none := hself.children
    rw [taskFault?]
    simp only [hfirst, ite_self, Option.none_or]
    split
    · exact taskFaults?_of_isTextual children hc
    · next hl =>
      rw [Bool.not_eq_true] at hl
      subst hl
      rw [childFault?, hnone]
      rfl

/-- **One can look for tasks** among textual tokens. -/
theorem taskFaults?_of_isTextual : ∀ tokens : List Token, (∀ s ∈ allIn tokens, s.IsTextual) →
    taskFaults? tokens = none
  | [], _ => rfl
  | t :: rest, h => by
    obtain ⟨ht, hrest⟩ := forall_mem_allIn_cons.mp h
    rw [taskFaults?, taskFault?_of_isTextual t ht, taskFaults?_of_isTextual rest hrest]
    rfl

end

/-- Marked tokens are textual if they were before. -/
theorem carriesOver_isTextual : CarriesOver relaxed IsTextual IsTextual := by
  constructor
  · intro v h
    cases h.record
  · intro fields listed children c rest below h _
    refine ⟨rfl, (lookup_task c fields (by decide) (by decide)).trans h.children, fun v hv => h.text v ?_⟩
    exact (lookup_task c fields (by decide) (by decide)).symm.trans hv
  · exact fun fields listed children below h _ _ => ⟨rfl, h.children, h.text⟩
  · intro t text h
    refine ⟨?_, ?_, ?_⟩
    · rw [isRecord_setField, h.record]
    · rw [field?_setField_ne (by decide), h.children]
    · intro v hv
      rw [text?, field?_setField_self h.record] at hv
      cases hv
      rfl

/-! ## Marking twice -/

mutual

theorem markTask_of_noMarker : ∀ t : Token, (∀ s ∈ all t, itemMarker? relaxed s = none) →
    markTask relaxed t = t
  | .stray v, _ => rfl
  | .mk fields listed children, h => by
    obtain ⟨hself, hc⟩ := forall_mem_all_mk.mp h
    rw [markTask, hself, markTasks_of_noMarker children hc]

/-- **Tokens without markers stay as they are.** -/
theorem markTasks_of_noMarker : ∀ tokens : List Token,
    (∀ s ∈ allIn tokens, itemMarker? relaxed s = none) → markTasks relaxed tokens = tokens
  | [], _ => rfl
  | t :: rest, h => by
    obtain ⟨ht, hrest⟩ := forall_mem_allIn_cons.mp h
    rw [markTasks, markTask_of_noMarker t ht, markTasks_of_noMarker rest hrest]

end

theorem carriesOver_noMarker :
    CarriesOver relaxed (fun _ => True) fun t => itemMarker? relaxed t = none := by
  constructor
  · exact fun v _ => rfl
  · intro fields listed children c rest below _ _
    rw [Option.eq_none_iff_forall_ne_some]
    rintro ⟨d, left⟩ hm
    have htype := (lookup_type_task c fields).symm.trans (itemMarker?_eq_some_iff.mp hm).1
    exact absurd (Value.str.inj (Option.some.inj htype)) (by decide)
  · intro fields listed children below _ hnone htext
    have hsame : itemMarker? relaxed (.mk fields listed below) =
        itemMarker? relaxed (.mk fields listed children) := itemMarker?_congr rfl htext
    exact hsame.trans hnone
  · intro t text h
    rw [itemMarker?_congr (field?_setField_ne (by decide) _) (by rw [children_setField]), h]

/-- **Marked tokens have no markers left**, whatever the texts behind the markers begin with. -/
theorem noMarker_markTasks (tokens : List Token) :
    ∀ s ∈ allIn (markTasks relaxed tokens), itemMarker? relaxed s = none :=
  carriesOver_noMarker.markTasks tokens fun _ _ => trivial

end Marking

end Token

/-- **The marking of tasks is exact and local, and it is done once.** Among textual tokens one can look
for tasks. Each list item with a marker becomes a task with its symbol and its first child loses the
marker, at any depth; every other field of every token is kept, and so are the number and the order of
the tokens. Marking the tasks again changes nothing. -/
theorem rewrites_tasksMarked? (relaxed : Bool) {tokens : List Token}
    (h : ∀ s ∈ Token.allIn tokens, s.IsTextual) :
    ∃ tokens', tasksMarked? relaxed tokens = .ok tokens' ∧
      List.Forall₂ (Token.IsMarking relaxed) tokens tokens' ∧
      tasksMarked? relaxed tokens' = .ok tokens' := by
  have htextual : ∀ s ∈ Token.allIn (markTasks relaxed tokens), s.IsTextual :=
    Token.carriesOver_isTextual.markTasks tokens h
  refine ⟨markTasks relaxed tokens, ?_, ?_, ?_⟩
  · rw [tasksMarked?, Token.taskFaults?_of_isTextual tokens h]
  · rw [Token.markTasks_eq_map, List.forall₂_map_right_iff]
    exact List.forall₂_same.mpr fun t _ => Token.isMarking_markTask t
  · rw [tasksMarked?, Token.taskFaults?_of_isTextual _ htextual]
    exact congrArg Except.ok (Token.markTasks_of_noMarker _ (Token.noMarker_markTasks tokens))

/-- An item whose first block is an item as well. Both have markers, and another one stands behind the
marker of the outer item. -/
theorem rewrites_tasksMarked?_nested :
    let item (text : String) (children : List Token) : Token :=
      .node "list_item" [("text", .str text)] children
    let task (symbol : Value) (text : String) (children : List Token) : Token :=
      .node "task_list_item" [("text", .str text), ("attrs", .dict [("symbol", symbol)])] children
    let block (text : String) : Token := .plain "block_text" [("text", .str text)]
    let tokens := [item "[x] a" [item "[ ] [x] b" [block "[~]\t c", block "[x] d"]]]
    let tokens' := [task .null "[x] a" [task (.str "~") "[x] b" [block "c", block "[x] d"]]]
    (∀ s ∈ Token.allIn tokens, s.IsTextual) ∧ tasksMarked? true tokens = .ok tokens' ∧
      List.Forall₂ (Token.IsMarking true) tokens tokens' ∧
      tasksMarked? true tokens' = .ok tokens' := by
  intro item task block tokens tokens'
  have h : ∀ s ∈ Token.allIn tokens, s.IsTextual := by decide
  obtain ⟨marked, hmarked, hrewritten, htwice⟩ := rewrites_tasksMarked? true h
  have hsame : tasksMarked? true tokens = .ok tokens' := rfl
  obtain rfl : tokens' = marked := Except.ok.inj (hsame.symm.trans hmarked)
  exact ⟨h, hsame, hrewritten, htwice⟩

end FlavoredMarkdown
