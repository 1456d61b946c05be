import FlavoredMarkdown.Proofs.CommonMarkup
import FlavoredMarkdown.Proofs.Markers
import Mathlib.Data.List.Basic

/-!
# The markup of tasks is exact

With the overrides (`render_task_item`, `render_list`), an item of a task list begins with a box, with a
box that says that the task does not apply, or with a symbol in brackets. Which one is a matter of its
symbol and of one switch. A list that is flagged has a class of its own if classes are wanted. A page
has these openings for the visited items and lists, in document order, and nothing else in it is markup
of tasks.

* The openings are found by a reader of HTML. An item without a box begins like any item whose text
  begins with brackets, so such an opening is told by its place among the others.
* The default markup has another class for lists, which the overrides never write.

Results:
* `Interspersed.countP_flatMap`: what is counted in a page is counted by its openings.
* `accounts_tasks`: each visited node shows the opening that is due.
* **`Formatter.tasks_format`**: the markup of tasks in a page is that of the visited items and lists.
-/

namespace FlavoredMarkdown

open Html Piece

/-! ## Words of tasks -/

/-- The attributes that only tasks have, and the classes of task lists. -/
def taskAttributes : List Attribute :=
  [⟨"checked", some ""⟩, ⟨"data-inapplicable", none⟩, classAttribute "task-list",
    classAttribute "contains-task-list"]

namespace Html

/-- The words of a tag that are markup of tasks. -/
def taskWords : List (List Char) := taskAttributes.map Attribute.word

/-- No word is markup of tasks. -/
def FreeOfTasks (words : List (List Char)) : Prop := ∀ w ∈ words, w ∉ taskWords

namespace Lexeme

/-- The words of a tag. -/
def words : Lexeme → List (List Char)
  | .char _ => []
  | .tag words => words

/-- Whether the lexeme is the tag of a box. -/
def isCheckbox (l : Lexeme) : Bool :=
  ["input".toList, "type=\"checkbox\"".toList].isPrefixOf l.words

/-- Whether the lexeme is a tag that ends with ` data-inapplicable disabled="">`. -/
def isInapplicable (l : Lexeme) : Bool :=
  ["data-inapplicable".toList, "disabled=\"\"".toList].isSuffixOf l.words

/-- Whether the lexeme has nothing to do with tasks. -/
def IsNeutral (l : Lexeme) : Prop := l.words.head? ≠ some "input".toList ∧ FreeOfTasks l.words

theorem isNeutral_char (c : Char) : (char c).IsNeutral := ⟨nofun, nofun⟩

end Lexeme

theorem FreeOfTasks.append {as bs : List (List Char)} (ha : FreeOfTasks as) (hb : FreeOfTasks bs) :
    FreeOfTasks (as ++ bs) := fun w hw => (List.mem_append.mp hw).elim (ha w) (hb w)

theorem FreeOfTasks.count {words : List (List Char)} (h : FreeOfTasks words) {w : List Char}
    (hw : w ∈ taskWords) : words.count w = 0 := List.count_eq_zero.mpr fun hm => h w hm hw

end Html

/-- An attribute is known by its word. -/
theorem Attribute.word_injective {a b : Attribute} (ha : Unmark.IsName a.name.toList)
    (hb : Unmark.IsName b.name.toList) (h : a.word = b.word) : a = b := by
  have hname : a.name = b.name := by
    rw [← String.toList_inj, ← Marker.attributeName_word ha, ← Marker.attributeName_word hb, h]
  obtain ⟨name, value⟩ := a
  obtain ⟨name', value'⟩ := b
  obtain rfl : name = name' := hname
  have hlen := congrArg List.length h
  cases value with
  | none =>
    cases value' with
    | none => rfl
    | some value' => simp [Attribute.word] at hlen
  | some value =>
    cases value' with
    | none => simp [Attribute.word] at hlen
    | some value' =>
      simp only [Attribute.word, List.append_cancel_left_eq, List.cons.injEq, true_and,
        List.append_cancel_right_eq, String.toList_inj] at h
      rw [h]

/-- The words of common attributes have nothing to do with tasks. -/
theorem freeOfTasks_words {v : Vocabulary} {attributes : List Attribute}
    (hs : SoundAttributes v attributes) (hc : attributes.all Attribute.isCommon = true) :
    FreeOfTasks (attributes.map Attribute.word) := by
  have hnames : ∀ b ∈ taskAttributes, Unmark.IsName b.name.toList := by decide
  have hnone : ∀ b ∈ taskAttributes, b.isCommon = false := by decide
  intro w hw hm
  obtain ⟨a, ha, rfl⟩ := List.mem_map.mp hw
  obtain ⟨b, hb, hword⟩ := List.mem_map.mp hm
  obtain rfl : b = a :=
    Attribute.word_injective (hnames b hb) (isName_of_hasName (hs a ha).1) hword
  have hcommon := List.all_eq_true.mp hc b ha
  rw [hnone b hb] at hcommon
  cases hcommon

theorem freeOfTasks_slash : FreeOfTasks [['/']] := by
  intro w hw
  rw [List.mem_singleton.mp hw]
  decide

/-- A tag that is no box has nothing to do with tasks if its words have not. -/
theorem isNeutral_tag {name : String} (hn : name ∈ elementTags ++ voidTags)
    (hi : (name != "input") = true) {words : List (List Char)} (hw : FreeOfTasks words) :
    (Lexeme.tag (name.toList :: words)).IsNeutral := by
  have hnames : ∀ name ∈ elementTags ++ voidTags, name.toList ∉ taskWords := by decide
  constructor
  · intro he
    exact bne_iff_ne.mp hi (String.toList_inj.mp (Option.some.inj he))
  · intro w hm
    rcases List.mem_cons.mp hm with rfl | hm
    · exact hnames name hn
    · exact hw w hm

/-- Sound and common pieces have nothing to do with tasks. -/
theorem isNeutral_of_common {v : Vocabulary} {p : Piece} (hs : p.Sound v) (hc : p.isCommon = true)
    (fresh : Bool) : ∀ l ∈ p.lexemes fresh, l.IsNeutral := by
  have hslashed : ∀ name ∈ elementTags, '/' :: name.toList ∉ taskWords ∧
      '/' :: name.toList ≠ "input".toList := by decide
  have hchars (cs : List Char) : ∀ l ∈ cs.map Lexeme.char, l.IsNeutral := by
    intro l hl
    obtain ⟨c, -, rfl⟩ := List.mem_map.mp hl
    exact Lexeme.isNeutral_char c
  intro l hl
  cases p with
  | freshLine =>
    cases fresh with
    | true => cases hl
    | false => exact hchars ['\n'] l hl
  | newline => exact hchars ['\n'] l hl
  | text s => exact hchars _ l hl
  | verbatim html => exact hchars _ l hl
  | openTag name attributes =>
    obtain ⟨hname, hattributes⟩ := Bool.and_eq_true_iff.mp hc
    obtain rfl := List.mem_singleton.mp hl
    exact isNeutral_tag hs.1 (Bool.and_eq_true_iff.mp hname).2 (freeOfTasks_words hs.2 hattributes)
  | voidTag name attributes =>
    obtain ⟨hname, hattributes⟩ := Bool.and_eq_true_iff.mp hc
    obtain rfl := List.mem_singleton.mp hl
    exact isNeutral_tag (List.mem_append_right _ hs.1) (Bool.and_eq_true_iff.mp hname).2
      ((freeOfTasks_words hs.2 hattributes).append freeOfTasks_slash)
  | closeTag name =>
    obtain rfl := List.mem_singleton.mp hl
    obtain ⟨hno, hne⟩ := hslashed name hs
    refine ⟨fun he => hne (Option.some.inj he), fun w hw => ?_⟩
    rwa [List.mem_singleton.mp hw]
  | omission =>
    obtain rfl := List.mem_singleton.mp hl
    exact ⟨by decide, by unfold FreeOfTasks; decide⟩
  | openImage attributes | closeImage title => cases hl

/-! ## Openings -/

/-- What an item of a task list begins with: a box, a box of a task that does not apply, or a symbol.
A list begins with a tag that has the class of a task list or has it not. -/
inductive TaskOpening
  | box (checked : Bool)
  | inapplicable
  | symbol (c : Char)
  | list (flagged : Bool)
  deriving DecidableEq, Repr

namespace TaskOpening

/-- Whether the item has a box. -/
def hasBox : TaskOpening → Bool
  | .box _ | .inapplicable => true
  | _ => false

/-- The lexemes of an opening. The other words of its tags are no markup of tasks. -/
inductive IsReadAs : TaskOpening → List Lexeme → Prop
  | box {checked : Bool} {item box : List (List Char)} : FreeOfTasks item → FreeOfTasks box →
    IsReadAs (.box checked) [.tag ("li".toList :: item),
      .tag ("input".toList :: "type=\"checkbox\"".toList ::
        (box ++ (if checked then ["checked=\"\"".toList] else []) ++
          ["disabled=\"\"".toList, ['/']])),
      .char ' ']
  | inapplicable {item box : List (List Char)} : FreeOfTasks item → FreeOfTasks box →
    IsReadAs .inapplicable [.tag ("li".toList :: item),
      .tag ("input".toList :: "type=\"checkbox\"".toList ::
        (box ++ ["data-inapplicable".toList, "disabled=\"\"".toList])),
      .char ' ']
  | symbol {c : Char} {item : List (List Char)} : FreeOfTasks item →
    IsReadAs (.symbol c) (.tag ("li".toList :: item) ::
      ("[" ++ escape (String.singleton c) ++ "] ").toList.map .char)
  | list {flagged : Bool} {name : String} {words : List (List Char)} : name ∈ ["ul", "ol"] →
    FreeOfTasks words →
    IsReadAs (.list flagged) [.tag (name.toList ::
      ((if flagged then ["class=\"task-list\"".toList] else []) ++ words))]

end TaskOpening

/-- The openings stand in a page, in order, and all other lexemes have nothing to do with tasks. -/
inductive Interspersed : (openings : List TaskOpening) → (page : List Lexeme) → Prop
  | nil : Interspersed [] []
  | neutral {l : Lexeme} {openings : List TaskOpening} {page : List Lexeme} : l.IsNeutral →
    Interspersed openings page → Interspersed openings (l :: page)
  | opening {o : TaskOpening} {ls : List Lexeme} {openings : List TaskOpening}
    {page : List Lexeme} : o.IsReadAs ls → Interspersed openings page →
    Interspersed (o :: openings) (ls ++ page)

namespace Interspersed

variable {openings openings' : List TaskOpening} {page page' : List Lexeme}

theorem append (h : Interspersed openings page) (h' : Interspersed openings' page') :
    Interspersed (openings ++ openings') (page ++ page') := by
  induction h with
  | nil => exact h'
  | neutral hl _ ih => exact .neutral hl ih
  | opening ho _ ih =>
    rw [List.append_assoc]
    exact .opening ho ih

/-- In front of a page, neutral lexemes make no difference. -/
theorem prepend {ls : List Lexeme} (hls : ∀ l ∈ ls, l.IsNeutral) (h : Interspersed openings page) :
    Interspersed openings (ls ++ page) := by
  induction ls with
  | nil => exact h
  | cons l ls ih =>
    obtain ⟨hl, hls⟩ := List.forall_mem_cons.mp hls
    exact .neutral hl (ih hls)

/-- A lexeme of a page is neutral or stands in an opening. -/
theorem mem (h : Interspersed openings page) {l : Lexeme} (hl : l ∈ page) :
    l.IsNeutral ∨ ∃ (o : TaskOpening) (ls : List Lexeme), o.IsReadAs ls ∧ l ∈ ls := by
  induction h with
  | nil => cases hl
  | neutral hn _ ih =>
    rcases List.mem_cons.mp hl with rfl | hl
    · exact .inl hn
    · exact ih hl
  | opening ho _ ih =>
    rcases List.mem_append.mp hl with hl | hl
    · exact .inr ⟨_, _, ho, hl⟩
    · exact ih hl

/-- **What is counted in a page is counted by its openings**, if none of it is neutral. -/
theorem countP_flatMap {α : Type} {f : Lexeme → List α} {p : α → Bool} {P : TaskOpening → Bool}
    (hneutral : ∀ l : Lexeme, l.IsNeutral → (f l).countP p = 0)
    (hopening : ∀ (o : TaskOpening) (ls : List Lexeme), o.IsReadAs ls →
      (ls.flatMap f).countP p = if P o then 1 else 0)
    (h : Interspersed openings page) : (page.flatMap f).countP p = openings.countP P := by
  induction h with
  | nil => rfl
  | neutral hl _ ih => rw [List.flatMap_cons, List.countP_append, hneutral _ hl, Nat.zero_add, ih]
  | opening ho _ ih =>
    rw [List.flatMap_append, List.countP_append, hopening _ _ ho, ih, List.countP_cons,
      Nat.add_comm]

end Interspersed

/-! ## What openings are counted -/

section Counts

variable {o : TaskOpening} {ls : List Lexeme}

theorem words_chars (cs : List Char) : (cs.map Lexeme.char).flatMap Lexeme.words = [] := by
  simp [List.flatMap_eq_nil_iff, Lexeme.words]

/-- The words of an opening that are markup of tasks. -/
def TaskOpening.taskWords : TaskOpening → List (List Char)
  | .box checked => if checked then ["checked=\"\"".toList] else []
  | .inapplicable => ["data-inapplicable".toList]
  | .symbol _ => []
  | .list flagged => if flagged then ["class=\"task-list\"".toList] else []

/-- An opening has its words of tasks and no others. -/
theorem TaskOpening.IsReadAs.count_words (h : o.IsReadAs ls) {w : List Char}
    (hw : w ∈ Html.taskWords) : (ls.flatMap Lexeme.words).count w = o.taskWords.count w := by
  have others : ∀ w ∈ Html.taskWords, w ∉ ["li".toList, "input".toList, "type=\"checkbox\"".toList,
      "disabled=\"\"".toList, ['/'], "ul".toList, "ol".toList] := by decide
  have skip (other : List Char) (ho : other ∈ ["li".toList, "input".toList,
      "type=\"checkbox\"".toList, "disabled=\"\"".toList, ['/'], "ul".toList, "ol".toList])
      (rest : List (List Char)) : (other :: rest).count w = rest.count w :=
    List.count_cons_of_ne fun he : other = w => others w hw (he ▸ ho)
  have hli := skip "li".toList (by decide)
  have hinput := skip "input".toList (by decide)
  have htype := skip "type=\"checkbox\"".toList (by decide)
  have hdisabled := skip "disabled=\"\"".toList (by decide)
  have hslash := skip ['/'] (by decide)
  cases h with
  | box hitem hbox =>
    simp only [List.flatMap_cons, List.flatMap_nil, Lexeme.words, List.append_nil,
      List.count_append, hli, hinput, htype, hdisabled, hslash, hitem.count hw, hbox.count hw,
      List.count_nil, taskWords, Nat.zero_add, Nat.add_zero]
  | inapplicable hitem hbox =>
    have hend (front : List (List Char)) : (front ++ ["data-inapplicable".toList,
        "disabled=\"\"".toList]).count w =
          front.count w + ["data-inapplicable".toList].count w := by
      rw [List.count_append, List.count_cons, hdisabled, List.count_cons]
    simp only [List.flatMap_cons, List.flatMap_nil, Lexeme.words, List.append_nil,
      List.count_append, hli, hinput, htype, hend, hitem.count hw, hbox.count hw, taskWords,
      Nat.zero_add]
  | symbol hitem =>
    rw [List.flatMap_cons, words_chars, List.append_nil, Lexeme.words, hli, hitem.count hw]
    rfl
  | list hname hwords =>
    have hlist := skip _ (List.mem_append_right ["li".toList, "input".toList,
      "type=\"checkbox\"".toList, "disabled=\"\"".toList, ['/']]
      (List.mem_map_of_mem (f := String.toList) hname))
    simp only [List.flatMap_cons, List.flatMap_nil, Lexeme.words, List.append_nil,
      List.count_append, hlist, hwords.count hw, taskWords, Nat.add_zero]

/-- An item has one box or none. -/
theorem TaskOpening.IsReadAs.countP_checkbox (h : o.IsReadAs ls) :
    ls.countP Lexeme.isCheckbox = if o.hasBox then 1 else 0 := by
  have hchars (cs : List Char) : (cs.map Lexeme.char).countP Lexeme.isCheckbox = 0 := by
    rw [List.countP_eq_zero]
    intro l hl
    obtain ⟨c, -, rfl⟩ := List.mem_map.mp hl
    exact Bool.false_ne_true
  cases h with
  | box hitem hbox => rfl
  | inapplicable hitem hbox => rfl
  | symbol hitem =>
    rw [List.countP_cons_of_neg Bool.false_ne_true, hchars]
    rfl
  | list hname hwords =>
    rcases List.mem_cons.mp hname with rfl | hname
    · rfl
    · rw [List.mem_singleton.mp hname]
      rfl

theorem Html.Lexeme.mem_of_isInapplicable {l : Lexeme} (h : l.isInapplicable = true) :
    "data-inapplicable".toList ∈ l.words :=
  (List.isSuffixOf_iff_suffix.mp h).subset List.mem_cons_self

/-- An item ends a box as a task that does not apply, or none. -/
theorem TaskOpening.IsReadAs.countP_inapplicable (h : o.IsReadAs ls) :
    ls.countP Lexeme.isInapplicable = if o = .inapplicable then 1 else 0 := by
  have hcount := h.count_words (w := "data-inapplicable".toList) (by decide)
  have hnone (ho : o.taskWords.count "data-inapplicable".toList = 0) :
      ls.countP Lexeme.isInapplicable = 0 := by
    rw [ho, List.count_eq_zero] at hcount
    rw [List.countP_eq_zero]
    exact fun l hl hi => hcount (List.mem_flatMap.mpr ⟨l, hl, l.mem_of_isInapplicable hi⟩)
  cases h with
  | inapplicable hitem hbox =>
    have hitem' : ¬(Lexeme.tag ("li".toList :: _)).isInapplicable = true := fun hi =>
      (List.mem_cons.mp (Lexeme.mem_of_isInapplicable hi)).elim (by decide)
        fun hm => hitem _ hm (by decide)
    rw [List.countP_cons_of_neg hitem', List.countP_cons_of_pos, if_pos rfl]
    · rfl
    · exact List.isSuffixOf_iff_suffix.mpr
        ⟨"input".toList :: "type=\"checkbox\"".toList :: _, rfl⟩
  | box | list =>
    refine (hnone ?_).trans (if_neg nofun).symm
    rw [taskWords]
    split <;> decide
  | symbol hitem => exact hnone rfl

/-- Every box is disabled. -/
theorem TaskOpening.IsReadAs.disabled (h : o.IsReadAs ls) {l : Lexeme} (hl : l ∈ ls)
    (hbox : l.isCheckbox = true) : "disabled=\"\"".toList ∈ l.words := by
  have boxed {item words : List (List Char)} (hw : "disabled=\"\"".toList ∈ words)
      (hl : l ∈ [.tag ("li".toList :: item), .tag words, .char ' ']) :
      "disabled=\"\"".toList ∈ l.words := by
    rcases List.mem_cons.mp hl with rfl | hl
    · cases hbox
    · rcases List.mem_cons.mp hl with rfl | hl
      · exact hw
      · rw [List.mem_singleton.mp hl] at hbox
        cases hbox
  cases h with
  | box =>
    exact boxed (List.mem_cons_of_mem _
      (List.mem_cons_of_mem _ (List.mem_append_right _ List.mem_cons_self))) hl
  | inapplicable =>
    exact boxed (List.mem_cons_of_mem _ (List.mem_cons_of_mem _
      (List.mem_append_right _ (List.mem_cons_of_mem _ List.mem_cons_self)))) hl
  | symbol =>
    rcases List.mem_cons.mp hl with rfl | hl
    · cases hbox
    · obtain ⟨c, -, rfl⟩ := List.mem_map.mp hl
      cases hbox
  | list hname =>
    rw [List.mem_singleton.mp hl] at hbox
    rcases List.mem_cons.mp hname with rfl | hname
    · cases hbox
    · rw [List.mem_singleton.mp hname] at hbox
      cases hbox

end Counts

/-! ## The openings of nodes -/

namespace Member

/-- The opening of a visited item or list. A symbol that checks no box is shown, unless it says that the
task does not apply and this is known. -/
def taskOpening? (style : Style) (q : Member) : Option TaskOpening :=
  match q.node with
  | .box (.taskItem none) .. => some (.box false)
  | .box (.taskItem (some c)) .. =>
    if c = 'x' ∨ c = 'X' then some (.box true)
    else if c = '~' ∧ style.user.on .inapplicableTasks = true then some .inapplicable
    else some (.symbol c)
  | .box (.list _ _ _ isTaskList) .. =>
    some (.list (isTaskList && style.html.on .tasklistClasses))
  | _ => none

theorem taskOpening?_eq_none {style : Style} {q : Member} (h : q.node.hasTaskMarkup = false) :
    q.taskOpening? style = none := by
  obtain ⟨parent, n⟩ := q
  cases n with
  | leaf kind info => rfl
  | box kind info children =>
    cases kind with
    | list | taskItem => cases h
    | _ => rfl

end Member

/-- Reading the openings off lexemes. -/
def taskCensus : Census TaskOpening where
  Reads := Interspersed
  reads_nil := .nil
  reads_append := Interspersed.append

section Openings

variable {style : Style} {pieces : List Piece}

/-- Sound and common pieces show no opening. -/
theorem taskCensus.shows_common {v : Vocabulary} (hv : v.images = false) (hs : AllSound v pieces)
    (hc : pieces.all Piece.isCommon = true) : taskCensus.Shows [] pieces :=
  Census.shows_nothing hv hs fun p hp fresh => by
    have hneutral := isNeutral_of_common (hs p hp) (List.all_eq_true.mp hc p hp) fresh
    have h := Interspersed.nil.prepend hneutral
    rwa [List.append_nil] at h

/-- Pieces that are read as an opening show it. -/
theorem taskCensus.shows_opening {v : Vocabulary} (hv : v.images = false) {o : TaskOpening}
    (hs : AllSound v pieces) (ho : ∀ fresh, o.IsReadAs (lexemesFrom fresh pieces)) :
    taskCensus.Shows [o] pieces :=
  Census.shows_pieces hv hs fun fresh => by
    have h := Interspersed.opening (ho fresh) .nil
    rwa [List.append_nil] at h

theorem taskCensus.shows_freshLine : taskCensus.Shows [] [.freshLine] :=
  taskCensus.shows_common (v := .basic) rfl (by simp [Piece.Sound]) rfl

theorem common_taskItemClass (style : Style) :
    (Default.taskItemClass style).all Attribute.isCommon = true := by
  unfold Default.taskItemClass
  split <;> decide

theorem common_checkboxClass (style : Style) :
    (Default.checkboxClass style).all Attribute.isCommon = true := by
  unfold Default.checkboxClass
  split <;> decide

/-- The attributes of an item have nothing to do with tasks. -/
theorem freeOfTasks_item (style : Style) (info : Info) {itemClass : List Attribute}
    (hs : SoundAttributes .basic itemClass) (hc : itemClass.all Attribute.isCommon = true) :
    FreeOfTasks ((itemClass ++ style.position info).map Attribute.word) := by
  refine freeOfTasks_words (v := .basic) (soundAttributes_append.mpr ⟨hs, sound_position _ _⟩) ?_
  rw [List.all_append, hc, common_position]
  rfl

theorem freeOfTasks_checkbox (style : Style) :
    FreeOfTasks ((Default.checkboxClass style).map Attribute.word) :=
  freeOfTasks_words (v := .basic) (Default.sound_checkboxClass style) (common_checkboxClass style)

/-- An item with a box. -/
theorem taskCensus.shows_box (style : Style) (info : Info) {symbol : Option Char}
    (h : symbol.filter (fun c => !Default.isChecked c) = none) :
    taskCensus.Shows [.box symbol.isSome] (Default.taskOpening style info symbol) := by
  have hsound : AllSound .basic (Default.taskOpening style info symbol) :=
    Default.sound_taskOpening style info symbol
  unfold Default.taskOpening at hsound ⊢
  rw [h] at hsound ⊢
  refine taskCensus.shows_freshLine.append
    (taskCensus.shows_opening rfl (Piece.allSound_cons.mp hsound).2 fun fresh => ?_)
  have hitem := freeOfTasks_item style info (Default.sound_taskItemClass style)
    (common_taskItemClass style)
  have hread : (TaskOpening.box symbol.isSome).IsReadAs _ :=
    .box hitem (freeOfTasks_checkbox style)
  have hwords : (Attribute.mk "type" (some "checkbox") :: Default.checkboxClass style ++
        (if symbol.isSome then [Attribute.mk "checked" (some "")] else []) ++
        [Attribute.mk "disabled" (some "")]).map Attribute.word ++ [['/']] =
      "type=\"checkbox\"".toList :: ((Default.checkboxClass style).map Attribute.word ++
        (if symbol.isSome then ["checked=\"\"".toList] else []) ++
          ["disabled=\"\"".toList, ['/']]) := by
    cases symbol.isSome <;>
      simp only [List.map_cons, List.map_append, List.cons_append, List.append_assoc] <;> rfl
  rw [← hwords] at hread
  exact hread

/-- An item with a box of a task that does not apply. -/
theorem taskCensus.shows_inapplicable (style : Style) (info : Info) :
    taskCensus.Shows [.inapplicable] (Override.inapplicableOpening style info) := by
  have hsound : AllSound .basic (Override.inapplicableOpening style info) :=
    Override.sound_inapplicableOpening style info
  unfold Override.inapplicableOpening at hsound ⊢
  generalize hclass : (if style.html.on .tasklistClasses then "inapplicable task-list-item"
    else "inapplicable") = name at hsound ⊢
  have hcommon : [classAttribute name].all Attribute.isCommon = true := by
    rw [← hclass]
    split <;> decide
  have hname : SoundAttributes .basic [classAttribute name] := by
    rw [← hclass]
    split <;> simp +decide [classAttribute]
  refine taskCensus.shows_freshLine.append
    (taskCensus.shows_opening rfl (Piece.allSound_cons.mp hsound).2 fun fresh => ?_)
  have hread := TaskOpening.IsReadAs.inapplicable (freeOfTasks_item style info hname hcommon)
    (freeOfTasks_checkbox style)
  have hwords : (Attribute.mk "type" (some "checkbox") :: Default.checkboxClass style ++
        [Attribute.mk "data-inapplicable" none, Attribute.mk "disabled" (some "")]).map
          Attribute.word =
      "type=\"checkbox\"".toList :: ((Default.checkboxClass style).map Attribute.word ++
        ["data-inapplicable".toList, "disabled=\"\"".toList]) := by
    simp only [List.map_cons, List.map_append, List.cons_append]
    rfl
  rw [← hwords] at hread
  exact hread

/-- An item with a symbol of its own. -/
theorem taskCensus.shows_symbol (style : Style) (info : Info) (c : Char) :
    taskCensus.Shows [.symbol c] (Default.customTask style info c) := by
  have hsound : AllSound .basic (Default.customTask style info c) :=
    Default.sound_customTask style info c
  refine taskCensus.shows_freshLine.append
    (taskCensus.shows_opening rfl (Piece.allSound_cons.mp hsound).2 fun fresh => ?_)
  have hread := TaskOpening.IsReadAs.symbol (c := c) (freeOfTasks_item style info
    (Default.sound_taskItemClass style) (common_taskItemClass style))
  have hchars : ("[" ++ escape (String.singleton c) ++ "] ").toList.map Lexeme.char =
      (escape "[").toList.map .char ++ ((escape (String.singleton c)).toList.map .char ++
        ((escape "] ").toList.map .char ++ [])) := by
    rw [String.toList_append, String.toList_append, List.map_append, List.map_append,
      List.append_assoc, List.append_nil]
    rfl
  rw [hchars] at hread
  exact hread

/-- A list. -/
theorem taskCensus.shows_list (style : Style) (info : Info) (ordered : Bool) (start : Int)
    (flagged : Bool) :
    taskCensus.Shows [.list flagged] (Default.listOpening style info ordered start
      (if flagged then [classAttribute "task-list"] else [])) := by
  have hclass : SoundAttributes .basic (if flagged then [classAttribute "task-list"] else []) := by
    split <;> simp +decide [classAttribute]
  have hsound : AllSound .basic (Default.listOpening style info ordered start
      (if flagged then [classAttribute "task-list"] else [])) :=
    Default.sound_listOpening style info ordered start hclass
  unfold Default.listOpening at hsound ⊢
  simp only at hsound ⊢
  generalize hfirst : (if ordered && start != 1 then [Attribute.mk "start" (some (toString start))]
    else []) = first at hsound ⊢
  have hcommon : (style.position info ++ first).all Attribute.isCommon = true := by
    rw [List.all_append, common_position, ← hfirst]
    split <;> rfl
  obtain ⟨-, hrest⟩ := Piece.allSound_cons.mp hsound
  obtain ⟨htag, hline⟩ := Piece.allSound_cons.mp hrest
  have hattributes : SoundAttributes .basic (style.position info ++ first) := by
    have hs := htag.2
    rw [List.append_assoc] at hs
    exact (soundAttributes_append.mp hs).2
  have hread : (TaskOpening.list flagged).IsReadAs [.tag ((Default.listTag ordered).toList :: _)] :=
    .list (by cases ordered <;> decide) (freeOfTasks_words hattributes hcommon)
  have hwords : ((if flagged then [classAttribute "task-list"] else []) ++ style.position info ++
        first).map Attribute.word =
      (if flagged then ["class=\"task-list\"".toList] else []) ++
        (style.position info ++ first).map Attribute.word := by
    rw [List.append_assoc, List.map_append]
    cases flagged <;> rfl
  rw [← hwords] at hread
  have hopening : taskCensus.Shows [.list flagged] [.openTag (Default.listTag ordered)
      ((if flagged then [classAttribute "task-list"] else []) ++ style.position info ++ first)] :=
    taskCensus.shows_opening rfl (Piece.allSound_cons.mpr ⟨htag, Piece.allSound_nil⟩)
      fun _ => hread
  exact taskCensus.shows_freshLine.append
    (hopening.append (taskCensus.shows_common rfl hline rfl))

/-- The closing tags of items and lists show nothing. -/
theorem taskCensus.shows_closing {name : String} (h : name ∈ elementTags) :
    taskCensus.Shows [] [.closeTag name, .newline] :=
  taskCensus.shows_common (v := .basic) rfl (by simp [Piece.Sound, h]) rfl

/-- An image shows nothing. -/
theorem taskCensus.shows_image (style : Style) (info : Info) (url : String) (title : Option String)
    (s : String) {tags : List Attribute} (hs : SoundAttributes .full tags)
    (hc : tags.all Attribute.isCommon = true) :
    taskCensus.Shows [] (Default.imageOpening style info url tags ++
      .text s :: Default.imageClosing style title) := by
  obtain ⟨front, hfront, hopening⟩ := Default.imageOpening_eq style info url
  obtain ⟨back, hback, hclosing⟩ := Default.imageClosing_eq style title
  have hurl := inert_urlText style style.html.imageUrlRewriter url
  have hopen := common_imageOpening style info url hc
  have hclose := common_imageClosing style title
  rw [hopening, List.all_append, Bool.and_eq_true_iff] at hopen
  rw [hclosing] at hclose
  have hattributes : SoundAttributes .full (style.position info ++
      ⟨"src", some (style.urlText style.html.imageUrlRewriter url)⟩ :: tags) := by
    simp +decide [sound_position, hurl, hs]
  have himage : taskCensus.Shows [] [.openImage (style.position info ++
      ⟨"src", some (style.urlText style.html.imageUrlRewriter url)⟩ :: tags), .text s,
      .closeImage (nonEmpty? title)] := by
    have hall : (style.position info ++
        Attribute.mk "src" (some (style.urlText style.html.imageUrlRewriter url)) :: tags ++
          imageAttributes s (nonEmpty? title)).all Attribute.isCommon = true := by
      have halt : (imageAttributes s (nonEmpty? title)).all Attribute.isCommon = true := by
        cases nonEmpty? title <;> rfl
      rw [List.all_append, halt, Bool.and_true]
      exact (Bool.and_eq_true_iff.mp hopen.2).1
    have hwords := freeOfTasks_words
      (soundAttributes_append.mpr ⟨hattributes, sound_imageAttributes s (nonEmpty? title)⟩) hall
    exact Census.shows_image hattributes
      (.neutral (isNeutral_tag (by decide) (by decide) (hwords.append freeOfTasks_slash)) .nil)
  have h := ((taskCensus.shows_common rfl hfront hopen.1).append himage).append
    (taskCensus.shows_common rfl hback hclose)
  rw [hopening, hclosing]
  simpa using h

end Openings

/-! ## Visits -/

section Visits

variable {style : Style} {ancestors : List Occurrence} (marks : Marks)

/-- The first visit to an item shows what its symbol asks for. -/
theorem taskCensus.shows_item (symbol : Option Char) (info : Info) (children : List Node)
    (place : List Nat) :
    let o : Occurrence := ⟨.box (.taskItem symbol) info children, place⟩
    taskCensus.Shows ((Member.mk (parentKind? ancestors) o.node).taskOpening? style).toList
      (Override.visitTaskItem style ancestors marks o info symbol .entering).pieces := by
  intro o
  have hd : (Default.visit style ancestors marks o .entering).pieces =
    Default.taskOpening style info symbol := rfl
  cases hs : symbol.filter fun c => !Default.isChecked c with
  | none =>
    have hbox : (Member.mk (parentKind? ancestors) o.node).taskOpening? style =
        some (.box symbol.isSome) := by
      cases symbol with
      | none => rfl
      | some c =>
        have hc : Default.isChecked c = true := by simpa using hs
        exact if_pos (by simpa [Default.isChecked] using hc)
    rw [hbox]
    simp only [Override.visitTaskItem, hs, ite_self, hd]
    exact taskCensus.shows_box style info hs
  | some c =>
    obtain ⟨rfl, hc⟩ := Option.filter_eq_some_iff.mp hs
    have hopening : Default.taskOpening style info (some c) = Default.customTask style info c := by
      unfold Default.taskOpening
      rw [hs]
    have hmember : (Member.mk (parentKind? ancestors) o.node).taskOpening? style =
        if c = '~' ∧ style.user.on .inapplicableTasks = true then some .inapplicable
        else some (.symbol c) := if_neg (by simpa [Default.isChecked] using hc)
    rw [hmember]
    cases hi : style.user.on .inapplicableTasks with
    | false =>
      simp only [Override.visitTaskItem, hi, Bool.not_false, if_true, hd, hopening,
        Bool.false_eq_true, and_false, if_false]
      exact taskCensus.shows_symbol style info c
    | true =>
      simp only [Override.visitTaskItem, hi, hs, Bool.not_true, Bool.false_eq_true, if_false,
        and_true]
      split
      · exact taskCensus.shows_inapplicable style info
      · exact taskCensus.shows_symbol style info c

/-- The first visit to a list shows whether it is a task list. -/
theorem taskCensus.shows_visitList (ordered tight isTaskList : Bool) (start : Int) (info : Info)
    (children : List Node) (place : List Nat) :
    let o : Occurrence := ⟨.box (.list ordered start tight isTaskList) info children, place⟩
    taskCensus.Shows ((Member.mk (parentKind? ancestors) o.node).taskOpening? style).toList
      (Override.visitList style ancestors marks o info ordered start isTaskList
        .entering).pieces := by
  intro o
  have hshown := taskCensus.shows_list style info ordered start
    (isTaskList && style.html.on .tasklistClasses)
  have hpieces : (Override.visitList style ancestors marks o info ordered start isTaskList
      .entering).pieces = Default.listOpening style info ordered start
        (if isTaskList && style.html.on .tasklistClasses then [classAttribute "task-list"]
          else []) := by
    unfold Override.visitList
    cases hc : style.html.on .tasklistClasses with
    | true =>
      rw [if_neg (by simp), Bool.and_true]
    | false =>
      rw [if_pos (by simp)]
      simp only [o, Default.visit, Default.containerVisit, Default.writes, hc, Bool.and_false,
        Bool.false_eq_true, if_false]
  rw [hpieces]
  exact hshown

end Visits

section Accounts

variable {style : Style} (hmarkup : style.user.on .defaultHtml = false)
  (hraw : style.HidesRaw) {ancestors : List Occurrence}

include hmarkup

/-- The last visit to an item or a list shows nothing. -/
theorem taskCensus.emits_leaving_task {n : Node} (h : n.hasTaskMarkup = true) (place : List Nat) :
    taskCensus.Emits [] ((Formatter.standard.emitter style).visit ancestors ⟨n, place⟩ .leaving) := by
  intro marks signal _
  rw [Formatter.emitter_visit, Formatter.visitor_standard hmarkup]
  rcases Node.cases_of_hasTaskMarkup h with
    ⟨ordered, start, tight, isTaskList, info, children, rfl⟩ | ⟨symbol, info, children, rfl⟩
  · have hpieces : (Override.visitList style ancestors marks
        ⟨.box (.list ordered start tight isTaskList) info children, place⟩ info ordered start
        isTaskList .leaving).pieces = [.closeTag (Default.listTag ordered), .newline] := by
      simp [Override.visitList, Default.visit, Default.containerVisit, Default.writes]
    show taskCensus.Shows [] (Override.visitList _ _ _ _ _ _ _ _ _).pieces
    rw [hpieces]
    exact taskCensus.shows_closing (Default.listTag_mem ordered)
  · have hpieces : (Override.visitTaskItem style ancestors marks
        ⟨.box (.taskItem symbol) info children, place⟩ info symbol .leaving).pieces =
          [.closeTag "li", .newline] := by
      unfold Override.visitTaskItem
      split
      · rfl
      · split <;> rfl
    show taskCensus.Shows [] (Override.visitTaskItem _ _ _ _ _ _ _).pieces
    rw [hpieces]
    exact taskCensus.shows_closing (by decide)

include hraw

/-- The last visit to a node that is no image shows nothing. -/
theorem taskCensus.emits_leaving {o : Occurrence}
    (h : ∀ a ∈ (Member.mk (parentKind? ancestors) o.node).alignment?, a ∈ alignments)
    (hi : o.node.isImage = false) :
    taskCensus.Emits [] ((Formatter.standard.emitter style).visit ancestors o .leaving) := by
  intro marks signal hs
  cases ht : o.node.hasTaskMarkup with
  | false =>
    exact taskCensus.shows_common rfl
      (Formatter.standard.sound_imageless hraw ancestors h hi .leaving marks)
      (Formatter.standard.common_visit style ancestors marks ht .leaving)
  | true => exact taskCensus.emits_leaving_task hmarkup ht o.place marks signal hs

/-- The first visit to a node that is no image shows the opening that is due. -/
theorem taskCensus.emits_entering {o : Occurrence}
    (h : ∀ a ∈ (Member.mk (parentKind? ancestors) o.node).alignment?, a ∈ alignments)
    (hi : o.node.isImage = false) :
    taskCensus.Emits ((Member.mk (parentKind? ancestors) o.node).taskOpening? style).toList
      ((Formatter.standard.emitter style).visit ancestors o .entering) := by
  intro marks signal _
  obtain ⟨n, place⟩ := o
  cases ht : n.hasTaskMarkup with
  | false =>
    rw [Member.taskOpening?_eq_none ht]
    exact taskCensus.shows_common rfl
      (Formatter.standard.sound_imageless hraw ancestors h hi .entering marks)
      (Formatter.standard.common_visit style ancestors marks ht .entering)
  | true =>
    rw [Formatter.emitter_visit, Formatter.visitor_standard hmarkup]
    rcases Node.cases_of_hasTaskMarkup ht with
      ⟨ordered, start, tight, isTaskList, info, children, rfl⟩ | ⟨symbol, info, children, rfl⟩
    · exact taskCensus.shows_visitList marks ordered tight isTaskList start info children place
    · exact taskCensus.shows_item marks symbol info children place

/-- **Each visited node shows the opening that is due**, and nothing else shows one. -/
theorem taskCensus.accounts_tasks (hempty : style.html.on .ignoreEmptyLinks = false)
    {members : List Member} (h : ∀ q ∈ members, ∀ a ∈ q.alignment?, a ∈ alignments) :
    taskCensus.Accounts (Formatter.standard.emitter style)
      (fun q => (q.taskOpening? style).toList) members where
  leaf ancestors place kind info hm := taskCensus.emits_entering hmarkup hraw (h _ hm) rfl
  box ancestors place kind info children hm hi _ _ hx :=
    Census.emits_around (taskCensus.emits_entering hmarkup hraw (h _ hm) hi)
      (fun _ _ hs => Formatter.standard.answer_html hempty hi hs) hx
      (taskCensus.emits_leaving hmarkup hraw (h _ hm) hi)
  image ancestors place kind info children hm hi x := by
    obtain ⟨url, title, _, _, he⟩ := Node.exists_of_isImage hi
    cases he
    have hvisitor : Formatter.standard.visitor style (Container.image url title).name =
      Override.image.visit := Formatter.visitor_standard hmarkup (.box (.image url title) info [])
    intro marks a _
    rw [Formatter.around_image (.inr ⟨hvisitor, rfl⟩)]
    refine taskCensus.shows_image style info url title (plainText children) ?_ ?_
    · split
      · exact Override.sound_mark rfl
      · exact soundAttributes_nil
    · split <;> rfl

end Accounts

/-! ## Whole pages -/

namespace Html.Lexeme

variable {l : Lexeme}

theorem IsNeutral.not_checkbox (h : l.IsNeutral) : l.isCheckbox = false := by
  rw [Bool.eq_false_iff]
  intro hbox
  obtain ⟨rest, hwords⟩ := List.isPrefixOf_iff_prefix.mp hbox
  exact h.1 (by rw [← hwords]; rfl)

theorem IsNeutral.not_inapplicable (h : l.IsNeutral) : l.isInapplicable = false := by
  rw [Bool.eq_false_iff]
  intro hend
  exact h.2 _ (mem_of_isInapplicable hend) (by decide)

end Html.Lexeme

section Pages

variable {openings : List TaskOpening} {page : List Lexeme} {P : TaskOpening → Bool}

/-- A word of tasks is counted by the openings that have it. -/
theorem Interspersed.count_words {w : List Char} (hw : w ∈ taskWords)
    (hP : ∀ o : TaskOpening, o.taskWords.count w = if P o then 1 else 0)
    (h : Interspersed openings page) :
    (page.flatMap Lexeme.words).count w = openings.countP P :=
  h.countP_flatMap (fun _ hl => hl.2.count hw) fun o _ ho => (ho.count_words hw).trans (hP o)

/-- Lexemes are counted by the openings they stand in. -/
theorem Interspersed.countP_page {p : Lexeme → Bool}
    (hneutral : ∀ l : Lexeme, l.IsNeutral → p l = false)
    (hopening : ∀ (o : TaskOpening) (ls : List Lexeme), o.IsReadAs ls →
      ls.countP p = if P o then 1 else 0)
    (h : Interspersed openings page) : page.countP p = openings.countP P := by
  have hcount := h.countP_flatMap (f := fun l => [l]) (p := p) (P := P)
    (fun l hl => by simp [hneutral l hl])
    (fun o ls ho => by rw [List.flatMap_singleton']; exact hopening o ls ho)
  rwa [List.flatMap_singleton'] at hcount

end Pages

/-- The lists that are shown as task lists are those that are flagged, if classes are wanted. -/
theorem Member.count_flagged (style : Style) (members : List Member) :
    (members.filterMap (Member.taskOpening? style)).count (.list true) =
      if style.html.on .tasklistClasses then members.countP Member.isTaskList else 0 := by
  have hone (q : Member) : ((q.taskOpening? style).map (· == .list true)).getD false =
      (q.isTaskList && style.html.on .tasklistClasses) := by
    obtain ⟨parent, n⟩ := q
    cases n with
    | leaf kind info => rfl
    | box kind info children =>
      cases kind with
      | list ordered start tight isTaskList =>
        cases h : isTaskList && style.html.on .tasklistClasses <;>
          simp [Member.taskOpening?, Member.isTaskList, h]
      | taskItem symbol =>
        cases symbol with
        | none => rfl
        | some c =>
          simp only [Member.taskOpening?]
          split
          · rfl
          · split <;> rfl
      | _ => rfl
  rw [List.count, List.countP_filterMap]
  simp only [hone]
  cases style.html.on .tasklistClasses with
  | true => simp only [Bool.and_true, if_true]
  | false => simp

/-- **The markup of tasks is exact.** In a page with overrides, boxes are as many as the visited items
with a box, all are disabled, those of checked items are checked and those of tasks that do not apply
say so. Lists that are flagged have the class of a task list if classes are wanted, and none has the
class of the default markup. All this stands in the openings of the visited items and lists, which are
in document order. -/
theorem Formatter.tasks_format {style : Style} {doc : Node}
    (hmarkup : style.user.on .defaultHtml = false) (hraw : style.HidesRaw)
    (hempty : style.html.on .ignoreEmptyLinks = false)
    (hk : ∀ q ∈ doc.members none, q.node.isForeign = false)
    (ha : ∀ q ∈ doc.members none, ∀ a ∈ q.alignment?, a ∈ alignments) :
    let openings := (doc.visited none).filterMap (Member.taskOpening? style)
    (style.HasAnchorText → ∃ html, (Formatter.standard.format style doc).1 = .ok html) ∧
      ∀ html, (Formatter.standard.format style doc).1 = .ok html →
        let words := (lex html).flatMap Lexeme.words
        (lex html).countP Lexeme.isCheckbox = openings.countP TaskOpening.hasBox ∧
          (∀ l ∈ lex html, l.isCheckbox = true → "disabled=\"\"".toList ∈ l.words) ∧
          words.count "checked=\"\"".toList = openings.count (.box true) ∧
          (lex html).countP Lexeme.isInapplicable = openings.count .inapplicable ∧
          words.count "data-inapplicable".toList = openings.count .inapplicable ∧
          words.count "class=\"contains-task-list\"".toList = 0 ∧
          words.count "class=\"task-list\"".toList =
            (if style.html.on .tasklistClasses then (doc.visited none).countP Member.isTaskList
              else 0) ∧
          Interspersed openings (lex html) := by
  intro openings
  refine ⟨fun hid => ⟨_, Formatter.format_ok (.inr rfl) hid hk⟩, fun html hhtml => ?_⟩
  intro words
  have hv : ∀ q ∈ doc.visited none, ∀ a ∈ q.alignment?, a ∈ alignments := fun q hq =>
    ha q (Node.mem_members_of_visited doc none hq)
  have haccounts := taskCensus.accounts_tasks hmarkup hraw hempty hv
  have hpage : Interspersed openings (lex html) := by
    have h := haccounts.reads_format hhtml
    rwa [← List.filterMap_eq_flatMap_toList] at h
  refine ⟨?_, fun l hl hbox => ?_, ?_, ?_, ?_, ?_, ?_, hpage⟩
  · exact hpage.countP_page (fun l hl => hl.not_checkbox) fun o ls ho => ho.countP_checkbox
  · rcases hpage.mem hl with hn | ⟨o, ls, ho, hm⟩
    · rw [hn.not_checkbox] at hbox
      cases hbox
    · exact ho.disabled hm hbox
  · refine hpage.count_words (P := (· == .box true)) (by decide) fun o => ?_
    rcases o with ⟨_ | _⟩ | _ | _ | ⟨_ | _⟩ <;> rfl
  · refine hpage.countP_page (P := (· == .inapplicable)) (fun l hl => hl.not_inapplicable)
      fun o ls ho => ?_
    rw [ho.countP_inapplicable]
    simp
  · refine hpage.count_words (P := (· == .inapplicable)) (by decide) fun o => ?_
    rcases o with ⟨_ | _⟩ | _ | _ | ⟨_ | _⟩ <;> rfl
  · refine (hpage.count_words (P := fun _ => false) (by decide) fun o => ?_).trans (by simp)
    rcases o with ⟨_ | _⟩ | _ | _ | ⟨_ | _⟩ <;> rfl
  · rw [← Member.count_flagged]
    refine hpage.count_words (P := (· == .list true)) (by decide) fun o => ?_
    rcases o with ⟨_ | _⟩ | _ | _ | ⟨_ | _⟩ <;> rfl

/-- A flagged list with items of all kinds, one of which holds a list that is not flagged, and an item
that stands in an image. -/
theorem Formatter.tasks_format_nested :
    let item (symbol : Option Char) (children : List Node) : Node :=
      .box (.taskItem symbol) {} children
    let list (flagged : Bool) (items : List Node) : Node :=
      .box (.list false 1 true flagged) {} items
    let doc : Node := .box .document {} [list true [item none [], item (some 'X') [
          list false [item (some '~') [], item (some '<') []]],
        item (some 'x') [.leaf (.text "checked=\"\"") {}],
        .box .listItem {} [.box (.image "i.png" none) {} [item (some '~') []]]]]
    let style : Style := .allOverrides
    style.user.on .defaultHtml = false ∧ style.HidesRaw ∧
      style.html.on .ignoreEmptyLinks = false ∧
      (∀ q ∈ doc.members none, q.node.isForeign = false) ∧
      (∀ q ∈ doc.members none, ∀ a ∈ q.alignment?, a ∈ alignments) ∧
      ∃ html, (Formatter.standard.format style doc).1 = .ok html ∧
        (lex html).countP Lexeme.isCheckbox = 4 ∧
        ((lex html).flatMap Lexeme.words).count "checked=\"\"".toList = 2 ∧
        (lex html).countP Lexeme.isInapplicable = 1 ∧
        ((lex html).flatMap Lexeme.words).count "class=\"task-list\"".toList = 1 ∧
        Interspersed [.list true, .box false, .box true, .list false, .inapplicable, .symbol '<',
          .box true] (lex html) := by
  intro item list doc style
  have hmarkup : style.user.on .defaultHtml = false := rfl
  have hraw : style.HidesRaw := .inr rfl
  have hempty : style.html.on .ignoreEmptyLinks = false := rfl
  have hk : ∀ q ∈ doc.members none, q.node.isForeign = false := by decide
  have ha : ∀ q ∈ doc.members none, ∀ a ∈ q.alignment?, a ∈ alignments := by decide
  obtain ⟨hpage, htasks⟩ := Formatter.tasks_format hmarkup hraw hempty hk ha
  obtain ⟨html, hhtml⟩ := hpage (.inl rfl)
  obtain ⟨hboxes, -, hchecked, hinapplicable, -, -, hlists, hopenings⟩ := htasks html hhtml
  exact ⟨hmarkup, hraw, hempty, hk, ha, html, hhtml, hboxes, hchecked, hinapplicable, hlists,
    hopenings⟩

end FlavoredMarkdown
