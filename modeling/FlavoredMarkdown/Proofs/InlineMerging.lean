import FlavoredMarkdown.Proofs.PlaceholderMatches
import FlavoredMarkdown.Proofs.TaskItems
import FlavoredMarkdown.Proofs.VisibleText
import Mathlib.Data.List.Chain

/-!
# Texts that meet become one

Inline tokens are read from front to back (`_process_inline_tokens`), and a text is joined to the text
right before it. So a text may come in several tokens, with tokens in between that are not known, and no
reader of the nodes can tell; a placeholder that is cut into such tokens is whole again.

The reading looks back at the last node, but the nodes of a list of tokens follow from the first token
and the nodes of the rest (`Token.inlines_cons`): joining a text to what comes behind it is as good as
joining it to what came before. Everything here is an induction along this equation.

* Literal texts are texts. Values of other kinds in their place cannot always be joined.
* What is noted in the log on tokens that are not known is not compared.

Results:
* `SameResult`: two readings have the same result, whatever is in the log.
* `Token.inline_mk`: the node of a token is an outline that is filled with its content.
* `Token.inlines_cons`: the nodes of a token and of those behind it.
* `Token.ensures_inlines`: no texts meet among the nodes of tokens, which have the text of the tokens.
* `Token.Split.sameResult`: to cut a text in two makes no difference.
* `Token.ensures_holdsText`: the text of tokens in a row is found in one node.
* **`Token.inlines_merged`**: all of this, and what it says of placeholders.
-/

namespace FlavoredMarkdown

/-! ## Results of readings -/

section Readings

variable {α β : Type} {x y : Reading α} {f g : α → Reading β} {P : α → Prop}

/-- Steps that agree on what a reading can give agree behind it. -/
theorem bind_congr_of_ensures (hx : Ensures x P) (h : ∀ a, P a → f a = g a) :
    x >>= f = x >>= g := by
  refine ExceptT.ext (StateT.ext fun log => ?_)
  simp only [ExceptT.run_bind, StateT.run_bind]
  cases hr : x.run.run log with
  | mk result log' =>
    cases result with
    | ok a => exact congrArg (fun y : Reading β => y.run.run log') (h a (hx log a log' hr))
    | error e => rfl

/-- Two readings give the same, or fail alike, whatever is in their logs. -/
def SameResult (x y : Reading α) : Prop := ∀ log log', (x.run.run log).1 = (y.run.run log').1

theorem sameResult_pure (a : α) : SameResult (pure a) (pure a) := fun _ _ => rfl

theorem sameResult_throw (e : TokenError) : SameResult (throw e : Reading α) (throw e) :=
  fun _ _ => rfl

theorem SameResult.bind (hx : SameResult x y) (hf : ∀ a, SameResult (f a) (g a)) :
    SameResult (x >>= f) (y >>= g) := by
  intro log log'
  have hsame := hx log log'
  simp only [ExceptT.run_bind, StateT.run_bind]
  generalize x.run.run log = r at hsame ⊢
  generalize y.run.run log' = r' at hsame ⊢
  obtain ⟨result, log⟩ := r
  obtain ⟨result', log'⟩ := r'
  obtain rfl : result = result' := hsame
  cases result with
  | ok a => exact hf a log log'
  | error e => rfl

theorem SameResult.map (hx : SameResult x y) (g : α → β) : SameResult (g <$> x) (g <$> y) := by
  rw [map_eq_pure_bind, map_eq_pure_bind]
  exact hx.bind fun a => sameResult_pure (g a)

/-- What is noted does not count. -/
theorem SameResult.note (hx : SameResult x y) (what : String) (type : Value) :
    SameResult x (Token.noteSkipped what type >>= fun _ => y) := fun log _ => hx log _

theorem sameResult_note (what : String) (type : Value) :
    SameResult (Token.noteSkipped what type) (Token.noteSkipped what type) := fun _ _ => rfl

end Readings

/-! ## Nodes side by side -/

namespace Node

def isText : Node → Bool
  | .leaf (.text _) _ => true
  | _ => false

theorem exists_of_isText {n : Node} (h : n.isText = true) : ∃ s info, n = .leaf (.text s) info := by
  unfold isText at h
  split at h
  · exact ⟨_, _, rfl⟩
  · cases h

/-- The nodes are not both texts. -/
def Apart (n m : Node) : Prop := ¬(n.isText = true ∧ m.isText = true)

/-- No two texts stand side by side among the nodes. -/
def Merged (nodes : List Node) : Prop := nodes.IsChain Apart

/-- No two texts stand side by side anywhere below a node. -/
def MergedBelow (n : Node) : Prop := ∀ parent, ∀ q ∈ n.members parent, Merged q.node.children

/-- No two texts stand side by side anywhere, and the text of the nodes is `s`. -/
structure MergedTo (s : String) (nodes : List Node) : Prop where
  merged : Merged nodes
  below : ∀ n ∈ nodes, n.MergedBelow
  text : plainTexts nodes = s

/-- Somewhere in a node is a text that `s` is part of. -/
def HoldsText (s : String) (n : Node) : Prop :=
  ∀ parent, ∃ q ∈ n.members parent, ∃ before behind, q.node = .leaf (.text (before ++ s ++ behind)) {}

theorem mergedBelow_leaf (kind : Leaf) (info : Info) : (Node.leaf kind info).MergedBelow := by
  intro parent q hq
  rw [members_leaf, List.mem_singleton] at hq
  subst hq
  exact List.isChain_nil

theorem mergedBelow_box {kind : Container} {info : Info} {children : List Node}
    (h : Merged children) (hc : ∀ c ∈ children, c.MergedBelow) :
    (Node.box kind info children).MergedBelow := by
  intro parent q hq
  rcases mem_members_box.mp hq with rfl | ⟨c, hm, hq⟩
  · exact h
  · exact hc c hm _ q hq

theorem HoldsText.box {s : String} {children : List Node} (kind : Container) (info : Info)
    (h : ∃ c ∈ children, c.HoldsText s) : (Node.box kind info children).HoldsText s := by
  obtain ⟨c, hm, hc⟩ := h
  intro parent
  obtain ⟨q, hq, htext⟩ := hc (some kind)
  exact ⟨q, mem_members_box.mpr (.inr ⟨c, hm, hq⟩), htext⟩

/-- A text in front of another one becomes one with it. -/
def pushed (n : Node) (nodes : List Node) : List Node :=
  match n, nodes with
  | .leaf (.text a) _, .leaf (.text b) _ :: rest => .leaf (.text (a ++ b)) {} :: rest
  | _, _ => n :: nodes

section Pushed

variable {n : Node} {nodes : List Node}

/-- Either two texts meet, or nothing happens. -/
theorem pushed_cases (n : Node) (nodes : List Node) :
    (∃ a ia b ib rest, n = .leaf (.text a) ia ∧ nodes = .leaf (.text b) ib :: rest ∧
      pushed n nodes = .leaf (.text (a ++ b)) {} :: rest) ∨
    ((∀ m ∈ nodes.head?, Apart n m) ∧ pushed n nodes = n :: nodes) := by
  unfold pushed
  split
  · exact .inl ⟨_, _, _, _, _, rfl, rfl, rfl⟩
  · next hother =>
    refine .inr ⟨fun m hm ⟨hn, ht⟩ => ?_, rfl⟩
    obtain ⟨rest, rfl⟩ := List.head?_eq_some_iff.mp hm
    obtain ⟨a, ia, rfl⟩ := exists_of_isText hn
    obtain ⟨b, ib, rfl⟩ := exists_of_isText ht
    exact hother _ _ _ _ _ rfl rfl

theorem pushed_of_apart {m : Node} (h : Apart n m) : pushed n (m :: nodes) = n :: m :: nodes := by
  rcases pushed_cases n (m :: nodes) with ⟨a, ia, b, ib, rest, rfl, he, -⟩ | ⟨-, he⟩
  · cases he
    exact absurd ⟨rfl, rfl⟩ h
  · exact he

/-- The first node is of the same sort as the one in front. -/
theorem pushed_eq_cons (n : Node) (nodes : List Node) :
    ∃ m rest, pushed n nodes = m :: rest ∧ m.isText = n.isText := by
  rcases pushed_cases n nodes with ⟨a, ia, b, ib, rest, rfl, rfl, he⟩ | ⟨-, he⟩
  · exact ⟨_, _, he, rfl⟩
  · exact ⟨_, _, he, rfl⟩

/-- A text becomes the front of the first text. -/
theorem pushed_text (s : String) (nodes : List Node) :
    ∃ behind rest, pushed (.leaf (.text s) {}) nodes = .leaf (.text (s ++ behind)) {} :: rest := by
  rcases pushed_cases (.leaf (.text s) {}) nodes with ⟨a, ia, b, ib, rest, hn, rfl, he⟩ | ⟨-, he⟩
  · cases hn
    exact ⟨b, rest, he⟩
  · exact ⟨"", nodes, by rw [he, String.append_empty]⟩

/-- **A text may come in two parts.** -/
theorem pushed_append (r s : String) (nodes : List Node) :
    pushed (.leaf (.text (r ++ s)) {}) nodes =
      pushed (.leaf (.text r) {}) (pushed (.leaf (.text s) {}) nodes) := by
  rcases pushed_cases (.leaf (.text s) {}) nodes with ⟨a, ia, b, ib, rest, hn, rfl, he⟩ | ⟨ha, he⟩
  · cases hn
    rw [he]
    simp only [pushed, String.append_assoc]
  · rw [he]
    rcases pushed_cases (.leaf (.text (r ++ s)) {}) nodes with
      ⟨a, ia, b, ib, rest, -, rfl, -⟩ | ⟨-, h⟩
    · exact absurd ⟨rfl, rfl⟩ (ha _ rfl)
    · rw [h]
      rfl

/-- Nodes that are not both texts do not meet, whatever comes behind them. -/
theorem pushed_pushed {m : Node} (h : Apart n m) (nodes : List Node) :
    pushed n (pushed m nodes) = n :: pushed m nodes := by
  obtain ⟨first, rest, he, htext⟩ := pushed_eq_cons m nodes
  rw [he]
  refine pushed_of_apart fun hboth => h ?_
  rwa [htext] at hboth

/-- **No texts meet** when a node is put in front, and its text comes in front. -/
theorem MergedTo.pushed {s : String} (hn : n.MergedBelow) (h : MergedTo s nodes) :
    MergedTo (n.plainText ++ s) (pushed n nodes) := by
  obtain ⟨hmerged, hbelow, rfl⟩ := h
  rcases pushed_cases n nodes with ⟨a, ia, b, ib, rest, rfl, rfl, he⟩ | ⟨hapart, he⟩
  · obtain ⟨hhead, hrest⟩ := List.isChain_cons.mp hmerged
    rw [he]
    constructor
    · exact List.isChain_cons.mpr ⟨hhead, hrest⟩
    · exact List.forall_mem_cons.mpr ⟨mergedBelow_leaf _ _, (List.forall_mem_cons.mp hbelow).2⟩
    · simp only [plainTexts, plainText, Leaf.literal, String.append_assoc]
  · rw [he]
    exact ⟨List.isChain_cons.mpr ⟨hapart, hmerged⟩, List.forall_mem_cons.mpr ⟨hn, hbelow⟩, rfl⟩

/-- What is part of a text is part of it when more comes in front. -/
theorem holdsText_pushed {s : String} (n : Node) (h : ∃ m ∈ nodes, m.HoldsText s) :
    ∃ m ∈ pushed n nodes, m.HoldsText s := by
  obtain ⟨m, hm, hs⟩ := h
  rcases pushed_cases n nodes with ⟨a, ia, b, ib, rest, rfl, rfl, he⟩ | ⟨-, he⟩
  · rw [he]
    rcases List.mem_cons.mp hm with rfl | hm
    · refine ⟨_, List.mem_cons_self .., fun parent => ?_⟩
      obtain ⟨q, hq, before, behind, htext⟩ := hs parent
      rw [members_leaf, List.mem_singleton] at hq
      subst hq
      cases htext
      refine ⟨_, self_mem_members _ _, a ++ before, behind, ?_⟩
      simp only [String.append_assoc]
    · exact ⟨m, List.mem_cons_of_mem _ hm, hs⟩
  · rw [he]
    exact ⟨m, List.mem_cons_of_mem _ hm, hs⟩

end Pushed

end Node

/-! ## Inline tokens -/

/-- Whether a value can be a key of a dictionary. -/
def Value.isKey : Value → Bool
  | .list _ | .dict _ | .keyed _ => false
  | _ => true

/-- Whether tokens of the type hold other tokens. -/
def InlineKind.isContainer : InlineKind → Bool
  | .link | .image | .span _ => true
  | _ => false

/-- The text that a token of the type adds by itself, if its literal text is `raw`. -/
def InlineKind.ownText (raw : String) : InlineKind → String
  | .lineBreak _ => " "
  | .footnoteReference => ""
  | _ => raw

namespace Token

/-- The type of an inline token, if it is known. -/
def inlineKind? (t : Token) : Option InlineKind := t.typeName?.bind InlineKind.named?

/-- Whether the token is of a known type that holds other tokens. -/
def isContainer (t : Token) : Bool := t.inlineKind?.any InlineKind.isContainer

/-- The literal text of a token. -/
def rawText (t : Token) : String :=
  match t.field? "raw" with
  | some (.str s) => s
  | _ => ""

/-- The text that a token adds by itself. -/
def ownText (t : Token) : String := t.inlineKind?.elim "" (InlineKind.ownText t.rawText)

mutual

/-- The text of a token: that of its children, if it is a container with a list of them. -/
def spelled : Token → String
  | .mk fields listed children =>
    let t := Token.mk fields listed children
    if t.isContainer && listed then spelledAll children else t.ownText
  | .stray _ => ""

/-- The text of some tokens. -/
def spelledAll : List Token → String
  | [] => ""
  | t :: rest => spelled t ++ spelledAll rest

end

/-- A token whose literal text is a text, if it has one. -/
def HasRawText (t : Token) : Prop := ∀ v ∈ t.field? "raw", v.isText = true

instance (t : Token) : Decidable t.HasRawText :=
  inferInstanceAs (Decidable (∀ v ∈ t.field? "raw", v.isText = true))

/-- A text token with the literal text `s`. -/
structure IsText (s : String) (t : Token) : Prop where
  type : t.field? "type" = some (.str "text")
  raw : t.field? "raw" = some (.str s)

/-- A token of an unknown type. -/
structure IsUnknown (t : Token) : Prop where
  record : t.isRecord = true
  key : t.type.isKey = true
  unknown : t.inlineKind? = none

/-! ## Outlines -/

/-- What is known of an inline token without its content. -/
inductive Outline
  | skipped
  | leaf (n : Node)
  | box (kind : Container) (info : Info)

/-- The node with an outline and a content. -/
def Outline.filled (content : Reading (List Node)) : Outline → Reading (Option Node)
  | .skipped => pure none
  | .leaf n => pure (some n)
  | .box kind info => (fun nodes => some (.box kind info nodes)) <$> content

/-- The type of a token is looked up, so it must be a key. -/
def checkKey (t : Token) : Reading Unit := if t.type.isKey then pure () else throw .wrongKind

/-- The outline of an inline token. -/
def outline (t : Token) : Reading Outline := do
  checkKey t
  match t.inlineKind? with
  | none => noteSkipped "inline" t.type; pure .skipped
  | some .text => pure (.leaf (rawLeaf .text t))
  | some .code => pure (.leaf (rawLeaf .code t))
  | some .html => pure (.leaf (rawLeaf .htmlInline t))
  | some .math => pure (.leaf (rawLeaf .mathInline t))
  | some (.lineBreak soft) => pure (.leaf (.leaf (.lineBreak soft) {}))
  | some .footnoteReference => .leaf <$> footnoteReference t
  | some (.span kind) => pure (.box kind {})
  | some .link =>
    let (url, title, info) := targetFields (← t.attributes)
    pure (.box (.link url title) info)
  | some .image =>
    let (url, title, info) := targetFields (← t.attributes)
    pure (.box (.image url title) info)

/-- What an inline container holds. -/
def content (t : Token) : Reading (List Node) :=
  if t.listed then inlines t.children else pure (rawContent t)

/-- **The node of a token** is its outline, filled with its content. -/
theorem inline_mk (fields : List (String × Value)) (listed : Bool) (children : List Token) :
    inline (.mk fields listed children) = (do
      let o ← outline (.mk fields listed children)
      o.filled (content (.mk fields listed children))) := by
  generalize ht : Token.mk fields listed children = t
  have hcontent : t.content = if listed then inlinesBehind [] children else pure (rawContent t) := by
    subst ht
    rfl
  rw [← ht, inline, ht, outline, checkKey]
  cases t.type with
  | list _ | dict _ | keyed _ => rfl
  | _ =>
    -- the type can be looked up, so both sides split on what it is
    simp only [Value.isKey, if_true, pure_bind]
    unfold inlineKind?
    cases t.typeName?.bind InlineKind.named? with
    | none => simp [Outline.filled]
    | some kind => cases listed <;> cases kind <;> simp [Outline.filled, hcontent]

/-- What holds of the outline of a token. -/
def Outline.Fits (t : Token) : Outline → Prop
  | .skipped => t.isContainer = false ∧ t.ownText = ""
  | .leaf n => t.isContainer = false ∧ n.plainText = t.ownText ∧ n.IsClean ∧ n.MergedBelow
  | .box _ _ => t.isContainer = true ∧ t.ownText = t.rawText

theorem rawLeaf_of_hasRawText {t : Token} (h : t.HasRawText) (leaf : String → Leaf) :
    rawLeaf leaf t = .leaf (leaf t.rawText) {} := by
  unfold rawLeaf rawText
  cases hv : t.field? "raw" with
  | none => rfl
  | some v =>
    have hs := h v hv
    cases v with
    | str s => rfl
    | _ => cases hs

section Fits

variable {t : Token} {kind : InlineKind} (hk : t.inlineKind? = some kind)

include hk

theorem fits_leaf (hc : kind.isContainer = false) {leaf : Leaf} {info : Info}
    (htext : leaf.literal = kind.ownText t.rawText) (hclean : (Node.leaf leaf info).IsClean) :
    Outline.Fits t (.leaf (.leaf leaf info)) := by
  refine ⟨?_, ?_, hclean, Node.mergedBelow_leaf _ _⟩
  · rw [isContainer, hk]
    exact hc
  · rw [Node.plainText, htext, ownText, hk]
    rfl

theorem fits_rawLeaf (h : t.HasRawText) (hc : kind.isContainer = false) (leaf : String → Leaf)
    (htext : (leaf t.rawText).literal = kind.ownText t.rawText) :
    Outline.Fits t (.leaf (rawLeaf leaf t)) := by
  rw [rawLeaf_of_hasRawText h]
  refine fits_leaf hk hc htext ?_
  cases leaf t.rawText <;> trivial

theorem fits_box (hc : kind.isContainer = true) (htext : kind.ownText t.rawText = t.rawText)
    (box : Container) (info : Info) : Outline.Fits t (.box box info) := by
  constructor
  · rw [isContainer, hk]
    exact hc
  · rw [ownText, hk]
    exact htext

end Fits

theorem fits_skipped {t : Token} (hk : t.inlineKind? = none) : Outline.Fits t .skipped := by
  constructor
  · rw [isContainer, hk]
    rfl
  · rw [ownText, hk]
    rfl

/-- **The outline of a token fits it**, if literal texts are texts. -/
theorem ensures_outline {t : Token} (h : t.HasRawText) : Ensures (outline t) (Outline.Fits t) := by
  refine Ensures.after fun _ => ?_
  split
  · next hk => exact Ensures.after fun _ => ensures_pure (fits_skipped hk)
  · next hk => exact ensures_pure (fits_rawLeaf hk h rfl _ rfl)
  · next hk => exact ensures_pure (fits_rawLeaf hk h rfl _ rfl)
  · next hk => exact ensures_pure (fits_rawLeaf hk h rfl _ rfl)
  · next hk => exact ensures_pure (fits_rawLeaf hk h rfl _ rfl)
  · next hk => exact ensures_pure (fits_leaf hk rfl rfl trivial)
  · next hk =>
    refine Ensures.map (Ensures.after fun attrs => ensures_pure ?_)
    exact fits_leaf hk rfl rfl trivial
  · next hk => exact ensures_pure (fits_box hk rfl rfl _ _)
  · next hk => exact Ensures.after fun _ => ensures_pure (fits_box hk rfl rfl _ _)
  · next hk => exact Ensures.after fun _ => ensures_pure (fits_box hk rfl rfl _ _)

/-- What holds of the node of a token, if it holds of every node that fits it. -/
theorem ensures_inline_mk {fields : List (String × Value)} {listed : Bool} {children : List Token}
    {P : List Node → Prop} {Q : Option Node → Prop}
    (h : (Token.mk fields listed children).HasRawText)
    (hcontent : Ensures (content (.mk fields listed children)) P)
    (hskipped : Outline.skipped.Fits (.mk fields listed children) → Q none)
    (hleaf : ∀ n, (Outline.leaf n).Fits (.mk fields listed children) → Q (some n))
    (hbox : ∀ kind info, (Outline.box kind info).Fits (.mk fields listed children) →
      ∀ nodes, P nodes → Q (some (.box kind info nodes))) :
    Ensures (inline (.mk fields listed children)) Q := by
  rw [inline_mk]
  refine (ensures_outline h).bind fun o ho => ?_
  cases o with
  | skipped => exact ensures_pure (hskipped ho)
  | leaf n => exact ensures_pure (hleaf n ho)
  | box kind info => exact (hcontent.imp (hbox kind info ho)).map

/-! ## A token and those behind it -/

/-- A token that does not give a text with another value in place of its literal text. -/
def GivesClean (t : Token) : Prop := Ensures (inline t) fun o => ∀ n ∈ o, n.IsClean

theorem givesClean_of_hasRawText {t : Token} (h : t.HasRawText) : t.GivesClean := by
  unfold GivesClean
  cases t with
  | stray v =>
    rw [inline]
    exact ensures_throw _
  | mk fields listed children =>
    refine ensures_inline_mk h ensures_true ?_ ?_ ?_
    · rintro - n ⟨⟩
    · rintro n ⟨-, -, hclean, -⟩ m ⟨⟩
      exact hclean
    · rintro kind info - nodes - m ⟨⟩
      trivial

theorem forall_mem_all_of_mem {P : Token → Prop} {tokens : List Token} (h : ∀ s ∈ allIn tokens, P s)
    {t : Token} (ht : t ∈ tokens) : ∀ s ∈ all t, P s := by
  induction tokens with
  | nil => cases ht
  | cons u rest ih =>
    obtain ⟨hu, hrest⟩ := forall_mem_allIn_cons.mp h
    rcases List.mem_cons.mp ht with rfl | ht
    · exact hu
    · exact ih hrest ht

theorem givesClean_of_all {tokens : List Token} (h : ∀ s ∈ allIn tokens, s.HasRawText) :
    ∀ t ∈ tokens, t.GivesClean := fun _ ht =>
  givesClean_of_hasRawText (forall_mem_all.mp (forall_mem_all_of_mem h ht)).1

section Behind

variable {n m : Node} {before : List Node}

theorem addInline_text (a b : String) : addInline (.leaf (.text b) {}) (.leaf (.text a) {} :: before) =
    pure (.leaf (.text (a ++ b)) {} :: before) := rfl

theorem addInline_apart (h : Node.Apart n m) : addInline m (n :: before) = pure (m :: n :: before) := by
  unfold addInline
  split
  · next a ia before b ib he =>
    cases he
    exact absurd ⟨rfl, rfl⟩ h
  · rfl

/-- Joining a node to the nodes that come is as good as joining those to it. -/
theorem inlinesBehind_cons (hn : n.IsClean) : ∀ tokens : List Token, (∀ t ∈ tokens, t.GivesClean) →
    inlinesBehind (n :: before) tokens =
      (fun nodes => before.reverse ++ Node.pushed n nodes) <$> inlines tokens := by
  intro tokens
  induction tokens generalizing n before with
  | nil =>
    intro _
    rw [inlines, inlinesBehind, inlinesBehind, map_pure, List.reverse_cons]
    cases n with
    | leaf kind info => cases kind <;> rfl
    | box kind info children => rfl
  | cons t rest ih =>
    intro h
    obtain ⟨ht, hrest⟩ := List.forall_mem_cons.mp h
    rw [inlines, inlinesBehind, inlinesBehind, map_bind]
    refine bind_congr_of_ensures ht fun o ho => ?_
    cases o with
    | none => exact ih hn hrest
    | some m =>
      have hm : m.IsClean := ho m rfl
      have hfirst : addInline m [] = pure [m] := rfl
      simp only
      -- the node is joined to the one before it here, and to those behind it there
      rw [hfirst, pure_bind, ih hm hrest, Functor.map_map]
      by_cases hapart : Node.Apart n m
      · rw [addInline_apart hapart, pure_bind, ih hm hrest]
        refine congrArg (· <$> inlines rest) (funext fun nodes => ?_)
        rw [List.reverse_cons, List.append_assoc, List.singleton_append, List.reverse_nil,
          List.nil_append, Node.pushed_pushed hapart]
      · obtain ⟨hntext, hmtext⟩ := Decidable.not_not.mp hapart
        obtain ⟨a, ia, rfl⟩ := Node.exists_of_isText hntext
        obtain ⟨b, ib, rfl⟩ := Node.exists_of_isText hmtext
        obtain rfl : ia = {} := hn
        obtain rfl : ib = {} := hm
        have hclean : (Node.leaf (.text (a ++ b)) {}).IsClean := rfl
        rw [addInline_text, pure_bind, ih hclean hrest]
        refine congrArg (· <$> inlines rest) (funext fun nodes => ?_)
        rw [List.reverse_nil, List.nil_append, Node.pushed_append]

end Behind

/-- **The nodes of a token and of those behind it.** If the token gives a node, it comes in front of the
others, or becomes one with the first of them. -/
theorem inlines_cons {t : Token} {rest : List Token} (ht : t.GivesClean)
    (hrest : ∀ u ∈ rest, u.GivesClean) : inlines (t :: rest) = (do
      let o ← inline t
      (fun nodes => o.elim nodes fun n => Node.pushed n nodes) <$> inlines rest) := by
  rw [inlines, inlinesBehind]
  refine bind_congr_of_ensures ht fun o ho => ?_
  cases o with
  | none => exact (id_map _).symm
  | some n =>
    have hfirst : addInline n [] = pure [n] := rfl
    simp only
    rw [hfirst, pure_bind, inlinesBehind_cons (ho n rfl) rest hrest]
    rfl

/-! ## The nodes of tokens -/

theorem rawContent_of_hasRawText {t : Token} (h : t.HasRawText) :
    rawContent t = if t.rawText = "" then [] else [.leaf (.text t.rawText) {}] := by
  unfold rawContent rawText
  cases hv : t.field? "raw" with
  | none => rfl
  | some v =>
    have hs := h v hv
    cases v with
    | str s =>
      by_cases he : s = ""
      · subst he
        rfl
      · have htrue : (Value.str s).isTrue = true := by simp [Value.isTrue, he]
        simp only [htrue, he, if_true, if_false]
        rfl
    | _ => cases hs

theorem mergedTo_rawContent {t : Token} (h : t.HasRawText) :
    Node.MergedTo t.rawText (rawContent t) := by
  rw [rawContent_of_hasRawText h]
  by_cases he : t.rawText = ""
  · rw [if_pos he, he]
    exact ⟨List.isChain_nil, List.forall_mem_nil _, rfl⟩
  · rw [if_neg he]
    refine ⟨List.isChain_singleton _, List.forall_mem_singleton.mpr (Node.mergedBelow_leaf _ _), ?_⟩
    exact String.append_empty

theorem spelled_of_container {fields : List (String × Value)} {listed : Bool} {children : List Token}
    (hk : (Token.mk fields listed children).isContainer = true)
    (htext : (Token.mk fields listed children).ownText = (Token.mk fields listed children).rawText) :
    spelled (.mk fields listed children) =
      if listed then spelledAll children else (Token.mk fields listed children).rawText := by
  rw [spelled]
  simp only [hk, htext, Bool.true_and]

theorem spelled_of_not_container {t : Token} (h : t.isRecord = true) (hk : t.isContainer = false) :
    t.spelled = t.ownText := by
  cases t with
  | stray v => cases h
  | mk fields listed children =>
    rw [spelled]
    simp only [hk, Bool.false_and, Bool.false_eq_true, if_false]

mutual

theorem ensures_inline_spelled : ∀ t : Token, (∀ s ∈ all t, s.HasRawText) →
    Ensures (inline t) fun o => o.elim "" Node.plainText = spelled t ∧ ∀ n ∈ o, n.MergedBelow
  | .stray v, _ => by
    rw [inline]
    exact ensures_throw _
  | .mk fields listed children, h => by
    obtain ⟨hself, hc⟩ := forall_mem_all_mk.mp h
    have hcontent : Ensures (content (.mk fields listed children)) (Node.MergedTo
        (if listed then spelledAll children else (Token.mk fields listed children).rawText)) := by
      cases listed with
      | true => exact ensures_inlines children hc
      | false => exact ensures_pure (mergedTo_rawContent hself)
    refine ensures_inline_mk hself hcontent ?_ ?_ ?_
    · rintro ⟨hk, htext⟩
      constructor
      · rw [spelled_of_not_container rfl hk, htext]
        rfl
      · rintro n ⟨⟩
    · rintro n ⟨hk, htext, -, hbelow⟩
      constructor
      · rw [spelled_of_not_container rfl hk, ← htext]
        rfl
      · rintro m ⟨⟩
        exact hbelow
    · rintro kind info ⟨hk, htext⟩ nodes hnodes
      constructor
      · rw [spelled_of_container hk htext, ← hnodes.text]
        rfl
      · rintro m ⟨⟩
        exact Node.mergedBelow_box hnodes.merged hnodes.below

/-- **No texts meet among the nodes of tokens**, and these have the text of the tokens. -/
theorem ensures_inlines : ∀ tokens : List Token, (∀ s ∈ allIn tokens, s.HasRawText) →
    Ensures (inlines tokens) (Node.MergedTo (spelledAll tokens))
  | [], _ => by
    rw [inlines, inlinesBehind]
    exact ensures_pure ⟨List.isChain_nil, List.forall_mem_nil _, rfl⟩
  | t :: rest, h => by
    obtain ⟨ht, hrest⟩ := forall_mem_allIn_cons.mp h
    obtain ⟨hclean, hcleanRest⟩ := List.forall_mem_cons.mp (givesClean_of_all h)
    rw [inlines_cons hclean hcleanRest]
    refine (ensures_inline_spelled t ht).bind fun o ⟨htext, hbelow⟩ => ?_
    refine ((ensures_inlines rest hrest).imp fun nodes hnodes => ?_).map
    rw [spelledAll, ← htext]
    cases o with
    | none => rwa [Option.elim_none, Option.elim_none, String.empty_append]
    | some n => exact hnodes.pushed (hbelow n rfl)

end

/-! ## Texts in two parts -/

theorem sameResult_addInline (n : Node) (before : List Node) :
    SameResult (addInline n before) (addInline n before) := by
  unfold addInline
  split
  · refine SameResult.bind ?_ fun _ => sameResult_pure _
    unfold joined
    split
    · exact sameResult_pure _
    · exact sameResult_throw _
    · exact sameResult_throw _
  · exact sameResult_pure _

theorem sameResult_attributes (t : Token) : SameResult t.attributes t.attributes := by
  unfold attributes
  refine SameResult.bind ?_ fun _ => ?_
  · cases t with
    | mk fields listed children => exact sameResult_pure _
    | stray v => exact sameResult_throw _
  · split
    · exact sameResult_pure _
    · exact sameResult_pure _
    · split
      · exact sameResult_throw _
      · exact sameResult_pure _
    · exact sameResult_pure _

theorem sameResult_outline (t : Token) : SameResult t.outline t.outline := by
  unfold outline checkKey
  refine SameResult.bind ?_ fun _ => ?_
  · split
    · exact sameResult_pure _
    · exact sameResult_throw _
  · split
    · exact (sameResult_note _ _).bind fun _ => sameResult_pure _
    · exact sameResult_pure _
    · exact sameResult_pure _
    · exact sameResult_pure _
    · exact sameResult_pure _
    · exact sameResult_pure _
    · exact ((sameResult_attributes t).bind fun _ => sameResult_pure _).map _
    · exact sameResult_pure _
    · exact (sameResult_attributes t).bind fun _ => sameResult_pure _
    · exact (sameResult_attributes t).bind fun _ => sameResult_pure _

/-- A token has the same node if its children have the same nodes. -/
theorem sameResult_inline_mk {fields : List (String × Value)} {listed : Bool}
    {children children' : List Token} (h : SameResult (inlines children) (inlines children')) :
    SameResult (inline (.mk fields listed children)) (inline (.mk fields listed children')) := by
  have houtline : outline (.mk fields listed children') = outline (.mk fields listed children) := rfl
  have hcontent : SameResult (content (.mk fields listed children))
      (content (.mk fields listed children')) := by
    cases listed with
    | true => exact h
    | false => exact sameResult_pure _
  rw [inline_mk, inline_mk, houtline]
  refine (sameResult_outline _).bind fun o => ?_
  cases o with
  | skipped => exact sameResult_pure _
  | leaf n => exact sameResult_pure _
  | box kind info => exact hcontent.map _

mutual

theorem sameResult_inlinesBehind : ∀ (tokens : List Token) (before : List Node),
    SameResult (inlinesBehind before tokens) (inlinesBehind before tokens)
  | [], before => by
    rw [inlinesBehind]
    exact sameResult_pure _
  | t :: rest, before => by
    rw [inlinesBehind]
    refine (sameResult_inline t).bind fun o => ?_
    cases o with
    | none => exact sameResult_inlinesBehind rest before
    | some n =>
      exact (sameResult_addInline n before).bind fun nodes => sameResult_inlinesBehind rest nodes

/-- What a token means does not depend on the log. -/
theorem sameResult_inline : ∀ t : Token, SameResult (inline t) (inline t)
  | .stray v => by
    rw [inline]
    exact sameResult_throw _
  | .mk fields listed children => sameResult_inline_mk (sameResult_inlinesBehind children [])

end

theorem sameResult_inlines (tokens : List Token) : SameResult (inlines tokens) (inlines tokens) :=
  sameResult_inlinesBehind tokens []

section Texts

variable {t : Token} {rest : List Token}

theorem inline_of_isText {s : String} (h : t.IsText s) :
    inline t = pure (some (.leaf (.text s) {})) := by
  have hraw : t.HasRawText := by
    rw [HasRawText, h.raw]
    rintro v ⟨⟩
    rfl
  have hkind : t.inlineKind? = some .text := by
    rw [inlineKind?, typeName?, type, h.type]
    rfl
  have hs : t.rawText = s := by rw [rawText, h.raw]
  have hkey : t.checkKey = pure () := by
    rw [checkKey, type, h.type]
    rfl
  cases t with
  | stray v => cases h.type
  | mk fields listed children =>
    rw [inline_mk, outline, hkey, pure_bind, hkind]
    simp only
    rw [rawLeaf_of_hasRawText hraw, hs, pure_bind, Outline.filled]

theorem IsText.givesClean {s : String} (h : t.IsText s) : t.GivesClean := by
  rw [GivesClean, inline_of_isText h]
  refine ensures_pure fun n hn => ?_
  obtain rfl := Option.some.inj hn
  rfl

/-- A text comes in front of the nodes that come. -/
theorem inlines_of_isText {s : String} (h : t.IsText s) (hrest : ∀ u ∈ rest, u.GivesClean) :
    inlines (t :: rest) = Node.pushed (.leaf (.text s) {}) <$> inlines rest := by
  rw [inlines_cons h.givesClean hrest, inline_of_isText h, pure_bind]
  rfl

theorem inline_of_isUnknown (h : t.IsUnknown) :
    inline t = (do noteSkipped "inline" t.type; pure none) := by
  cases t with
  | stray v => cases h.record
  | mk fields listed children =>
    rw [inline_mk, outline, checkKey, if_pos h.key, pure_bind, h.unknown]
    simp only [bind_assoc, pure_bind]
    rfl

theorem IsUnknown.givesClean (h : t.IsUnknown) : t.GivesClean := by
  rw [GivesClean, inline_of_isUnknown h]
  refine Ensures.after fun _ => ensures_pure ?_
  rintro n ⟨⟩

/-- A token of an unknown type is noted and left out. -/
theorem inlines_of_isUnknown (h : t.IsUnknown) :
    inlines (t :: rest) = (do noteSkipped "inline" t.type; inlines rest) := by
  rw [inlines, inlinesBehind, inline_of_isUnknown h, bind_assoc]
  simp only [pure_bind]
  rfl

/-- Tokens of unknown types make no difference. -/
theorem sameResult_skip {x : Reading (List Node)} {skipped : List Token}
    (h : ∀ u ∈ skipped, u.IsUnknown) (hx : SameResult x (inlines rest)) :
    SameResult x (inlines (skipped ++ rest)) := by
  induction skipped with
  | nil => exact hx
  | cons u more ih =>
    obtain ⟨hu, hmore⟩ := List.forall_mem_cons.mp h
    rw [List.cons_append, inlines_of_isUnknown hu]
    exact (ih hmore).note _ _

end Texts

/-- Tokens in which a text, at any depth, is cut in two. Tokens of unknown types may stand before,
between and behind the parts. -/
inductive Split : List Token → List Token → Prop
  | here {t t₁ t₂ : Token} {r s : String} {front middle back rest : List Token} :
    t.IsText (r ++ s) → t₁.IsText r → t₂.IsText s → (∀ u ∈ front, u.IsUnknown) →
    (∀ u ∈ middle, u.IsUnknown) → (∀ u ∈ back, u.IsUnknown) →
    Split (t :: rest) (front ++ t₁ :: (middle ++ t₂ :: (back ++ rest)))
  | inside {fields : List (String × Value)} {listed : Bool} {children children' rest : List Token} :
    Split children children' →
    Split (.mk fields listed children :: rest) (.mk fields listed children' :: rest)
  | later {t : Token} {rest rest' : List Token} : Split rest rest' → Split (t :: rest) (t :: rest')

/-- **To cut a text in two makes no difference.** -/
theorem Split.sameResult {tokens tokens' : List Token} (h : Split tokens tokens') :
    (∀ s ∈ allIn tokens, s.HasRawText) →
      (∀ t ∈ tokens', t.GivesClean) ∧ SameResult (inlines tokens) (inlines tokens') := by
  induction h with
  | @here t t₁ t₂ r s front middle back rest ht h₁ h₂ hfront hmiddle hback =>
    intro hraw
    have hrest : ∀ u ∈ rest, u.GivesClean := fun u hu =>
      givesClean_of_all hraw u (List.mem_cons_of_mem _ hu)
    have hskip {us more : List Token} (hu : ∀ u ∈ us, u.IsUnknown)
        (hmore : ∀ u ∈ more, u.GivesClean) : ∀ u ∈ us ++ more, u.GivesClean :=
      List.forall_mem_append.mpr ⟨fun u hm => (hu u hm).givesClean, hmore⟩
    have hclean₂ := hskip hback hrest
    have hclean₁ := hskip hmiddle (List.forall_mem_cons.mpr ⟨h₂.givesClean, hclean₂⟩)
    refine ⟨hskip hfront (List.forall_mem_cons.mpr ⟨h₁.givesClean, hclean₁⟩), ?_⟩
    -- from the back: the second part comes in front of the rest, and the first part in front of both
    have hsecond : SameResult (Node.pushed (.leaf (.text s) {}) <$> inlines rest)
        (inlines (t₂ :: (back ++ rest))) := by
      rw [inlines_of_isText h₂ hclean₂]
      exact (sameResult_skip hback (sameResult_inlines rest)).map _
    have hboth : SameResult (Node.pushed (.leaf (.text r) {}) <$>
        Node.pushed (.leaf (.text s) {}) <$> inlines rest)
        (inlines (t₁ :: (middle ++ t₂ :: (back ++ rest)))) := by
      rw [inlines_of_isText h₁ hclean₁]
      exact (sameResult_skip hmiddle hsecond).map _
    have hwhole : inlines (t :: rest) = Node.pushed (.leaf (.text r) {}) <$>
        Node.pushed (.leaf (.text s) {}) <$> inlines rest := by
      rw [inlines_of_isText ht hrest, Functor.map_map]
      exact congrArg (· <$> inlines rest) (funext fun nodes => Node.pushed_append r s nodes)
    rw [hwhole]
    exact sameResult_skip hfront hboth
  | @inside fields listed children children' rest _ ih =>
    intro hraw
    obtain ⟨ht, hrest⟩ := forall_mem_allIn_cons.mp hraw
    obtain ⟨hself, hc⟩ := forall_mem_all_mk.mp ht
    have hclean := givesClean_of_hasRawText hself
    have hclean' : (Token.mk fields listed children').GivesClean :=
      givesClean_of_hasRawText fun v hv => hself v hv
    have hcleanRest := givesClean_of_all hrest
    refine ⟨List.forall_mem_cons.mpr ⟨hclean', hcleanRest⟩, ?_⟩
    rw [inlines_cons hclean hcleanRest, inlines_cons hclean' hcleanRest]
    exact (sameResult_inline_mk (ih hc).2).bind fun o => (sameResult_inlines rest).map _
  | @later t rest rest' _ ih =>
    intro hraw
    obtain ⟨ht, hrest⟩ := forall_mem_allIn_cons.mp hraw
    obtain ⟨hclean', hsame⟩ := ih hrest
    have hclean := givesClean_of_hasRawText (forall_mem_all.mp ht).1
    refine ⟨List.forall_mem_cons.mpr ⟨hclean, hclean'⟩, ?_⟩
    rw [inlines_cons hclean (givesClean_of_all hrest), inlines_cons hclean hclean']
    exact (sameResult_inline t).bind fun o => hsame.map _

/-! ## Texts in several tokens -/

/-- Text tokens in a row, with tokens of unknown types among them, and their text. -/
inductive Spells : String → List Token → Prop
  | nil : Spells "" []
  | text {r s : String} {t : Token} {run : List Token} :
    t.IsText r → Spells s run → Spells (r ++ s) (t :: run)
  | unknown {s : String} {u : Token} {run : List Token} :
    u.IsUnknown → Spells s run → Spells s (u :: run)

/-- A run of tokens stands among some tokens, or among the children of a container in them. -/
inductive Within (run : List Token) : List Token → Prop
  | here (front back : List Token) : Within run (front ++ (run ++ back))
  | inside {fields : List (String × Value)} {children front back : List Token} :
    (Token.mk fields true children).isContainer = true → Within run children →
    Within run (front ++ Token.mk fields true children :: back)

section Runs

variable {s : String} {run back : List Token}

theorem Spells.givesClean (h : Spells s run) : ∀ t ∈ run, t.GivesClean := by
  induction h with
  | nil => exact List.forall_mem_nil _
  | text ht _ ih => exact List.forall_mem_cons.mpr ⟨ht.givesClean, ih⟩
  | unknown hu _ ih => exact List.forall_mem_cons.mpr ⟨hu.givesClean, ih⟩

/-- The text of a run stands at the front of a single node. -/
theorem Spells.ensures_inlines (h : Spells s run) (hback : ∀ t ∈ back, t.GivesClean) :
    Ensures (inlines (run ++ back)) fun nodes =>
      s = "" ∨ ∃ behind rest, nodes = .leaf (.text (s ++ behind)) {} :: rest := by
  induction h with
  | nil => exact ensures_true.imp fun _ _ => .inl rfl
  | @text r s t run ht hrun ih =>
    rw [List.cons_append, inlines_of_isText ht (List.forall_mem_append.mpr ⟨hrun.givesClean, hback⟩)]
    refine (ih.imp fun nodes hnodes => .inr ?_).map
    rcases hnodes with rfl | ⟨behind, rest, rfl⟩
    · rw [String.append_empty]
      exact Node.pushed_text r nodes
    · exact ⟨behind, rest, by rw [String.append_assoc]; rfl⟩
  | unknown hu _ ih =>
    rw [List.cons_append, inlines_of_isUnknown hu]
    exact Ensures.after fun _ => ih

/-- What is found among the nodes of tokens is found if more tokens come in front. -/
theorem ensures_holdsText_append {front tokens : List Token} (hfront : ∀ t ∈ front, t.GivesClean)
    (hclean : ∀ t ∈ tokens, t.GivesClean)
    (h : Ensures (inlines tokens) fun nodes => ∃ n ∈ nodes, n.HoldsText s) :
    Ensures (inlines (front ++ tokens)) fun nodes => ∃ n ∈ nodes, n.HoldsText s := by
  induction front with
  | nil => exact h
  | cons t front ih =>
    obtain ⟨ht, hrest⟩ := List.forall_mem_cons.mp hfront
    rw [List.cons_append, inlines_cons ht (List.forall_mem_append.mpr ⟨hrest, hclean⟩)]
    refine Ensures.after fun o => ((ih hrest).imp fun nodes hnodes => ?_).map
    cases o with
    | none => exact hnodes
    | some n => exact Node.holdsText_pushed n hnodes

/-- **The text of a run is found in one node**, at any depth. -/
theorem ensures_holdsText (h : Spells s run) (hs : s ≠ "") {tokens : List Token}
    (hrun : Within run tokens) : (∀ t ∈ allIn tokens, t.HasRawText) →
      Ensures (inlines tokens) fun nodes => ∃ n ∈ nodes, n.HoldsText s := by
  induction hrun with
  | here front back =>
    intro hraw
    obtain ⟨hfront, hrest⟩ := List.forall_mem_append.mp (givesClean_of_all hraw)
    have hback := (List.forall_mem_append.mp hrest).2
    refine ensures_holdsText_append hfront hrest ((h.ensures_inlines hback).imp fun nodes hnodes => ?_)
    obtain ⟨behind, rest, rfl⟩ := hnodes.resolve_left hs
    refine ⟨_, List.mem_cons_self .., fun parent => ⟨_, Node.self_mem_members _ _, "", behind, ?_⟩⟩
    rw [String.empty_append]
  | @inside fields children front back hk _ ih =>
    intro hraw
    -- the container has a node with the text in it, and this node is kept whatever is around it
    have hclean := givesClean_of_all hraw
    obtain ⟨hfront, hrest⟩ := List.forall_mem_append.mp hclean
    obtain ⟨ht, hback⟩ := List.forall_mem_cons.mp hrest
    have hmem : Token.mk fields true children ∈ front ++ Token.mk fields true children :: back :=
      List.mem_append_right _ (List.mem_cons_self ..)
    obtain ⟨hself, hc⟩ := forall_mem_all_mk.mp (forall_mem_all_of_mem hraw hmem)
    refine ensures_holdsText_append hfront hrest ?_
    rw [inlines_cons ht hback]
    have hbox : Ensures (inline (.mk fields true children)) fun o =>
        ∃ kind info nodes, o = some (.box kind info nodes) ∧ ∃ n ∈ nodes, n.HoldsText s := by
      refine ensures_inline_mk hself (ih hc) (fun ho => ?_) (fun n ho => ?_) ?_
      · cases hk.symm.trans ho.1
      · cases hk.symm.trans ho.1
      · exact fun kind info _ nodes hnodes => ⟨kind, info, nodes, rfl, hnodes⟩
    refine hbox.bind ?_
    rintro _ ⟨kind, info, nodes, rfl, hnodes⟩
    refine (ensures_true.imp fun more _ => ?_).map
    exact ⟨_, List.mem_cons_self .., Node.HoldsText.box kind info hnodes⟩

end Runs

end Token

/-! ## Placeholders -/

/-- A placeholder is found in a text that it is part of. -/
theorem Placeholder.exists_match_of_part {p : Placeholder} (hp : p.IsProper)
    (a b before behind : String) :
    ∃ m ∈ «matches» (before ++ (a ++ String.ofList p.source ++ b) ++ behind), m.placeholder = p := by
  have htext : before ++ (a ++ String.ofList p.source ++ b) ++ behind =
      before ++ a ++ String.ofList p.source ++ (b ++ behind) := by
    simp only [String.append_assoc]
  rw [htext, matches_around hp]
  exact ⟨_, List.mem_append_right _ (List.mem_cons_self ..), rfl⟩

theorem Placeholder.part_ne_empty (p : Placeholder) (a b : String) :
    a ++ String.ofList p.source ++ b ≠ "" := by
  intro h
  have hlength := congrArg String.length h
  have hpos := p.source_length_pos
  simp only [String.length_append, String.length_ofList, String.length_empty] at hlength
  omega

namespace Token

/-- **Texts that meet become one, and it does not matter how a text is cut.** Tokens of the right shape
give nodes. No two texts stand side by side among the nodes of tokens or below them, and the nodes have
the text of the tokens. If a text is cut in two, with tokens of unknown types around the parts, the
result is the same. A placeholder that is cut into several tokens is found in one node. -/
theorem inlines_merged {tokens : List Token} (h : ∀ s ∈ allIn tokens, s.HasRawText) :
    ((∀ s ∈ allIn tokens, s.HasShape) → ∃ nodes, Yields (inlines tokens) nodes) ∧
      Ensures (inlines tokens) (fun nodes => Node.Merged nodes ∧
        (∀ n ∈ nodes, n.MergedBelow) ∧ plainText nodes = spelledAll tokens) ∧
      (∀ tokens', Split tokens tokens' → SameResult (inlines tokens) (inlines tokens')) ∧
      ∀ run s, Spells s run → Within run tokens → ∀ p : Placeholder, p.IsProper →
        ∀ a b, s = a ++ String.ofList p.source ++ b →
          Ensures (inlines tokens) fun nodes =>
            ∃ n ∈ nodes, ∃ q ∈ n.members none, ∃ content, q.node = .leaf (.text content) {} ∧
              ∃ m ∈ Placeholder.«matches» content, m.placeholder = p := by
  refine ⟨fun hshape => ?_, ?_, fun tokens' hsplit => (hsplit.sameResult h).2, ?_⟩
  · obtain ⟨nodes, hnodes, -⟩ := gives_inlinesBehind tokens [] hshape (List.forall_mem_nil _)
    exact ⟨nodes, hnodes⟩
  · refine (ensures_inlines tokens h).imp fun nodes hnodes => ⟨hnodes.merged, hnodes.below, ?_⟩
    rw [plainText_eq_plainTexts, hnodes.text]
  · rintro run s hs hrun p hp a b rfl
    refine (ensures_holdsText hs (p.part_ne_empty a b) hrun h).imp ?_
    rintro nodes ⟨n, hn, hholds⟩
    obtain ⟨q, hq, before, behind, htext⟩ := hholds none
    exact ⟨n, hn, q, hq, _, htext, Placeholder.exists_match_of_part hp a b before behind⟩

/-- A placeholder in a text of a container, and the same text cut in two. -/
theorem inlines_merged_cut :
    let text (s : String) : Token := .plain "text" [("raw", .str s)]
    let other : Token := .plain "other" []
    let tokens (content : List Token) : List Token :=
      [.node "strong" [] content, .plain "softbreak" [], text "d"]
    let whole := tokens [text "a %\x7bb_c\x7d"]
    let cut := tokens [other, text "a %\x7bb", other, text "_c\x7d"]
    let p : Placeholder := ⟨.plain, "b_c".toList⟩
    (∀ s ∈ allIn whole, s.HasRawText) ∧ (∀ s ∈ allIn cut, s.HasRawText) ∧
      SameResult (inlines whole) (inlines cut) ∧
      (∃ nodes, Yields (inlines cut) nodes ∧ Node.Merged nodes ∧
        plainText nodes = "a %\x7bb_c\x7d d") ∧
      Ensures (inlines cut) fun nodes =>
        ∃ n ∈ nodes, ∃ q ∈ n.members none, ∃ content, q.node = .leaf (.text content) {} ∧
          ∃ m ∈ Placeholder.«matches» content, m.placeholder = p := by
  intro text other tokens whole cut p
  have hwhole : ∀ s ∈ allIn whole, s.HasRawText := by decide
  have hcut : ∀ s ∈ allIn cut, s.HasRawText := by decide
  have htext (s : String) : (text s).IsText s := ⟨rfl, rfl⟩
  have hother : ∀ u ∈ [other], u.IsUnknown := List.forall_mem_singleton.mpr ⟨rfl, rfl, rfl⟩
  have hsplit : Split whole cut :=
    .inside (.here (htext _) (htext "a %\x7bb") (htext "_c\x7d") hother hother
      (List.forall_mem_nil _))
  have hspells : Spells ("a %\x7bb" ++ ("_c\x7d" ++ "")) [text "a %\x7bb", other, text "_c\x7d"] :=
    .text (htext _) (.unknown ⟨rfl, rfl, rfl⟩ (.text (htext _) .nil))
  have hwithin : Within [text "a %\x7bb", other, text "_c\x7d"] cut :=
    @Within.inside _ _ _ [] _ rfl (.here [other] [])
  have hp : p.IsProper := ⟨by decide, by decide, List.all_eq_true.mp (by decide +kernel)⟩
  obtain ⟨-, -, hsame, -⟩ := inlines_merged hwhole
  obtain ⟨hyields, hmerged, -, hfound⟩ := inlines_merged hcut
  obtain ⟨nodes, hnodes⟩ := hyields (by decide)
  refine ⟨hwhole, hcut, hsame cut hsplit, ⟨nodes, hnodes, ?_⟩, ?_⟩
  · obtain ⟨log, hrun⟩ := hnodes []
    obtain ⟨hmerge, -, htext⟩ := hmerged [] nodes log hrun
    exact ⟨hmerge, htext.trans (by decide +kernel)⟩
  · exact hfound _ _ hspells hwithin p hp "a " "" (by decide +kernel)

end Token

end FlavoredMarkdown
