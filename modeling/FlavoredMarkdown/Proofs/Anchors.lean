import FlavoredMarkdown.Proofs.Markers
import FlavoredMarkdown.Proofs.Transcript
import Mathlib.Data.Finset.Card
import Mathlib.Data.List.Forall2
import Mathlib.Data.List.Nodup

/-!
# Heading anchors are unique

The anchor that `visit_heading` writes is the first candidate for the text of the heading that no
earlier heading has. There are more candidates than taken anchors and no two of them are equal, so one
is always free, also where a heading spells the numbered anchor of another one.

* The anchors in use are kept in the marks of a rendering, the last one first. No visit but the first
  one to a heading touches them.
* An anchor has only word characters and hyphens, so it is escaped by nothing, and what stands in the
  fragment of the link is what stands in the `id` behind the prefix.

Results:
* `Anchor.candidate_injective`, **`Anchor.unique_not_mem`**: an anchor is one that is not taken.
* `Anchor.isAnchorChar_unique`: what anchors are made of.
* **`Formatter.anchors_render`**: the anchors of a rendered document.
-/

namespace FlavoredMarkdown

open Html

namespace Anchor

/-! ## One anchor -/

/-- No two candidates are equal. -/
theorem candidate_injective (slug : String) {i j : Nat} (h : candidate slug i = candidate slug j) :
    i = j := by
  have hlonger (k : Nat) : candidate slug (k + 1) ≠ slug := by
    intro he
    have hl := congrArg String.length he
    simp only [candidate, String.length_append] at hl
    have hhyphen : "-".length = 1 := rfl
    omega
  match i, j with
  | 0, 0 => rfl
  | 0, j + 1 => exact absurd h.symm (hlonger j)
  | i + 1, 0 => exact absurd h (hlonger i)
  | i + 1, j + 1 =>
    have hdigits := congrArg String.toList h
    simp only [candidate, String.toList_append, Nat.toString_eq_repr, Nat.toList_repr] at hdigits
    have hvalue := congrArg (Nat.ofDigitChars 10 · 0) (List.append_cancel_left hdigits)
    simpa using hvalue

/-- An anchor is one of the candidates, and those before it are taken. -/
theorem exists_candidate (slug : String) (taken : List String) :
    ∃ k, firstFree slug taken = candidate slug k ∧ ∀ j < k, candidate slug j ∈ taken := by
  unfold firstFree
  split
  · next k hk =>
    obtain ⟨-, -, hbefore⟩ := List.find?_range_eq_some.mp hk
    exact ⟨k, rfl, fun j hj => by simpa using hbefore j hj⟩
  · next hnone =>
    refine ⟨taken.length + 1, rfl, fun j hj => ?_⟩
    simpa using List.find?_eq_none.mp hnone j (List.mem_range.mpr hj)

/-- No more candidates are taken in a row than there are taken anchors. -/
theorem le_card_of_taken {slug : String} {taken : List String} {k : Nat}
    (h : ∀ j < k, candidate slug j ∈ taken) : k ≤ taken.toFinset.card := by
  have hsubset : (Finset.range k).image (candidate slug) ⊆ taken.toFinset := by
    intro a ha
    obtain ⟨j, hj, rfl⟩ := Finset.mem_image.mp ha
    exact List.mem_toFinset.mpr (h j (Finset.mem_range.mp hj))
  have hcard := Finset.card_le_card hsubset
  rwa [Finset.card_image_of_injective _ fun i j => candidate_injective slug, Finset.card_range] at hcard

theorem firstFree_not_mem (slug : String) (taken : List String) : firstFree slug taken ∉ taken := by
  unfold firstFree
  split
  · next k hk => simpa using List.find?_some hk
  · next hnone =>
    -- otherwise there would be fewer taken anchors than candidates that are taken
    have htaken : ∀ j < taken.length + 1, candidate slug j ∈ taken := by
      intro j hj
      simpa using List.find?_eq_none.mp hnone j (List.mem_range.mpr hj)
    have hle := (le_card_of_taken htaken).trans taken.toFinset_card_le
    omega

/-- **An anchor is not taken.** -/
theorem unique_not_mem (text : String) (taken : List String) : unique text taken ∉ taken :=
  firstFree_not_mem (slug text) taken

/-- The characters of anchors: word characters and hyphens. -/
def isAnchorChar (c : Char) : Bool := Text.isWord c || c == '-'

theorem isAnchorChar_slug (text : String) : ∀ c ∈ (slug text).toList, isAnchorChar c = true := by
  intro c hc
  rw [slug, String.toList_ofList] at hc
  obtain ⟨d, hd, rfl⟩ := List.mem_map.mp hc
  have hkept : isKept d = true := (List.mem_filter.mp hd).2
  split
  · rfl
  · next hblank => simpa [isKept, isAnchorChar, hblank] using hkept

theorem isAnchorChar_digit {c : Char} (h : c.isDigit = true) : isAnchorChar c = true := by
  have hrange : 48 ≤ c.toNat ∧ c.toNat ≤ 57 := by
    simpa [Char.isDigit, UInt32.le_iff_toNat_le] using h
  -- the digits are the first range of word characters
  have hword : Text.isWord c = Text.inRanges c.toNat ((48, 57) :: Text.wordRanges.tail) := rfl
  rw [isAnchorChar, hword, Text.inRanges, if_neg (by omega), if_pos hrange.2, Bool.true_or]

theorem isAnchorChar_candidate (text : String) (k : Nat) :
    ∀ c ∈ (candidate (slug text) k).toList, isAnchorChar c = true := by
  cases k with
  | zero => exact isAnchorChar_slug text
  | succ k =>
    intro c hc
    simp only [candidate, String.toList_append, List.mem_append] at hc
    rcases hc with (hslug | hhyphen) | hnumber
    · exact isAnchorChar_slug text c hslug
    · obtain rfl : c = '-' := by simpa using hhyphen
      rfl
    · rw [Nat.toString_eq_repr, Nat.toList_repr] at hnumber
      exact isAnchorChar_digit (Nat.isDigit_of_mem_toDigits (by decide) (by decide) hnumber)

/-- An anchor has only word characters and hyphens. -/
theorem isAnchorChar_unique (text : String) (taken : List String) :
    ∀ c ∈ (unique text taken).toList, isAnchorChar c = true := by
  obtain ⟨k, hk, -⟩ := exists_candidate (slug text) taken
  rw [unique, hk]
  exact isAnchorChar_candidate text k

theorem escapeChar_of_isAnchorChar {c : Char} (h : isAnchorChar c = true) : escapeChar c = [c] := by
  rcases Bool.or_eq_true_iff.mp h with hword | hhyphen
  · exact Marker.escapeChar_of_isWord hword
  · rw [eq_of_beq hhyphen]
    rfl

/-- Escaping leaves an anchor as it is. -/
theorem escape_anchor {a : String} (h : ∀ c ∈ a.toList, isAnchorChar c = true) : escape a = a := by
  have hchars : ∀ cs : List Char, (∀ c ∈ cs, isAnchorChar c = true) → escapeChars cs = cs := by
    intro cs hcs
    induction cs with
    | nil => rfl
    | cons c cs ih =>
      obtain ⟨hc, hrest⟩ := List.forall_mem_cons.mp hcs
      rw [escapeChars, List.flatMap_cons, escapeChar_of_isAnchorChar hc]
      exact congrArg (c :: ·) (ih hrest)
  rw [escape, hchars _ h, String.ofList_toList]

end Anchor

/-! ## The headings of a rendering -/

namespace Step

/-- Whether the step is the first visit to a heading. -/
def opensHeading : Step → Bool
  | .visit _ ⟨.box (.heading _) .., _⟩ .entering _ => true
  | _ => false

/-- The step opens a heading with an anchor: the link to it and its `id`, in front of the text. -/
def SetsAnchor (style : Style) (front : String) (s : Step) (anchor : String) : Prop :=
  ∃ ancestors place level info children,
    s = .visit ancestors ⟨.box (.heading level) info children, place⟩ .entering
      [.freshLine, .openTag s!"h{level.val}" (style.position info),
        .openTag "a" [⟨"href", some ("#" ++ anchor)⟩, ⟨"aria-hidden", some "true"⟩,
          classAttribute "anchor", ⟨"id", some (escape front ++ anchor)⟩], .closeTag "a"]

end Step

/-- The headings of a run get anchors that are not taken, and these are then taken. -/
def anchoring (style : Style) (front : String) : Law where
  Holds marks steps marks' := ∃ anchors : List String,
    List.Forall₂ (Step.SetsAnchor style front) (steps.filter Step.opensHeading) anchors ∧
      marks'.anchors = anchors.reverse ++ marks.anchors ∧
      (marks.anchors.Nodup → marks'.anchors.Nodup) ∧
      ∀ a ∈ anchors, ∀ c ∈ a.toList, Anchor.isAnchorChar c = true
  nil marks := ⟨[], .nil, rfl, id, fun _ h => nomatch h⟩
  append {marks₁ marks₂ marks₃ as bs} ha hb := by
    obtain ⟨anchors, hsteps, htaken, hdistinct, hchars⟩ := ha
    obtain ⟨anchors', hsteps', htaken', hdistinct', hchars'⟩ := hb
    refine ⟨anchors ++ anchors', ?_, ?_, hdistinct' ∘ hdistinct, ?_⟩
    · rw [List.filter_append]
      exact List.rel_append hsteps hsteps'
    · rw [htaken', htaken, List.reverse_append, List.append_assoc]
    · exact fun a h => (List.mem_append.mp h).elim (hchars a) (hchars' a)

theorem anchoring_of_eq {style : Style} {front : String} {marks marks' : Marks} {s : Step}
    (hs : s.opensHeading = false) (hm : marks'.anchors = marks.anchors) :
    (anchoring style front).Holds marks [s] marks' := by
  refine ⟨[], ?_, hm, ?_, fun _ h => nomatch h⟩
  · rw [List.filter_cons_of_neg (by simp [hs])]
    exact .nil
  · rw [hm]
    exact id

section Visits

variable {style : Style} {ancestors : List Occurrence} {marks : Marks} {o : Occurrence}
  {phase : Phase} {pieces : List Piece}

/-- Apart from the first visit to a heading, the default markup leaves the anchors alone. -/
theorem Default.anchors_visit (h : (Step.visit ancestors o phase pieces).opensHeading = false) :
    (Default.visit style ancestors marks o phase).marks.anchors = marks.anchors := by
  obtain ⟨n, place⟩ := o
  cases n.role with
  | ordinary hn => rw [(Default.plain_visit style ancestors marks hn phase).1]
  | document info children =>
    simp only [Default.visit, Default.containerVisit]
    split <;> rfl
  | heading level info children =>
    cases phase with
    | entering => cases h
    | leaving => rfl
  | paragraph info children =>
    cases phase with
    | entering =>
      simp only [Default.visit, Default.containerVisit, Default.paragraph]
      split <;> rfl
    | leaving =>
      simp only [Default.visit, Default.containerVisit, Default.paragraph]
      split <;> rfl
  | footnote identifier index info children => cases phase <;> rfl
  | reference identifier index info => rfl

/-- The first visit to a heading takes an anchor that is free. -/
theorem Default.anchoring_heading {front : String} (hid : style.html.headerIds = .value (.str front))
    (level : HeadingLevel) (info : Info) (children : List Node) (place : List Nat) :
    let o : Occurrence := ⟨.box (.heading level) info children, place⟩
    let v := Default.visit style ancestors marks o .entering
    (anchoring style front).Holds marks [.visit ancestors o .entering v.pieces] v.marks := by
  intro o v
  let anchor := Anchor.unique (plainText children) marks.anchors
  have hchars : ∀ c ∈ anchor.toList, Anchor.isAnchorChar c = true :=
    Anchor.isAnchorChar_unique (plainText children) marks.anchors
  have hfree : anchor ∉ marks.anchors := Anchor.unique_not_mem (plainText children) marks.anchors
  have hescape : escape anchor = anchor := Anchor.escape_anchor hchars
  have hid' : escape (front ++ anchor) = escape front ++ anchor := by rw [escape_append, hescape]
  have hv : v = Default.writes { marks with anchors := anchor :: marks.anchors }
      [.freshLine, .openTag s!"h{level.val}" (style.position info),
        .openTag "a" [⟨"href", some ("#" ++ escape anchor)⟩, ⟨"aria-hidden", some "true"⟩,
          classAttribute "anchor", ⟨"id", some (escape (front ++ anchor))⟩], .closeTag "a"] := by
    simp only [v, o, Default.visit, Default.containerVisit, Default.heading, hid, Setting.isNone,
      Bool.false_eq_true, if_false]
    rfl
  rw [hescape, hid'] at hv
  rw [hv]
  refine ⟨[anchor], ?_, rfl, fun hdistinct => List.nodup_cons.mpr ⟨hfree, hdistinct⟩, ?_⟩
  · exact .cons ⟨ancestors, place, level, info, children, rfl⟩ .nil
  · exact List.forall_mem_singleton.mpr hchars

/-- The steps of a formatter give anchors that are free. -/
theorem Formatter.anchoring_visit {formatter : Formatter} {front : String} {marks' : Marks}
    {signal : Signal} (hid : style.html.headerIds = .value (.str front))
    (h : (formatter.emitter style).visit ancestors o phase marks = ⟨pieces, marks', .ok signal⟩) :
    (anchoring style front).Holds marks [.visit ancestors o phase pieces] marks' := by
  cases hs : (Step.visit ancestors o phase pieces).opensHeading with
  | false =>
    refine anchoring_of_eq hs ?_
    obtain ⟨n, place⟩ := o
    cases n.role with
    | ordinary hn =>
      have hplain : marks' = marks := (Formatter.plain_of_visit h hn).1
      exact congrArg Marks.anchors hplain
    | document | heading | paragraph | footnote | reference =>
      obtain ⟨-, hmarks, -⟩ := Formatter.visit_default rfl h
      rw [← hmarks]
      exact Default.anchors_visit hs
  | true =>
    unfold Step.opensHeading at hs
    split at hs
    · next ancestors' level info children place pieces' he =>
      cases he
      obtain ⟨hpieces, hmarks, -⟩ := Formatter.visit_default rfl h
      rw [← hpieces, ← hmarks]
      exact Default.anchoring_heading hid level info children place
    · cases hs

end Visits

/-- The steps of a document give its headings anchors that are free. -/
theorem Formatter.anchoring_transcript {formatter : Formatter} {style : Style} {doc : Node}
    {front : String} {r : Recording Unit} (hid : style.html.headerIds = .value (.str front))
    (h : formatter.transcript style doc = .ok r) : (anchoring style front).Holds {} r.steps r.marks := by
  have hlaw : (anchoring style front).ObeyedAt formatter style (doc.members (parentKind? [])) :=
    ⟨fun s marks => anchoring_of_eq rfl rfl, fun _ _ hv => Formatter.anchoring_visit hid hv⟩
  exact hlaw.holds_traverse h

/-- **Heading anchors are unique.** In a document that is rendered, the anchors of the visited
headings are distinct, escaping leaves them as they are, each heading has its own in the fragment of
its link and behind the prefix in its `id`, and those in use at the end are these and no others. -/
theorem Formatter.anchors_render {formatter : Formatter} {style : Style} {doc : Node}
    {front : String} {r : Rendering} (hid : style.html.headerIds = .value (.str front))
    (h : formatter.render style doc {} = .ok () r) :
    ∃ (steps : List Step) (anchors : List String),
      formatter.transcript style doc = .ok ⟨steps, r.marks, ()⟩ ∧ r.page = Step.page steps ∧
        List.Forall₂ (Step.SetsAnchor style front) (steps.filter Step.opensHeading) anchors ∧
        anchors.Nodup ∧
        (∀ a ∈ anchors, (∀ c ∈ a.toList, Text.isWord c = true ∨ c = '-') ∧ escape a = a) ∧
        ∀ a, a ∈ r.marks.anchors ↔ a ∈ anchors := by
  obtain ⟨steps, ht, hpage⟩ := Formatter.transcript_of_render h
  obtain ⟨anchors, hsteps, htaken, hdistinct, hchars⟩ := Formatter.anchoring_transcript hid ht
  -- a rendering starts with no anchor in use
  have hmarks : r.marks.anchors = anchors.reverse := htaken.trans (List.append_nil _)
  refine ⟨steps, anchors, ht, hpage, hsteps, ?_, fun a ha => ⟨fun c hc => ?_, ?_⟩, fun a => ?_⟩
  · have hnodup : r.marks.anchors.Nodup := hdistinct List.nodup_nil
    rwa [hmarks, List.nodup_reverse] at hnodup
  · have hc := hchars a ha c hc
    rwa [Anchor.isAnchorChar, Bool.or_eq_true, beq_iff_eq] at hc
  · exact Anchor.escape_anchor (hchars a ha)
  · rw [hmarks, List.mem_reverse]

/-- Headings that spell each other's numbered anchors, one that has no text for an anchor, one in a
quote, and a prefix that is escaped. -/
theorem Formatter.anchors_render_numbered :
    let heading (text : String) : Node := .box (.heading .top) {} [.leaf (.text text) {}]
    let doc : Node := .box .document {} [heading "a", heading "a 1", .box .blockQuote {} [heading "A"],
      heading "a-1", heading "?", heading "!"]
    let style : Style := { html := { headerIds := .value (.str "x&") } }
    style.html.headerIds = .value (.str "x&") ∧
      ∃ r, Formatter.standard.render style doc {} = .ok () r ∧
        r.marks.anchors = ["-1", "", "a-1-1", "a-2", "a-1", "a"] ∧
        ∃ (steps : List Step) (anchors : List String),
          List.Forall₂ (Step.SetsAnchor style "x&") (steps.filter Step.opensHeading) anchors ∧
            anchors.Nodup ∧ ∀ a, a ∈ r.marks.anchors ↔ a ∈ anchors := by
  intro heading doc style
  have hid : style.html.headerIds = .value (.str "x&") := rfl
  have hok : (Formatter.standard.emission style doc).outcome = .ok () := by decide +kernel
  have hanchors : (Formatter.standard.emission style doc).marks.anchors =
      ["-1", "", "a-1-1", "a-2", "a-1", "a"] := by
    decide +kernel
  obtain ⟨log, hdraws⟩ := Formatter.standard.draws_render style doc {}
  have hr : Formatter.standard.render style doc {} =
      .ok () ⟨Page.empty.addAll (Formatter.standard.emission style doc).pieces,
        (Formatter.standard.emission style doc).marks, log⟩ := by
    rw [hdraws]
    change (Formatter.standard.emission style doc).onto Page.empty log = _
    rw [Emission.onto, hok]
  obtain ⟨steps, anchors, -, -, hsteps, hdistinct, -, hused⟩ :=
    Formatter.anchors_render hid hr
  exact ⟨hid, _, hr, hanchors, steps, anchors, hsteps, hdistinct, hused⟩

end FlavoredMarkdown
