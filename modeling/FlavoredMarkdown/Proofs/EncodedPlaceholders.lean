import FlavoredMarkdown.Proofs.PercentDecoding
import FlavoredMarkdown.Proofs.PlaceholderMatches

/-!
# Placeholders in escaped URLs

`render_link` and `render_image` mark a link or an image for a placeholder in its URL, and what stands
in its tag is the URL escaped. The placeholder is still there: one with plain braces gets the escaped
ones and a percent sign in front, and one with escaped braces stays as it is.

* This is so for names of plain letters, digits and low lines. A name with any other letter is itself
  escaped, and then it is none.
* Escaping can bring about placeholders that were not there, so names may come in between.

Results:
* `Placeholder.found_append`: what is found in two texts is found in both together.
* `Placeholder.hrefChars_source`: what a placeholder becomes when it is escaped.
* **`Placeholder.names_href`**: the plain names in a URL are found in what is written for it.
-/

namespace FlavoredMarkdown

namespace Placeholder

/-! ## What is found in a text -/

/-- The placeholders that can be read at the positions of a text. -/
def found : List Char → List Placeholder
  | [] => []
  | c :: rest => (read? (c :: rest)).toList ++ found rest

theorem map_readEverywhere (pos : Nat) (cs : List Char) :
    (readEverywhere pos cs).map Match.placeholder = found cs := by
  induction cs generalizing pos with
  | nil => rfl
  | cons c rest ih =>
    rw [readEverywhere, found, ← ih (pos + 1)]
    cases read? (c :: rest) <;> rfl

/-- The placeholders of a text are those that can be read at any position. -/
theorem all_eq_found (s : String) : all s = found s.toList := by
  rw [all_eq, matches_eq, map_readEverywhere]

/-- What is read does not depend on what follows. -/
theorem read?_append {as : List Char} {p : Placeholder} (h : read? as = some p) (bs : List Char) :
    read? (as ++ bs) = some p := by
  obtain ⟨hp, hprefix⟩ := read?_eq_some_iff.mp h
  exact read?_eq_some_iff.mpr ⟨hp, hprefix.trans (List.prefix_append as bs)⟩

/-- What is found in two texts is found in both together, where more may be found across their ends. -/
theorem found_append (as bs : List Char) : (found as ++ found bs).Sublist (found (as ++ bs)) := by
  induction as with
  | nil => exact List.Sublist.refl _
  | cons a as ih =>
    rw [List.cons_append, found, found, List.append_assoc]
    cases hr : read? (a :: as) with
    | none => exact ih.trans (List.sublist_append_right _ _)
    | some p =>
      have hread : read? (a :: (as ++ bs)) = some p := read?_append hr bs
      rw [hread]
      exact ih.cons_cons p

/-- A placeholder is found in itself. -/
theorem mem_found_source {p : Placeholder} (h : p.IsProper) : p ∈ found p.source := by
  have hread : read? p.source = some p := read?_eq_some_iff.mpr ⟨h, List.prefix_refl _⟩
  cases hs : p.source with
  | nil => exact absurd p.source_length_pos (by simp [hs])
  | cons c rest =>
    rw [hs] at hread
    rw [found, hread]
    exact List.mem_append_left _ (List.mem_singleton.mpr rfl)

/-! ## Plain names -/

/-- A name in plain letters, digits and low lines has no other characters than those. -/
def isPlainName (name : String) : Bool := name.toList.all fun c => decide (c.toNat < 128)

/-- Plain word characters are safe in URLs. -/
theorem isHrefSafe_of_isWord {c : Char} (hw : Text.isWord c = true) (hc : c.toNat < 128) :
    Url.isHrefSafe c = true := by
  have hall : ∀ n < 128, Text.isWord (Char.ofNat n) = true → Url.isHrefSafe (Char.ofNat n) = true := by
    decide +kernel
  have h := hall c.toNat hc
  rw [Char.ofNat_toNat] at h
  exact h hw

/-- Escaped, a placeholder with a plain name has the escaped braces, and in front of them the percent
sign of plain ones. -/
theorem hrefChars_source {p : Placeholder} (hp : p.IsProper)
    (hplain : ∀ c ∈ p.name, c.toNat < 128) :
    ∃ front, Url.hrefChars p.source = front ++ (⟨.escaped, p.name⟩ : Placeholder).source := by
  have hname : Url.hrefChars p.name = p.name :=
    Url.hrefChars_of_safe fun c hc => isHrefSafe_of_isWord (hp.word c hc) (hplain c hc)
  obtain ⟨spelling, name⟩ := p
  rw [source, Url.hrefChars_append, Url.hrefChars_append, hname]
  cases spelling with
  | plain => exact ⟨['%'], rfl⟩
  | escaped => exact ⟨[], rfl⟩

/-- So it is still found, under its name. -/
theorem name_mem_found {p : Placeholder} (hp : p.IsProper) (hplain : ∀ c ∈ p.name, c.toNat < 128) :
    p.name ∈ (found (Url.hrefChars p.source)).map Placeholder.name := by
  obtain ⟨front, hsource⟩ := hrefChars_source hp hplain
  have hproper : (⟨.escaped, p.name⟩ : Placeholder).IsProper := ⟨hp.one_le, hp.le_max, hp.word⟩
  have hmem := (found_append front _).subset (List.mem_append_right _ (mem_found_source hproper))
  rw [hsource]
  exact List.mem_map.mpr ⟨_, hmem, rfl⟩

/-! ## All of it -/

/-- The plain names among the pieces of a text are found in the text escaped, piece by piece. -/
theorem plainNames_sublist {items : List Item} (h : ∀ p, .placeholder p ∈ items → p.IsProper) :
    (((among items).map fun p => String.ofList p.name).filter isPlainName).Sublist
      ((found (Url.hrefChars (items.flatMap Item.source))).map fun p => String.ofList p.name) := by
  induction items with
  | nil => exact List.Sublist.refl _
  | cons item rest ih =>
    have hrest := ih fun p hp => h p (List.mem_cons_of_mem _ hp)
    rw [List.flatMap_cons, Url.hrefChars_append]
    refine List.Sublist.trans ?_ ((found_append _ _).map _)
    rw [List.map_append]
    cases item with
    | char c => exact hrest.trans (List.sublist_append_right _ _)
    | placeholder p =>
      show ((String.ofList p.name :: (among rest).map fun p => String.ofList p.name).filter
        isPlainName).Sublist _
      by_cases hplain : isPlainName (String.ofList p.name) = true
      · rw [List.filter_cons_of_pos hplain]
        have hchars : ∀ c ∈ p.name, c.toNat < 128 := by
          simpa [isPlainName] using hplain
        obtain ⟨q, hq, hname⟩ := List.mem_map.mp (name_mem_found (h p List.mem_cons_self) hchars)
        have hmem : String.ofList p.name ∈
            (found (Url.hrefChars p.source)).map fun p => String.ofList p.name :=
          List.mem_map.mpr ⟨q, hq, by rw [hname]⟩
        exact (List.singleton_sublist.mpr hmem).append hrest
      · rw [List.filter_cons_of_neg hplain]
        exact hrest.trans (List.sublist_append_right _ _)

/-- A piece of a link or an image that has attributes has its URL among them. -/
theorem exists_url_of_urlPieces {style : Style} {info : Info} {url : String} {rewriter : Setting}
    {pieces : List Piece} (h : UrlPieces style info url rewriter pieces) {piece : Piece}
    (hp : piece ∈ pieces) {a : Attribute} (ha : a ∈ piece.attributes) :
    ∃ b ∈ piece.attributes, (b.name = "href" ∨ b.name = "src") ∧
      b.value = some (style.urlText rewriter url) := by
  cases h with
  | plain hplain =>
    rw [hplain piece hp] at ha
    cases ha
  | link title =>
    obtain rfl := List.mem_singleton.mp hp
    refine ⟨⟨"href", _⟩, ?_, .inl rfl, rfl⟩
    simp [Piece.attributes]
  | image =>
    rcases List.mem_append.mp hp with hfigure | himage
    · split at hfigure
      · rw [List.mem_singleton.mp hfigure] at ha
        cases ha
      · cases hfigure
    · obtain rfl := List.mem_singleton.mp himage
      refine ⟨⟨"src", _⟩, ?_, .inr rfl, rfl⟩
      simp [Piece.attributes]

/-- **The plain names in a URL are found in what is written for it**, in the same order, if the URL is
neither rewritten nor left out. What is written stands in every tag of a link or an image that is
marked. -/
theorem names_href (url : String) :
    ((names url).filter isPlainName).Sublist (names (Url.href url)) ∧
    ∀ (style : Style) (rewriter : Setting), rewriter.rewriter? = none →
      style.suppresses url = false →
        ((names url).filter isPlainName).Sublist (names (style.urlText rewriter url)) ∧
        ∀ (formatter : Formatter) (kind : Container), kind.url? style = some (rewriter, url) →
          ∀ info children ancestors place marks phase,
            ∀ piece ∈ ((formatter.emitter style).visit ancestors
              ⟨.box kind info children, place⟩ phase marks).pieces,
              Override.mark ∈ piece.attributes →
                ∃ a ∈ piece.attributes, (a.name = "href" ∨ a.name = "src") ∧
                  a.value = some (style.urlText rewriter url) := by
  have hnames : ((names url).filter isPlainName).Sublist (names (Url.href url)) := by
    have hproper : ∀ p, .placeholder p ∈ scan url.toList → p.IsProper := by
      intro p hp
      have hall : p ∈ all url := List.mem_filterMap.mpr ⟨_, hp, rfl⟩
      rw [all_eq] at hall
      obtain ⟨m, hm, rfl⟩ := List.mem_map.mp hall
      exact (mem_matches.mp hm).1
    have hpieces := plainNames_sublist hproper
    rw [source_scan] at hpieces
    rwa [names, names, all_eq_found (Url.href url), Url.href, String.toList_ofList]
  refine ⟨hnames, fun style rewriter hr hs => ⟨?_, ?_⟩⟩
  · rwa [Style.urlText, hs, if_neg Bool.false_ne_true, hr]
  · intro formatter kind hk info children ancestors place marks phase piece hp hmark
    exact exists_url_of_urlPieces
      (formatter.urlPieces hk children ancestors place marks phase) hp hmark

/-- A marked link with placeholders in both spellings around one that has no plain name. -/
theorem names_href_around :
    let url := "%\x7ba\x7d%\x7bé\x7d%7Bb%7D%7Bc\x7d%"
    let style : Style := { user := { on := fun f => f == .placeholderDetection } }
    let visited := (Formatter.standard.emitter style).visit []
      ⟨.box (.link url none) {} [], []⟩ .entering {}
    style.html.linkUrlRewriter.rewriter? = none ∧ style.suppresses url = false ∧
      names url = ["a", "é", "b"] ∧
      ∃ piece ∈ visited.pieces, Override.mark ∈ piece.attributes ∧
        ∃ a ∈ piece.attributes, (a.name = "href" ∨ a.name = "src") ∧
          ∃ written, a.value = some written ∧ ["a", "b"].Sublist (names written) := by
  intro url style visited
  have hnames : names url = ["a", "é", "b"] := by decide +kernel
  have hplain : ["a", "é", "b"].filter isPlainName = ["a", "b"] := by decide +kernel
  have hs : style.suppresses url = false := by decide +kernel
  have hmarked : ∃ piece ∈ visited.pieces, Override.mark ∈ piece.attributes := by decide +kernel
  obtain ⟨hsublist, hwritten⟩ := (names_href url).2 style .none rfl hs
  obtain ⟨piece, hp, hmark⟩ := hmarked
  obtain ⟨a, ha, hname, hvalue⟩ := hwritten .standard (.link url none) rfl {} [] [] [] {} .entering
    piece hp hmark
  rw [hnames, hplain] at hsublist
  exact ⟨rfl, hs, hnames, piece, hp, hmark, a, ha, hname, _, hvalue, hsublist⟩

end Placeholder

end FlavoredMarkdown
