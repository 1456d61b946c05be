import FlavoredMarkdown.Proofs.VisibleText

/-!
# The language of a code block

The info string of a code block begins with its language. A node takes the first word for it, up to any
white space (`CodeBlock.language`), and the markup what stands before the first space
(`visit_code_block`). The two are the same unless the first word ends at white space of another kind,
such as a tab; then the markup takes more.

* Info strings are trimmed of all white space by both, so both find a language or neither does.
* What is left of the info string behind the first space can be kept in an attribute as well.

Results:
* `Text.trim_of_firstWord?`: a trimmed text begins with its first word.
* `Default.fenceWords_append`: where the markup cuts the text behind it.
* **`Default.language_codeBlock`**: which language and which remainder a code block shows, and when the
  language is that of the node.
-/

namespace FlavoredMarkdown

/-! ## First words -/

namespace Text

theorem trimEnd_append {cs : List Char} {c : Char} (h : isBlank c = false) (rest : List Char) :
    trimEnd (cs ++ c :: rest) = cs ++ c :: trimEnd rest := by
  have hreverse : (cs ++ c :: rest).reverse = rest.reverse ++ c :: cs.reverse := by simp
  have hself : (c :: cs.reverse).dropWhile isBlank = c :: cs.reverse := by
    rw [List.dropWhile_cons, if_neg (by rw [h]; exact Bool.false_ne_true)]
  unfold trimEnd
  rw [hreverse, List.dropWhile_append]
  split
  · next hnil =>
    rw [hself, List.isEmpty_iff.mp hnil]
    simp
  · simp

theorem trimEnd_prefix (cs : List Char) : trimEnd cs <+: cs := by
  have hsuffix : (cs.reverse.dropWhile isBlank).reverse <+: cs.reverse.reverse :=
    List.reverse_prefix.mpr (List.dropWhile_suffix _)
  rwa [List.reverse_reverse] at hsuffix

theorem firstWord?_eq_none_iff {cs : List Char} : firstWord? cs = none ↔ trim cs = [] := by
  rw [trim_eq_nil_iff, ← trimStart_eq_nil_iff]
  unfold firstWord?
  split
  · next h => simp [h]
  · next h => simp [h]

/-- **A trimmed text begins with its first word**, and white space ends the word. -/
theorem trim_of_firstWord? {cs word : List Char} (h : firstWord? cs = some word) :
    word ≠ [] ∧ (∀ c ∈ word, isBlank c = false) ∧
      ∃ tail, trim cs = word ++ tail ∧ ∀ c ∈ tail.head?, isBlank c = true := by
  unfold firstWord? at h
  split at h
  · cases h
  · next c rest hstart =>
    obtain rfl := Option.some.inj h
    have hword : ∀ d ∈ (c :: rest).takeWhile fun c => !isBlank c, isBlank d = false := fun d hd => by
      simpa using List.all_eq_true.mp List.all_takeWhile d hd
    have hc : isBlank c = false := by
      have hhead : c ∈ (cs.dropWhile isBlank).head? := by
        rw [show cs.dropWhile isBlank = c :: rest from hstart]
        rfl
      exact head?_dropWhile hhead
    have hne : (c :: rest).takeWhile (fun c => !isBlank c) ≠ [] := by
      rw [List.takeWhile_cons, if_pos (by rw [hc]; rfl)]
      exact List.cons_ne_nil _ _
    refine ⟨hne, hword, ?_⟩
    generalize hw : (c :: rest).takeWhile (fun c => !isBlank c) = word at hne hword ⊢
    generalize hb : (c :: rest).dropWhile (fun c => !isBlank c) = back
    have hsplit : c :: rest = word ++ back := by rw [← hw, ← hb, List.takeWhile_append_dropWhile]
    have hback : ∀ d ∈ back.head?, isBlank d = true := fun d hd => by
      rw [← hb] at hd
      simpa using head?_dropWhile hd
    -- the word ends with a character that is not blank
    rcases List.eq_nil_or_concat word with rfl | ⟨front, d, rfl⟩
    · exact absurd rfl hne
    · have hd : isBlank d = false := hword d (by simp)
      refine ⟨trimEnd back, ?_, fun e he => hback e ?_⟩
      · rw [trim, hstart, hsplit, List.concat_eq_append, List.append_assoc, List.singleton_append,
          trimEnd_append hd]
        simp
      · obtain ⟨more, hmore⟩ := trimEnd_prefix back
        rw [← hmore, List.head?_append, Option.mem_def.mp he]
        rfl

theorem trim_cons {c : Char} (h : isBlank c = true) (rest : List Char) :
    trim (c :: rest) = trim rest := by
  unfold trim trimStart
  rw [List.dropWhile_cons, if_pos h]

end Text

/-! ## Info strings -/

namespace Default

/-- The markup takes what stands before the first space for the language. Behind the first word this
may be more of the text. -/
theorem fenceWords_append {fence : Option String} {word tail : List Char}
    (h : Text.trim (fence.getD "").toList = word ++ tail) (hword : ' ' ∉ word) :
    fenceWords fence = (word ++ tail.takeWhile (· != ' '), Text.trim (tail.dropWhile (· != ' '))) := by
  have hne : ∀ c ∈ word, (c != ' ') = true := fun c hc =>
    bne_iff_ne.mpr fun he => hword (he ▸ hc)
  have hdrop (cs : List Char) : Text.trim ((cs.dropWhile (· != ' ')).drop 1) =
      Text.trim (cs.dropWhile (· != ' ')) := by
    cases hcs : cs.dropWhile (· != ' ') with
    | nil => rfl
    | cons c rest =>
      have hhead : c ∈ (cs.dropWhile (· != ' ')).head? := by rw [hcs]; rfl
      have hspace : (c != ' ') = false := Text.head?_dropWhile (p := (· != ' ')) hhead
      obtain rfl : c = ' ' := by simpa using hspace
      exact (Text.trim_cons (by decide) rest).symm
  simp only [fenceWords, h, List.takeWhile_append_of_pos hne, List.dropWhile_append_of_pos hne, hdrop]

end Default

/-! ## What a code block shows -/

/-- The value of an attribute in the tags of one name. -/
def Piece.attribute? (tag name : String) (pieces : List Piece) : Option String :=
  pieces.findSome? fun piece =>
    match piece with
    | .openTag t attributes =>
      if t = tag then (attributes.find? fun a => a.name = name).bind Attribute.value else none
    | _ => none

/-- The language that a code block shows: the `lang` of the block, or a class of the code. -/
def ShowsLanguage (style : Style) (pieces : List Piece) (language : Option String) : Prop :=
  Piece.attribute? "pre" "lang" pieces =
      (if style.html.on .githubPreLang then language else none) ∧
    Piece.attribute? "code" "class" pieces =
      if style.html.on .githubPreLang then none else language.map ("language-" ++ ·)

/-- What a code block shows of the rest of its info string, in the tag that shows the language. -/
def ShowsMeta (style : Style) (pieces : List Piece) (rest : Option String) : Prop :=
  Piece.attribute? "pre" "data-meta" pieces =
      (if style.html.on .githubPreLang then rest else none) ∧
    Piece.attribute? "code" "data-meta" pieces =
      if style.html.on .githubPreLang then none else rest

namespace Default

section Visit

variable (style : Style) (info : Info) (content : String)

/-- The position of a node says nothing of its language. -/
theorem find?_position (name : String) (h : name ≠ "data-sourcepos") :
    (style.position info).find? (fun a => a.name = name) = none := by
  unfold Style.position
  split
  · split
    · rw [List.find?_cons_of_neg (by simpa using h.symm), List.find?_nil]
    · rfl
  · rfl

/-- A code block shows what its info string is cut into. -/
theorem shows_codeBlock {fence : Option String} {language rest : List Char}
    (h : fenceWords fence = (language, rest)) :
    ShowsLanguage style (codeBlock style info content fence)
        (if language = [] then none else some (Html.escape (String.ofList language))) ∧
      ShowsMeta style (codeBlock style info content fence)
        (if style.html.on .fullInfoString = true ∧ language ≠ [] ∧ rest ≠ [] then
          some (Html.escape (String.ofList rest)) else none) := by
  have hlang := find?_position style info "lang" (by decide)
  have hmeta := find?_position style info "data-meta" (by decide)
  unfold ShowsLanguage ShowsMeta codeBlock
  rw [h]
  by_cases hl : language = []
  · subst hl
    simp [Piece.attribute?, hlang, hmeta]
  · by_cases hfull : style.html.on .fullInfoString = true ∧ rest ≠ []
    · cases style.html.on .githubPreLang <;>
        simp [Piece.attribute?, hlang, hmeta, hl, hfull, classAttribute]
    · cases style.html.on .githubPreLang <;>
        simp [Piece.attribute?, hlang, hmeta, hl, hfull, classAttribute]

end Visit

end Default

/-- No two languages are shown alike. -/
theorem ShowsLanguage.unique {style : Style} {pieces : List Piece} {a b : String}
    (ha : ShowsLanguage style pieces (some a)) (hb : ShowsLanguage style pieces (some b)) : a = b := by
  cases hgithub : style.html.on .githubPreLang with
  | true =>
    have h := ha.1.symm.trans hb.1
    rw [hgithub, if_pos rfl, if_pos rfl] at h
    exact Option.some.inj h
  | false =>
    have h := ha.2.symm.trans hb.2
    rw [hgithub, if_neg Bool.false_ne_true, if_neg Bool.false_ne_true] at h
    have hword : "language-" ++ a = "language-" ++ b := Option.some.inj h
    rw [← String.toList_inj, String.toList_append, String.toList_append] at hword
    exact String.toList_inj.mp (List.append_cancel_left hword)

theorem Leaf.language?_codeBlock (content : String) (fence : Option String) :
    (Leaf.codeBlock content fence).language? =
      (Text.firstWord? (fence.getD "").toList).map String.ofList := by
  cases fence <;> rfl

/-- **Which language and which remainder a code block shows.** It shows a language just if the node has
one. What it shows is the first word of the info string and what stands behind it up to a space; what
comes after that, trimmed, is shown too if the whole info string is wanted and there is anything. The
language shown is that of the node just if a space or nothing stands behind the first word. -/
theorem Default.language_codeBlock (style : Style) (ancestors : List Occurrence) (marks : Marks)
    (info : Info) (place : List Nat) (phase : Phase) (content : String) (fence : Option String) :
    let leaf := Leaf.codeBlock content fence
    let pieces := (Default.visit style ancestors marks ⟨.leaf leaf info, place⟩ phase).pieces
    (leaf.language? = none → ShowsLanguage style pieces none ∧ ShowsMeta style pieces none) ∧
      ∀ word, leaf.language? = some word →
        ∃ tail, Text.trim (fence.getD "").toList = word.toList ++ tail ∧
          (∀ c ∈ tail.head?, Text.isBlank c = true) ∧
          ShowsLanguage style pieces
            (some (Html.escape (word ++ String.ofList (tail.takeWhile (· != ' '))))) ∧
          ShowsMeta style pieces
            (let rest := Text.trim (tail.dropWhile (· != ' '))
            if style.html.on .fullInfoString = true ∧ rest ≠ [] then
              some (Html.escape (String.ofList rest)) else none) ∧
          (ShowsLanguage style pieces (some (Html.escape word)) ↔ ∀ c ∈ tail.head?, c = ' ') := by
  intro leaf pieces
  have hpieces : pieces = codeBlock style info content fence := rfl
  have hlanguage : leaf.language? = (Text.firstWord? (fence.getD "").toList).map String.ofList :=
    Leaf.language?_codeBlock content fence
  rw [hlanguage, hpieces]
  constructor
  · intro hnone
    have hblank : Text.trim (fence.getD "").toList = [] ++ [] :=
      Text.firstWord?_eq_none_iff.mp (Option.map_eq_none_iff.mp hnone)
    have hshown := shows_codeBlock style info content (fenceWords_append hblank (List.not_mem_nil))
    simpa using hshown
  · intro word hsome
    obtain ⟨chars, hchars, rfl⟩ := Option.map_eq_some_iff.mp hsome
    obtain ⟨hne, hword, tail, htrim, htail⟩ := Text.trim_of_firstWord? hchars
    have hspace : ' ' ∉ chars := fun hm => absurd (hword _ hm) (by decide)
    obtain ⟨hshown, hrest⟩ := shows_codeBlock style info content (fenceWords_append htrim hspace)
    rw [if_neg (fun hnil => hne (List.append_eq_nil_iff.mp hnil).1), String.ofList_append] at hshown
    refine ⟨tail, by rw [htrim, String.toList_ofList], htail, hshown, ?_, ?_⟩
    · simpa [hne] using hrest
    · constructor
      · intro hsame c hc
        have hwhole := Html.escape_injective (hsame.unique hshown)
        rw [← String.ofList_append] at hwhole
        have htake : tail.takeWhile (· != ' ') = [] :=
          List.self_eq_append_right.mp (String.ofList_injective hwhole)
        cases tail with
        | nil => cases hc
        | cons d rest =>
          obtain rfl : d = c := Option.some.inj hc
          refine Decidable.byContradiction fun hd => ?_
          rw [List.takeWhile_cons, if_pos (by simpa using hd)] at htake
          cases htake
      · intro hend
        have htake : tail.takeWhile (· != ' ') = [] := by
          cases tail with
          | nil => rfl
          | cons c rest =>
            obtain rfl := hend c rfl
            rfl
        rw [htake] at hshown
        simpa using hshown

/-- A language with a space behind it, and a remainder that has to be escaped. -/
theorem Default.language_codeBlock_spaced :
    let leaf : Leaf := .codeBlock "x" (some "\n c++  run & go\t")
    let style : Style := { html := { on := fun f => f == .fullInfoString } }
    let pieces := (Default.visit style [] {} ⟨.leaf leaf {}, []⟩ .entering).pieces
    leaf.language? = some "c++" ∧ ShowsLanguage style pieces (some "c++") ∧
      ShowsMeta style pieces (some "run &amp; go") := by
  intro leaf style pieces
  have hlanguage : leaf.language? = some "c++" := by decide +kernel
  obtain ⟨tail, htrim, -, -, hrest, hsame⟩ :=
    (Default.language_codeBlock style [] {} {} [] .entering "x" (some "\n c++  run & go\t")).2 "c++"
      hlanguage
  have htail : tail = "  run & go".toList := by
    have hchars : Text.trim ((some "\n c++  run & go\t").getD "").toList =
        "c++".toList ++ "  run & go".toList := by decide +kernel
    exact List.append_cancel_left (htrim.symm.trans hchars)
  subst htail
  have hvalue : Text.trim ("  run & go".toList.dropWhile (· != ' ')) = "run & go".toList := by
    decide +kernel
  have hne : "run & go".toList ≠ [] := by decide
  have hhead : "  run & go".toList.head? = some ' ' := by decide
  have hescaped : Html.escape "run & go" = "run &amp; go" := by decide +kernel
  rw [hvalue, if_pos ⟨rfl, hne⟩, String.ofList_toList, hescaped] at hrest
  exact ⟨hlanguage, hsame.mpr fun c hc => Option.some.inj (hc.symm.trans hhead), hrest⟩

/-- A tab ends the first word, but the markup takes it and what is behind it for the language too. -/
theorem Default.language_codeBlock_tab :
    let leaf : Leaf := .codeBlock "x" (some "a\tb")
    leaf.language? = some "a" ∧
      (Formatter.plain.format {} (.box .document {} [.leaf leaf {}])).1 =
        .ok "<pre><code class=\"language-a\tb\">x</code></pre>\n" := by
  decide +kernel

end FlavoredMarkdown
