import FlavoredMarkdown.Html.TagFilter
import FlavoredMarkdown.Proofs.SafeUrl
import Mathlib.Data.List.Forall2

/-!
# The filter disarms the disallowed tags and nothing else

At each bracket the filter (`_filter_tags`) looks at the text behind it, and this text may hold brackets
that are replaced themselves. That makes no difference: an ampersand is a letter, a slash or a word
character as little as the bracket it stands for. So every bracket is judged as it would be in the
filtered text.

* The nine names are written out in `Html.NamesTag`, and `any_startsWithName_iff` shows that the table
  of the filter holds these.
* The case of letters is that of the whole of Unicode (`Text.SameLetter`). The filter only knows of
  three letters beyond ASCII, and there are no others for the letters of its names. The letter k is in
  none of them, which would have the Kelvin sign as well.
* A name ends where it ends: no other name that is longer or shorter has to be tried.

Results:
* `Html.foldsTo_iff`: the letters that the filter takes for a letter of a name.
* `Html.opensDisallowed_iff`: what the filter looks for behind a bracket.
* `Html.opensDisallowed_filterTagChars`: filtering what is behind a bracket does not change that.
* **`Html.filterTags_exact`**: the brackets of disallowed tags are replaced and no others, none is left,
  and filtering again changes nothing.
-/

namespace FlavoredMarkdown

/-! ## Letters in any case -/

namespace Text

/-- The small form of a character, or the first character of it if there are several. -/
def smallForm (c : Char) : Char := (lowerChar c).headD c

/-- Two characters are the same letter, whatever its case: their small forms have one capital. -/
def SameLetter (a b : Char) : Prop := upperChar (smallForm a) = upperChar (smallForm b)

instance (a b : Char) : Decidable (SameLetter a b) := inferInstanceAs (Decidable (_ = _))

/-- Only the plain small letters, the dotless i and the long s move to plain characters. -/
theorem upperRuns_plain : ∀ r ∈ upperRuns,
    (r.first = 0x61 ∧ r.last = 0x7A ∧ r.shift = -32) ∨
      (r.first = 0x131 ∧ r.last = 0x131 ∧ r.shift = -232) ∨
        (r.first = 0x17F ∧ r.last = 0x17F ∧ r.shift = -300) ∨
          (128 ≤ r.first ∧ 128 ≤ r.first + r.shift) := by
  decide +kernel

/-- Nothing has the dotless i or the long s as its small form but these themselves. -/
theorem lowerRuns_apart : ∀ r ∈ lowerRuns, ∀ n ∈ [(0x131 : Int), 0x17F],
    r.last + r.shift < n ∨ n < r.first + r.shift := by
  decide +kernel

theorem upperSequences_apart : ∀ p ∈ upperSequences, 128 ≤ p.1 ∧ 2 ≤ p.2.length := by
  decide +kernel

theorem smallForm_of_plain {c : Char} (h : c.toNat < 128) : smallForm c = c.toLower := by
  rw [smallForm, lowerChar_of_plain h, List.headD_cons]

theorem upperChar_of_plain {c : Char} (h : c.toNat < 128) : upperChar c = [c.toUpper] := by
  have hsequence : upperSequences.lookup c.toNat = none := by
    rw [List.lookup_eq_none_iff]
    intro p hp
    have := (upperSequences_apart p hp).1
    exact bne_iff_ne.mpr (by omega)
  have hsmall (hc : 97 ≤ c.toNat ∧ c.toNat ≤ 122) :
      CaseRun.move? c.toNat upperRuns = some (c.toNat - 32) := by
    refine (if_pos ⟨hc.1, hc.2, Nat.mod_one _⟩).trans (congrArg some ?_)
    show ((c.toNat : Int) + (-32)).toNat = c.toNat - 32
    omega
  have table : ∀ n < 128, (Char.ofNat n).toUpper =
      if 97 ≤ n ∧ n ≤ 122 then Char.ofNat (n - 32) else Char.ofNat n := by decide
  have hupper := table c.toNat h
  rw [Char.ofNat_toNat] at hupper
  rw [upperChar, hsequence, hupper]
  simp only
  cases hm : CaseRun.move? c.toNat upperRuns with
  | none => rw [if_neg fun hc => nomatch (hsmall hc).symm.trans hm]
  | some n =>
    obtain ⟨r, hr, h1, h2, rfl⟩ := CaseRun.move?_eq_some hm
    rcases upperRuns_plain r hr with ⟨hf, hl, -⟩ | ⟨hf, -, -⟩ | ⟨hf, -, -⟩ | ⟨hf, -⟩
    · have hrange : 97 ≤ c.toNat ∧ c.toNat ≤ 122 := by omega
      rw [if_pos hrange, ← Option.some.inj ((hsmall hrange).symm.trans hm)]
    all_goals omega

/-- A number that is no character stands for the first one. -/
theorem toNat_ofNat (n : Nat) : (Char.ofNat n).toNat = n ∨ Char.ofNat n = Char.ofNat 0 := by
  by_cases hv : n.isValidChar
  · have hn : Char.ofNat n = Char.ofNatAux n hv := dif_pos hv
    rw [hn]
    exact .inl rfl
  · exact .inr (dif_neg hv)

/-- Outside the plain characters only the dotless i and the long s have a plain capital. -/
theorem upperChar_of_not_plain {c d : Char} (h : 128 ≤ c.toNat) (hd : 0 < d.toNat ∧ d.toNat < 128)
    (hc : upperChar c = [d]) : (c.toNat = 0x131 ∧ d = 'I') ∨ (c.toNat = 0x17F ∧ d = 'S') := by
  unfold upperChar at hc
  split at hc
  · next ns hns =>
    obtain ⟨front, back, hall, -⟩ := List.lookup_eq_some_iff.mp hns
    have hlength := (upperSequences_apart (c.toNat, ns) (by rw [hall]; simp)).2
    have hone := congrArg List.length hc
    rw [List.length_map, List.length_singleton] at hone
    exact absurd hone (Nat.ne_of_gt hlength)
  · split at hc
    · next n hn =>
      obtain ⟨r, hr, h1, h2, rfl⟩ := CaseRun.move?_eq_some hn
      obtain rfl : Char.ofNat ((c.toNat : Int) + r.shift).toNat = d := List.singleton_inj.mp hc
      rcases upperRuns_plain r hr with ⟨-, hl, -⟩ | ⟨hf, hl, hs⟩ | ⟨hf, hl, hs⟩ | ⟨-, hfar⟩
      · omega
      · have hI : c.toNat = 0x131 := by omega
        rw [hI, hs]
        exact .inl ⟨rfl, rfl⟩
      · have hS : c.toNat = 0x17F := by omega
        rw [hS, hs]
        exact .inr ⟨rfl, rfl⟩
      · have := toNat_ofNat_ne (n := ((c.toNat : Int) + r.shift).toNat) (by omega)
        omega
    · obtain rfl := List.singleton_inj.mp hc
      omega

/-- A character beyond the plain ones is a plain letter only as the dotted or the dotless i, the long s
or the Kelvin sign. -/
theorem upperChar_smallForm_of_not_plain {c d : Char} (h : 128 ≤ c.toNat)
    (hd : 0 < d.toNat ∧ d.toNat < 128) :
    upperChar (smallForm c) = [d] ↔
      ((c.toNat = 0x130 ∨ c.toNat = 0x131) ∧ d = 'I') ∨ (c.toNat = 0x17F ∧ d = 'S') ∨
        (c.toNat = 0x212A ∧ d = 'K') := by
  have hof {n : Nat} (hn : c.toNat = n) : c = Char.ofNat n := by rw [← hn, Char.ofNat_toNat]
  constructor
  · intro hc
    by_cases hdotted : c.toNat = 0x130
    · obtain rfl := hof hdotted
      have hi : upperChar (smallForm (Char.ofNat 0x130)) = ['I'] := by decide +kernel
      rw [hi] at hc
      exact .inl ⟨.inl hdotted, (List.singleton_inj.mp hc).symm⟩
    · cases hm : CaseRun.move? c.toNat lowerRuns with
      | none =>
        have hself : smallForm c = c := by
          rw [smallForm, lowerChar, if_neg hdotted, hm, List.headD_cons]
        rw [hself] at hc
        rcases upperChar_of_not_plain h hd hc with ⟨hn, hI⟩ | hS
        · exact .inl ⟨.inr hn, hI⟩
        · exact .inr (.inl hS)
      | some m =>
        have hself : smallForm c = Char.ofNat m := by
          rw [smallForm, lowerChar, if_neg hdotted, hm, List.headD_cons]
        rw [hself] at hc
        obtain ⟨r, hr, h1, h2, rfl⟩ := CaseRun.move?_eq_some hm
        rcases lowerRuns_plain r hr with ⟨-, hl, -⟩ | ⟨hf, hl, hs⟩ | ⟨-, hfar⟩
        · omega
        · have hK : c.toNat = 0x212A := by omega
          rw [hK, hs] at hc
          have hk : upperChar (Char.ofNat ((0x212A : Nat) + (-8383) : Int).toNat) = ['K'] := by
            decide +kernel
          rw [hk] at hc
          exact .inr (.inr ⟨hK, (List.singleton_inj.mp hc).symm⟩)
        · -- the small form lies beyond the plain characters too, and is none of the two letters
          have hdotless := lowerRuns_apart r hr 0x131 (by decide)
          have hlong := lowerRuns_apart r hr 0x17F (by decide)
          rcases toNat_ofNat ((c.toNat : Int) + r.shift).toNat with hback | hnul
          · rcases upperChar_of_not_plain (by omega) hd hc with ⟨hn, -⟩ | ⟨hn, -⟩ <;> omega
          · rw [hnul, upperChar_of_plain (by decide)] at hc
            obtain rfl := List.singleton_inj.mp hc
            exact absurd hd.1 (by decide)
  · rintro (⟨hn | hn, rfl⟩ | ⟨hn, rfl⟩ | ⟨hn, rfl⟩) <;> rw [hof hn] <;> decide +kernel

end Text

/-! ## What opens a disallowed tag -/

namespace Html

/-- The letters of the names, over and over. -/
def tagLetters : List Char := disallowedTags.flatten

/-- The name of a disallowed tag, in any case, stands at the front and ends there. -/
def NamesTag (cs : List Char) : Prop :=
  ∃ name ∈ ["title", "textarea", "style", "xmp", "iframe", "noembed", "noframes", "script", "plaintext"],
    ∃ word rest, cs = word ++ rest ∧ List.Forall₂ Text.SameLetter name.toList word ∧
      ∀ c ∈ rest.head?, Text.isWord c = false

/-- At this position of the text stands the bracket of a disallowed tag, which opens or closes it. -/
def TagAt (cs : List Char) (i : Nat) : Prop :=
  ∃ slash ∈ [[], ['/']], ∃ rest, cs.drop i = '<' :: (slash ++ rest) ∧ NamesTag rest

theorem mem_tagLetters {name : List Char} {letter : Char} (hname : name ∈ disallowedTags)
    (hletter : letter ∈ name) : letter ∈ tagLetters :=
  List.mem_flatten.mpr ⟨name, hname, hletter⟩

/-- A letter of a name is a plain small letter, and not the k. -/
structure IsTagLetter (letter : Char) : Prop where
  plain : letter.toNat < 128
  small : letter.toLower = letter
  pos : 0 < letter.toUpper.toNat
  lt : letter.toUpper.toNat < 128
  ne : letter.toUpper ≠ 'K'
  capitalI : letter.toUpper = 'I' ↔ letter = 'i'
  capitalS : letter.toUpper = 'S' ↔ letter = 's'

theorem isTagLetter_of_mem {letter : Char} (h : letter ∈ tagLetters) : IsTagLetter letter := by
  have hall : tagLetters.all (fun l => decide (l.toNat < 128 ∧ l.toLower = l ∧
      0 < l.toUpper.toNat ∧ l.toUpper.toNat < 128 ∧ l.toUpper ≠ 'K' ∧
      (l.toUpper = 'I' ↔ l = 'i') ∧ (l.toUpper = 'S' ↔ l = 's'))) = true := by
    decide +kernel
  obtain ⟨h1, h2, h3, h4, h5, h6, h7⟩ := of_decide_eq_true (List.all_eq_true.mp hall letter h)
  exact ⟨h1, h2, h3, h4, h5, h6, h7⟩

/-- Among the plain characters the filter takes both cases of a letter. -/
theorem foldsTo_plain {letter c : Char} (h : letter ∈ tagLetters) (hc : c.toNat < 128) :
    foldsTo letter c = true ↔ letter.toUpper = c.toLower.toUpper := by
  have hall : tagLetters.eraseDups.all (fun l => (List.range 128).all fun n =>
      foldsTo l (Char.ofNat n) == (l.toUpper == (Char.ofNat n).toLower.toUpper)) = true := by
    decide +kernel
  have hletter := List.all_eq_true.mp hall letter (List.mem_eraseDups.mpr h)
  have hpair := eq_of_beq (List.all_eq_true.mp hletter c.toNat (List.mem_range.mpr hc))
  rw [Char.ofNat_toNat] at hpair
  rw [hpair, beq_iff_eq]

/-- **The filter takes for a letter what is that letter in any case.** -/
theorem foldsTo_iff {letter : Char} (h : letter ∈ tagLetters) (c : Char) :
    foldsTo letter c = true ↔ Text.SameLetter letter c := by
  have hl := isTagLetter_of_mem h
  unfold Text.SameLetter
  rw [Text.smallForm_of_plain hl.plain, hl.small, Text.upperChar_of_plain hl.plain]
  by_cases hc : c.toNat < 128
  · have hsmall : c.toLower.toNat < 128 := by
      have table : ∀ n < 128, (Char.ofNat n).toLower.toNat < 128 := by decide
      have hself := table c.toNat hc
      rwa [Char.ofNat_toNat] at hself
    rw [Text.smallForm_of_plain hc, Text.upperChar_of_plain hsmall, List.singleton_inj,
      foldsTo_plain h hc]
  · have hfar := Nat.le_of_not_lt hc
    have hne : c ≠ letter := by
      rintro rfl
      exact hc hl.plain
    rw [eq_comm (a := [letter.toUpper]), Text.upperChar_smallForm_of_not_plain hfar ⟨hl.pos, hl.lt⟩,
      hl.capitalI, hl.capitalS]
    simp only [foldsTo, Text.toLower_of_not_plain hfar, beq_eq_false_iff_ne.mpr hne, Bool.false_or,
      Bool.or_eq_true, Bool.and_eq_true, beq_iff_eq, hl.ne, and_false, or_false]
    rw [or_comm, and_comm, and_comm (a := letter = 's')]

/-- No letter of a name is a slash, a bracket or an ampersand. -/
theorem foldsTo_sign {letter c : Char} (h : letter ∈ tagLetters) (hc : c ∈ ['/', '<', '&']) :
    foldsTo letter c = false := by
  have hall : tagLetters.all (fun l => ['/', '<', '&'].all fun d => !foldsTo l d) = true := by
    decide +kernel
  simpa using List.all_eq_true.mp (List.all_eq_true.mp hall letter h) c hc

theorem startsWithName_iff {name : List Char} (h : ∀ letter ∈ name, letter ∈ tagLetters)
    (cs : List Char) : startsWithName name cs = true ↔
      ∃ word rest, cs = word ++ rest ∧ List.Forall₂ Text.SameLetter name word ∧
        ∀ c ∈ rest.head?, Text.isWord c = false := by
  induction name generalizing cs with
  | nil =>
    have hend : startsWithName [] cs = true ↔ ∀ c ∈ cs.head?, Text.isWord c = false := by
      cases cs <;> simp [startsWithName]
    rw [hend]
    constructor
    · exact fun hc => ⟨[], cs, rfl, .nil, hc⟩
    · rintro ⟨word, rest, rfl, hword, hc⟩
      cases hword
      exact hc
  | cons letter name ih =>
    obtain ⟨hletter, hname⟩ := List.forall_mem_cons.mp h
    cases cs with
    | nil =>
      refine iff_of_false Bool.false_ne_true ?_
      rintro ⟨word, rest, hnil, hword, -⟩
      cases hword
      cases hnil
    | cons c cs =>
      rw [startsWithName, Bool.and_eq_true, foldsTo_iff hletter, ih hname]
      constructor
      · rintro ⟨hc, word, rest, rfl, hword, hend⟩
        exact ⟨c :: word, rest, rfl, .cons hc hword, hend⟩
      · rintro ⟨_, rest, he, hword, hend⟩
        cases hword with
        | cons hc hword =>
          obtain ⟨rfl, rfl⟩ := List.cons_eq_cons.mp he
          exact ⟨hc, _, rest, rfl, hword, hend⟩

/-- The table of the filter holds the names of the nine tags. -/
theorem any_startsWithName_iff (cs : List Char) :
    disallowedTags.any (startsWithName · cs) = true ↔ NamesTag cs := by
  rw [disallowedTags, List.any_map, List.any_eq_true]
  refine exists_congr fun name => and_congr_right fun hname => ?_
  exact startsWithName_iff (fun _ => mem_tagLetters (List.mem_map_of_mem hname)) cs

/-- A name does not begin with a slash, a bracket or an ampersand. -/
theorem any_startsWithName_sign {c : Char} (hc : c ∈ ['/', '<', '&']) (rest : List Char) :
    disallowedTags.any (startsWithName · (c :: rest)) = false := by
  have hnonempty : ∀ name ∈ disallowedTags, name ≠ [] := by decide
  refine List.any_eq_false.mpr fun name hname => ?_
  cases name with
  | nil => exact absurd rfl (hnonempty _ hname)
  | cons letter name =>
    rw [startsWithName, foldsTo_sign (mem_tagLetters hname (List.mem_cons_self ..)) hc]
    exact Bool.false_ne_true

/-- **What the filter looks for behind a bracket** is the name of a disallowed tag, with or without a
slash before it. -/
theorem opensDisallowed_iff (cs : List Char) :
    opensDisallowed cs = true ↔ ∃ slash ∈ [[], ['/']], ∃ rest, cs = slash ++ rest ∧ NamesTag rest := by
  have hslash (rest : List Char) : ¬NamesTag ('/' :: rest) := by
    rw [← any_startsWithName_iff, any_startsWithName_sign (by decide)]
    exact Bool.false_ne_true
  unfold opensDisallowed
  split
  · next rest =>
    rw [any_startsWithName_iff]
    constructor
    · exact fun h => ⟨['/'], by simp, rest, rfl, h⟩
    · rintro ⟨slash, hm, rest', he, h⟩
      rcases List.mem_pair.mp hm with rfl | rfl
      · obtain rfl : '/' :: rest = rest' := he
        exact absurd h (hslash rest)
      · obtain ⟨-, rfl⟩ := List.cons_eq_cons.mp he
        exact h
  · next hne =>
    rw [any_startsWithName_iff]
    constructor
    · exact fun h => ⟨[], by simp, cs, rfl, h⟩
    · rintro ⟨slash, hm, rest, rfl, h⟩
      rcases List.mem_pair.mp hm with rfl | rfl
      · exact h
      · exact absurd rfl (hne rest)

/-- A tag stands where the filter replaces the bracket. -/
theorem tagAt_iff (cs : List Char) (i : Nat) :
    TagAt cs i ↔ ∃ rest, cs.drop i = '<' :: rest ∧ opensDisallowed rest = true := by
  constructor
  · rintro ⟨slash, hm, rest, he, h⟩
    exact ⟨slash ++ rest, he, (opensDisallowed_iff _).mpr ⟨slash, hm, rest, rfl, h⟩⟩
  · rintro ⟨behind, he, h⟩
    obtain ⟨slash, hm, rest, rfl, hname⟩ := (opensDisallowed_iff _).mp h
    exact ⟨slash, hm, rest, he, hname⟩

instance (cs : List Char) (i : Nat) : Decidable (TagAt cs i) :=
  decidable_of_iff
    (∃ rest ∈ (cs.drop i).tail?, cs.drop i = '<' :: rest ∧ opensDisallowed rest = true) <| by
    rw [tagAt_iff]
    constructor
    · rintro ⟨rest, -, h⟩
      exact ⟨rest, h⟩
    · rintro ⟨rest, he, h⟩
      exact ⟨rest, by simp [he], he, h⟩

/-! ## What is filtered -/

theorem filterTagChars_cons_of_tag {rest : List Char} (h : opensDisallowed rest = true) :
    filterTagChars ('<' :: rest) = ['&', 'l', 't', ';'] ++ filterTagChars rest := by
  rw [filterTagChars, if_pos (by simp [h])]
  rfl

theorem filterTagChars_cons_of_not {c : Char} {rest : List Char}
    (h : ¬(c = '<' ∧ opensDisallowed rest = true)) :
    filterTagChars (c :: rest) = c :: filterTagChars rest := by
  rw [filterTagChars, if_neg (by simpa using h)]

/-- Filtering does not change whether a name stands at the front. -/
theorem startsWithName_filterTagChars {name : List Char} (h : ∀ letter ∈ name, letter ∈ tagLetters)
    (cs : List Char) : startsWithName name (filterTagChars cs) = startsWithName name cs := by
  induction name generalizing cs with
  | nil =>
    have hbracket : Text.isWord '<' = Text.isWord '&' := by decide +kernel
    cases cs with
    | nil => rfl
    | cons c cs =>
      by_cases hc : c = '<' ∧ opensDisallowed cs = true
      · obtain ⟨rfl, hopens⟩ := hc
        rw [filterTagChars_cons_of_tag hopens]
        exact congrArg (!·) hbracket.symm
      · rw [filterTagChars_cons_of_not hc]
        rfl
  | cons letter name ih =>
    obtain ⟨hletter, hname⟩ := List.forall_mem_cons.mp h
    cases cs with
    | nil => rfl
    | cons c cs =>
      by_cases hc : c = '<' ∧ opensDisallowed cs = true
      · obtain ⟨rfl, hopens⟩ := hc
        rw [filterTagChars_cons_of_tag hopens, List.cons_append, startsWithName, startsWithName,
          foldsTo_sign hletter (by decide), foldsTo_sign hletter (by decide)]
        rfl
      · rw [filterTagChars_cons_of_not hc, startsWithName, startsWithName, ih hname]

theorem any_startsWithName_filterTagChars (cs : List Char) :
    disallowedTags.any (startsWithName · (filterTagChars cs)) =
      disallowedTags.any (startsWithName · cs) := by
  rw [Bool.eq_iff_iff, List.any_eq_true, List.any_eq_true]
  refine exists_congr fun name => and_congr_right fun hname => ?_
  rw [startsWithName_filterTagChars fun _ => mem_tagLetters hname]

theorem opensDisallowed_of_ne {c : Char} (h : c ≠ '/') (rest : List Char) :
    opensDisallowed (c :: rest) = disallowedTags.any (startsWithName · (c :: rest)) := by
  unfold opensDisallowed
  split
  · next he => exact absurd (List.cons_eq_cons.mp he).1 h
  · rfl

/-- **Filtering what is behind a bracket does not change** whether the bracket opens a disallowed tag. -/
theorem opensDisallowed_filterTagChars (cs : List Char) :
    opensDisallowed (filterTagChars cs) = opensDisallowed cs := by
  cases cs with
  | nil => rfl
  | cons c cs =>
    by_cases hc : c = '<' ∧ opensDisallowed cs = true
    · obtain ⟨rfl, hopens⟩ := hc
      rw [filterTagChars_cons_of_tag hopens, List.cons_append, opensDisallowed_of_ne (by decide),
        opensDisallowed_of_ne (by decide), any_startsWithName_sign (by decide),
        any_startsWithName_sign (by decide)]
    · have hself := filterTagChars_cons_of_not hc
      by_cases hslash : c = '/'
      · subst hslash
        rw [hself]
        exact any_startsWithName_filterTagChars cs
      · rw [hself, opensDisallowed_of_ne hslash, opensDisallowed_of_ne hslash, ← hself,
          any_startsWithName_filterTagChars]

/-! ## Positions -/

theorem tagAt_of_drop {cs rest : List Char} {c : Char} {i : Nat} (h : cs.drop i = c :: rest) :
    TagAt cs i ↔ c = '<' ∧ opensDisallowed rest = true := by
  rw [tagAt_iff, h]
  constructor
  · rintro ⟨rest', he, hopens⟩
    obtain ⟨rfl, rfl⟩ := List.cons_eq_cons.mp he
    exact ⟨rfl, hopens⟩
  · rintro ⟨rfl, hopens⟩
    exact ⟨rest, rfl, hopens⟩

/-- The filter replaces the brackets of tags, position by position. -/
theorem filterTagChars_eq {whole cs : List Char} {i : Nat} (h : whole.drop i = cs) :
    filterTagChars cs = (cs.zipIdx i).flatMap fun p =>
      if TagAt whole p.2 then ['&', 'l', 't', ';'] else [p.1] := by
  induction cs generalizing i with
  | nil => rfl
  | cons c rest ih =>
    have hrest : whole.drop (i + 1) = rest := by rw [← List.drop_drop, h, List.drop_one, List.tail_cons]
    rw [List.zipIdx_cons, List.flatMap_cons, ← ih hrest]
    by_cases hc : c = '<' ∧ opensDisallowed rest = true
    · rw [if_pos ((tagAt_of_drop h).mpr hc)]
      obtain ⟨rfl, hopens⟩ := hc
      exact filterTagChars_cons_of_tag hopens
    · rw [if_neg fun ht => hc ((tagAt_of_drop h).mp ht)]
      exact filterTagChars_cons_of_not hc

/-- The filter leaves no tag. -/
theorem not_tagAt_filterTagChars (cs : List Char) (i : Nat) : ¬TagAt (filterTagChars cs) i := by
  have hother {c : Char} {rest : List Char} (hc : ¬(c = '<' ∧ opensDisallowed rest = true))
      (hrest : ∀ i, ¬TagAt rest i) (i : Nat) : ¬TagAt (c :: rest) i := by
    cases i with
    | zero => exact fun h => hc ((tagAt_of_drop rfl).mp h)
    | succ i => exact hrest i
  induction cs generalizing i with
  | nil =>
    rintro ⟨slash, -, rest, he, -⟩
    rw [filterTagChars, List.drop_nil] at he
    cases he
  | cons c rest ih =>
    by_cases hc : c = '<' ∧ opensDisallowed rest = true
    · obtain ⟨rfl, hopens⟩ := hc
      rw [filterTagChars_cons_of_tag hopens]
      have hsign {c : Char} (h : c ≠ '<') (rest : List Char) :
          ¬(c = '<' ∧ opensDisallowed rest = true) := fun hc => h hc.1
      exact hother (hsign (by decide) _) (hother (hsign (by decide) _)
        (hother (hsign (by decide) _) (hother (hsign (by decide) _) ih))) i
    · rw [filterTagChars_cons_of_not hc]
      refine hother ?_ ih i
      rwa [opensDisallowed_filterTagChars]

/-- A text without a tag is left as it is. -/
theorem filterTagChars_of_not_tagAt {cs : List Char} (h : ∀ i, ¬TagAt cs i) :
    filterTagChars cs = cs := by
  rw [filterTagChars_eq (List.drop_zero : cs.drop 0 = cs)]
  simp only [h, if_false]
  rw [← List.map_eq_flatMap, List.zipIdx_map_fst]

/-- **The filter disarms the disallowed tags and nothing else.** It replaces the brackets of such tags
by an entity and leaves every other character as it is; in the filtered text no such tag is left, so
filtering it again changes nothing. -/
theorem filterTags_exact (html : String) :
    (filterTags html).toList = (html.toList.zipIdx.flatMap fun p =>
        if TagAt html.toList p.2 then "&lt;".toList else [p.1]) ∧
      (∀ i, ¬TagAt (filterTags html).toList i) ∧ filterTags (filterTags html) = filterTags html := by
  have hchars : (filterTags html).toList = filterTagChars html.toList := String.toList_ofList
  have hnone : ∀ i, ¬TagAt (filterTags html).toList i := by
    rw [hchars]
    exact not_tagAt_filterTagChars _
  refine ⟨hchars.trans (filterTagChars_eq rfl), hnone, ?_⟩
  rw [filterTags, filterTagChars_of_not_tagAt hnone, String.ofList_toList]

/-- Brackets side by side, a name in odd letters and one that goes on. -/
example : filterTags "<<title<ſcrİpt></XMP <styles" = "<&lt;title&lt;ſcrİpt>&lt;/XMP <styles" := by
  decide +kernel

end Html

end FlavoredMarkdown
