import FlavoredMarkdown.Proofs.Emission
import FlavoredMarkdown.Text.Entity

/-!
# URLs that are written are not dangerous

Whether a URL is dangerous (`is_dangerous_url`) is decided before it is escaped (`escape_href`), and a
browser reads the escaped URL with its entities resolved. The two cannot disagree: a character that
escaping changes becomes text that starts with a sign no scheme has, and what folds to a letter of a
scheme is that letter already, in one of its two cases.

* The schemes, the images and the signs of URLs are written out here (`Url.HasScheme`,
  `Url.IsImageData`, `Url.Harmless`), and `Url.hasScheme_iff`, `Url.isImageData_iff` and
  `Url.isHrefSafe_iff` show that the program has the same ones.
* The two letters that fold to plain letters from outside, the Kelvin sign and the dotted capital I,
  need care: no front has a `k`, and none ends with an `i`, so the accent that is left of the second
  one stands in the way.

Results:
* `Text.isPrefix_lower_iff`: a front is at the start of the folded text only if it is there in plain
  letters of either case.
* `Url.decoded_hrefChars`: resolving the entities of an escaped URL undoes nothing but them.
* `Url.Veils.isDangerousChars`: escaping uncovers no scheme.
* **`Style.urlText_harmless`**: what is written for a URL where URLs are not trusted.
-/

namespace FlavoredMarkdown

namespace Url

/-- The signs of which the fronts of dangerous and of safe URLs are made. -/
def isFrontChar (c : Char) : Bool := (c.isLower && c != 'k') || c == ':' || c == '/'

/-- A front that folding brings about only from plain letters. -/
structure IsFront (front : List Char) : Prop where
  signs : ∀ c ∈ front, isFrontChar c = true
  last : front.getLast? ≠ some 'i'
  nonempty : front ≠ []

instance (front : List Char) : Decidable (IsFront front) :=
  decidable_of_iff
    (front.all isFrontChar = true ∧ front.getLast? ≠ some 'i' ∧ front ≠ [])
    ⟨fun ⟨h1, h2, h3⟩ => ⟨List.all_eq_true.mp h1, h2, h3⟩,
      fun ⟨h1, h2, h3⟩ => ⟨List.all_eq_true.mpr h1, h2, h3⟩⟩

theorem isFront_of_dangerous : ∀ front ∈ dangerousSchemes, IsFront front := by decide

theorem isFront_of_safe : ∀ front ∈ safeDataUrls, IsFront front := by decide

theorem isFrontChar_plain {c : Char} (h : isFrontChar c = true) :
    0 < c.toNat ∧ c.toNat < 128 ∧ c ≠ 'k' := by
  unfold isFrontChar Char.isLower at h
  simp only [Bool.or_eq_true, Bool.and_eq_true, decide_eq_true_eq, beq_iff_eq, bne_iff_ne,
    ge_iff_le, UInt32.le_iff_toNat_le] at h
  rcases h with (⟨⟨h1, h2⟩, hk⟩ | rfl) | rfl
  · rw [← Char.toNat_val]
    exact ⟨Nat.lt_of_lt_of_le (by decide) h1, Nat.lt_of_le_of_lt h2 (by decide), hk⟩
  · decide
  · decide

end Url

namespace Text

/-! ## Lower case -/

theorem CaseRun.move?_eq_some {n m : Nat} {runs : List CaseRun}
    (h : CaseRun.move? n runs = some m) :
    ∃ r ∈ runs, r.first ≤ n ∧ n ≤ r.last ∧ m = ((n : Int) + r.shift).toNat := by
  induction runs with
  | nil => cases h
  | cons r rest ih =>
    rw [CaseRun.move?] at h
    split at h
    · next hr => exact ⟨r, List.mem_cons_self .., hr.1, hr.2.1, (Option.some.inj h).symm⟩
    · obtain ⟨r', hm, hr'⟩ := ih h
      exact ⟨r', List.mem_cons_of_mem _ hm, hr'⟩

/-- Only the plain capitals and the Kelvin sign move to plain characters. -/
theorem lowerRuns_plain : ∀ r ∈ lowerRuns,
    (r.first = 0x41 ∧ r.last = 0x5A ∧ r.shift = 32) ∨
      (r.first = 0x212A ∧ r.last = 0x212A ∧ r.shift = -8383) ∨
        (128 ≤ r.first ∧ 128 ≤ r.first + r.shift) := by
  decide +kernel

theorem lowerChar_of_plain {c : Char} (h : c.toNat < 128) : lowerChar c = [c.toLower] := by
  have hdotted : c.toNat ≠ 0x130 := by omega
  have hupper (hc : 65 ≤ c.toNat ∧ c.toNat ≤ 90) :
      CaseRun.move? c.toNat lowerRuns = some (c.toNat + 32) := by
    exact if_pos ⟨hc.1, hc.2, Nat.mod_one _⟩
  have table : ∀ n < 128, (Char.ofNat n).toLower =
      if 65 ≤ n ∧ n ≤ 90 then Char.ofNat (n + 32) else Char.ofNat n := by decide
  have hlower := table c.toNat h
  rw [Char.ofNat_toNat] at hlower
  rw [lowerChar, if_neg hdotted, hlower]
  cases hm : CaseRun.move? c.toNat lowerRuns with
  | none =>
    rw [if_neg fun hc => nomatch (hupper hc).symm.trans hm]
  | some n =>
    obtain ⟨r, hr, h1, h2, rfl⟩ := CaseRun.move?_eq_some hm
    rcases lowerRuns_plain r hr with ⟨hf, hl, hs⟩ | ⟨hf, -, -⟩ | ⟨hf, -⟩
    · rw [hf] at h1
      rw [hl] at h2
      rw [if_pos ⟨h1, h2⟩, hs]
      rfl
    · omega
    · omega

theorem toNat_ofNat_ne {n : Nat} (h : 128 ≤ n) :
    (Char.ofNat n).toNat = 0 ∨ 128 ≤ (Char.ofNat n).toNat := by
  by_cases hv : n.isValidChar
  · have hn : Char.ofNat n = Char.ofNatAux n hv := dif_pos hv
    rw [hn]
    exact .inr h
  · have hn : Char.ofNat n = Char.ofNat 0 := dif_neg hv
    rw [hn]
    exact .inl rfl

/-- Outside the plain characters folding leads to a sign of a front only at the dotted capital I,
which leaves an accent behind the letter. -/
theorem lowerChar_of_not_plain {c : Char} (h : 128 ≤ c.toNat) :
    ∃ d ds, lowerChar c = d :: ds ∧
      (Url.isFrontChar d = true → d = 'i' ∧ ds = [Char.ofNat 0x307]) := by
  unfold lowerChar
  split
  · exact ⟨_, _, rfl, fun _ => ⟨rfl, rfl⟩⟩
  · split
    · next n hn =>
      refine ⟨_, _, rfl, fun hd => ?_⟩
      obtain ⟨hpos, hlt, hk⟩ := Url.isFrontChar_plain hd
      obtain ⟨r, hr, h1, h2, rfl⟩ := CaseRun.move?_eq_some hn
      rcases lowerRuns_plain r hr with ⟨-, hl, -⟩ | ⟨hf, hl, hs⟩ | ⟨-, hfar⟩
      · omega
      · have hkelvin : ((c.toNat : Int) + r.shift).toNat = 0x6B := by omega
        rw [hkelvin] at hk
        exact absurd rfl hk
      · have := toNat_ofNat_ne (n := ((c.toNat : Int) + r.shift).toNat) (by omega)
        omega
    · refine ⟨_, _, rfl, fun hd => ?_⟩
      have := Url.isFrontChar_plain hd
      omega

theorem toLower_of_not_plain {c : Char} (h : 128 ≤ c.toNat) : c.toLower = c := by
  unfold Char.toLower
  rw [dif_neg]
  rintro ⟨-, hz⟩
  rw [UInt32.le_iff_toNat_le, Char.toNat_val] at hz
  exact absurd (Nat.le_trans h hz) (by decide)

/-- As `isPrefix_lower_iff`, behind other characters. -/
theorem isPrefix_lowerAfter_iff {front : List Char}
    (hc : ∀ c ∈ front, Url.isFrontChar c = true) (hl : front.getLast? ≠ some 'i')
    (before cs : List Char) :
    front <+: lowerAfter before cs ↔ front <+: cs.map Char.toLower := by
  induction cs generalizing front before with
  | nil => rfl
  | cons c rest ih =>
    cases front with
    | nil => simp
    | cons p ps =>
      obtain ⟨hp, hps⟩ := List.forall_mem_cons.mp hc
      have hlast : ps.getLast? ≠ some 'i' := by
        cases ps with
        | nil => simp
        | cons q qs => rwa [List.getLast?_cons_cons] at hl
      by_cases hplain : c.toNat < 128
      · have hsigma : c.toNat ≠ 0x3A3 := by omega
        rw [lowerAfter, if_neg hsigma, lowerChar_of_plain hplain, List.singleton_append,
          List.map_cons, List.cons_prefix_cons, List.cons_prefix_cons, ih hps hlast]
      · have hfar := Nat.le_of_not_lt hplain
        have hright : ¬ p :: ps <+: (c :: rest).map Char.toLower := by
          rw [List.map_cons, toLower_of_not_plain hfar, List.cons_prefix_cons]
          rintro ⟨rfl, -⟩
          exact hplain (Url.isFrontChar_plain hp).2.1
        refine iff_of_false (fun h => ?_) hright
        -- `c` folds to a sigma, or it is the dotted capital I, whose accent then has to match
        rw [lowerAfter] at h
        split at h
        · rw [List.singleton_append, List.cons_prefix_cons] at h
          obtain ⟨rfl, -⟩ := h
          revert hp
          split <;> decide
        · obtain ⟨d, ds, he, hd⟩ := lowerChar_of_not_plain hfar
          rw [he, List.cons_append, List.cons_prefix_cons] at h
          obtain ⟨rfl, htail⟩ := h
          obtain ⟨rfl, rfl⟩ := hd hp
          cases ps with
          | nil => exact hl rfl  -- no front ends with an `i`
          | cons q qs =>
            rw [List.singleton_append, List.cons_prefix_cons] at htail
            obtain ⟨rfl, -⟩ := htail
            exact absurd (hps _ (List.mem_cons_self ..)) (by decide)

/-- A front is at the start of the folded text just if it is there in plain letters of either case.
-/
theorem isPrefix_lower_iff {front : List Char} (h : Url.IsFront front) (cs : List Char) :
    front <+: lower cs ↔ front <+: cs.map Char.toLower :=
  isPrefix_lowerAfter_iff h.signs h.last [] cs

end Text

namespace Url

/-! ## Escaping -/

/-- A way of writing characters that keeps the signs of fronts, and writes no text that starts with
one or with a blank for any character that it does not keep. -/
structure Veils (encode : Char → List Char) : Prop where
  keeps : ∀ c, isHrefSafe c = true → encode c = [c]
  starts : ∀ c, isHrefSafe c = false → ∃ d ds, encode c = d :: ds ∧ d ∈ ['%', '&', '\'']

theorem isHrefSafe_of_isFrontChar {c : Char} (h : isFrontChar c.toLower = true) :
    isHrefSafe c = true := by
  have table : ∀ n < 128, isFrontChar (Char.ofNat n).toLower = true →
      isHrefSafe (Char.ofNat n) = true := by decide +kernel
  by_cases hplain : c.toNat < 128
  · have hc := table c.toNat hplain
    rw [Char.ofNat_toNat] at hc
    exact hc h
  · rw [Text.toLower_of_not_plain (Nat.le_of_not_lt hplain)] at h
    exact absurd (isFrontChar_plain h).2.1 hplain

theorem Veils.isPrefix_iff {encode : Char → List Char} (h : Veils encode) {front : List Char}
    (hc : ∀ c ∈ front, isFrontChar c = true) (cs : List Char) :
    front <+: (cs.flatMap encode).map Char.toLower ↔ front <+: cs.map Char.toLower := by
  induction cs generalizing front with
  | nil => rfl
  | cons c rest ih =>
    cases front with
    | nil => simp
    | cons p ps =>
      obtain ⟨hp, hps⟩ := List.forall_mem_cons.mp hc
      cases hs : isHrefSafe c with
      | true =>
        rw [List.flatMap_cons, h.keeps c hs, List.singleton_append, List.map_cons, List.map_cons,
          List.cons_prefix_cons, List.cons_prefix_cons, ih hps]
      | false =>
        -- no front goes on here: neither in the veil of `c` nor, `c` being unsafe, in `c` itself
        obtain ⟨d, ds, he, hd⟩ := h.starts c hs
        rw [List.flatMap_cons, he, List.cons_append, List.map_cons, List.map_cons,
          List.cons_prefix_cons, List.cons_prefix_cons]
        refine iff_of_false ?_ ?_
        · rintro ⟨rfl, -⟩
          have signs : ∀ d ∈ ['%', '&', '\''], (!isFrontChar d.toLower) = true :=
            List.all_eq_true.mp (by decide)
          have hd' := signs d hd
          rw [hp] at hd'
          cases hd'
        · rintro ⟨rfl, -⟩
          exact Bool.false_ne_true (hs.symm.trans (isHrefSafe_of_isFrontChar hp))

/-! ## Danger -/

theorem isHrefSafe_plain {c : Char} (h : isHrefSafe c = true) : c.toNat < 128 := by
  have others : ∀ c ∈ "-_.+!*(),%#@?=;:/$~".toList, decide (c.toNat < 128) = true :=
    List.all_eq_true.mp (by decide)
  unfold isHrefSafe at h
  rcases Bool.or_eq_true_iff.mp h with ha | hl
  · unfold Char.isAlphanum Char.isAlpha Char.isUpper Char.isLower Char.isDigit at ha
    simp only [Bool.or_eq_true, Bool.and_eq_true, decide_eq_true_eq, ge_iff_le,
      UInt32.le_iff_toNat_le, Char.toNat_val] at ha
    rcases ha with (⟨-, h⟩ | ⟨-, h⟩) | ⟨-, h⟩ <;> exact Nat.lt_of_le_of_lt h (by decide)
  · exact of_decide_eq_true (others c (List.contains_iff_mem.mp hl))

theorem isBlank_of_isHrefSafe {c : Char} (h : isHrefSafe c = true) : Text.isBlank c = false := by
  have table : ∀ n < 128, isHrefSafe (Char.ofNat n) = true → Text.isBlank (Char.ofNat n) = false := by
    decide +kernel
  have hc := table c.toNat (isHrefSafe_plain h)
  rw [Char.ofNat_toNat] at hc
  exact hc h

theorem trimStart_cons {c : Char} (h : Text.isBlank c = false) (rest : List Char) :
    Text.trimStart (c :: rest) = c :: rest := by
  simp [Text.trimStart, h]

/-- Nothing is trimmed from a text that starts with a front. -/
theorem IsFront.trimStart_eq {front : List Char} (h : IsFront front) {cs : List Char}
    (hp : front <+: cs.map Char.toLower) : Text.trimStart cs = cs := by
  obtain ⟨p, ps, rfl⟩ := List.exists_cons_of_ne_nil h.nonempty
  cases cs with
  | nil => rfl
  | cons c rest =>
    rw [List.map_cons, List.cons_prefix_cons] at hp
    obtain ⟨rfl, -⟩ := hp
    exact trimStart_cons
      (isBlank_of_isHrefSafe (isHrefSafe_of_isFrontChar (h.signs _ (List.mem_cons_self ..)))) rest

/-- Nor from a text that was veiled. -/
theorem Veils.trimStart_eq {encode : Char → List Char} (h : Veils encode) (cs : List Char) :
    Text.trimStart (cs.flatMap encode) = cs.flatMap encode := by
  cases cs with
  | nil => rfl
  | cons c rest =>
    rw [List.flatMap_cons]
    cases hs : isHrefSafe c with
    | true =>
      rw [h.keeps c hs]
      exact trimStart_cons (isBlank_of_isHrefSafe hs) _
    | false =>
      obtain ⟨d, ds, he, hd⟩ := h.starts c hs
      have signs : ∀ d ∈ ['%', '&', '\''], (!Text.isBlank d) = true :=
        List.all_eq_true.mp (by decide)
      have hblank : Text.isBlank d = false := by simpa using signs d hd
      rw [he]
      exact trimStart_cons hblank _

theorem isDangerousChars_iff {cs : List Char} :
    isDangerousChars cs = true ↔
      (∃ front ∈ dangerousSchemes, front <+: Text.lower (Text.trimStart cs)) ∧
        ∀ front ∈ safeDataUrls, ¬ front <+: Text.lower (Text.trimStart cs) := by
  simp [isDangerousChars, startsWithAny, List.isPrefixOf_iff_prefix]

/-- A dangerous text without blanks in front starts with a scheme in plain letters of either case,
and with the front of no safe URL. -/
theorem isDangerousChars_iff_of_trimmed {cs : List Char} (h : Text.trimStart cs = cs) :
    isDangerousChars cs = true ↔
      (∃ front ∈ dangerousSchemes, front <+: cs.map Char.toLower) ∧
        ∀ front ∈ safeDataUrls, ¬ front <+: cs.map Char.toLower := by
  rw [isDangerousChars_iff, h]
  refine and_congr (exists_congr fun front => and_congr_right fun hf => ?_)
    (forall₂_congr fun front hf => not_congr ?_)
  · exact Text.isPrefix_lower_iff (isFront_of_dangerous front hf) cs
  · exact Text.isPrefix_lower_iff (isFront_of_safe front hf) cs

/-- **Escaping uncovers no scheme.** -/
theorem Veils.isDangerousChars {encode : Char → List Char} (h : Veils encode) {cs : List Char}
    (hcs : isDangerousChars cs = false) : Url.isDangerousChars (cs.flatMap encode) = false := by
  refine Bool.eq_false_iff.mpr fun hd => Bool.eq_false_iff.mp hcs ?_
  obtain ⟨⟨front, hf, hp⟩, hsafe⟩ := (isDangerousChars_iff_of_trimmed (h.trimStart_eq cs)).mp hd
  have hfront := isFront_of_dangerous front hf
  rw [h.isPrefix_iff hfront.signs] at hp
  refine (isDangerousChars_iff_of_trimmed (hfront.trimStart_eq hp)).mpr ⟨⟨front, hf, hp⟩, ?_⟩
  intro safe hs hsp
  exact hsafe safe hs ((h.isPrefix_iff (isFront_of_safe safe hs).signs cs).mpr hsp)

/-- A text that was veiled and is not dangerous has no scheme in front, in letters of either case,
but that of a safe URL. -/
theorem Veils.safe_of_scheme {encode : Char → List Char} (h : Veils encode) {cs : List Char}
    (hd : Url.isDangerousChars (cs.flatMap encode) = false) {scheme : List Char}
    (hs : scheme ∈ dangerousSchemes)
    (hp : scheme <+: (cs.flatMap encode).map Char.toLower) :
    ∃ front ∈ safeDataUrls, front <+: (cs.flatMap encode).map Char.toLower := by
  refine Classical.byContradiction fun hno => Bool.eq_false_iff.mp hd ?_
  exact (isDangerousChars_iff_of_trimmed (h.trimStart_eq cs)).mpr
    ⟨⟨scheme, hs, hp⟩, fun front hf hfp => hno ⟨front, hf, hfp⟩⟩

end Url

/-! ## Entities -/

namespace Text

/-- The entries that some lines of the table describe. -/
def entriesOf (lines : List String) : List Entity :=
  lines.flatMap fun line => (partsAt ' ' line.toList).filterMap Entity.ofWord?

/-- What a name stands for by the table of some lines. -/
def valueIn (lines : List String) (name : List Char) : Option (List Char) :=
  ((entriesOf lines).find? fun e => e.name == name).map Entity.value

theorem Entity.name_isPrefix {word : List Char} {e : Entity} (h : Entity.ofWord? word = some e) :
    e.name <+: word := by
  unfold Entity.ofWord? at h
  simp only at h
  split at h
  · obtain ⟨ns, -, rfl⟩ := Option.map_eq_some_iff.mp h
    exact List.takeWhile_prefix _
  · cases h

/-- A line without a word that starts with the name is of no use. -/
theorem valueIn_skip {name line : List Char} {lines : List String}
    (h : (partsAt ' ' line).all fun word => !name.isPrefixOf word) :
    valueIn (String.ofList line :: lines) name = valueIn lines name := by
  have hno : ((partsAt ' ' line).filterMap Entity.ofWord?).find? (fun e => e.name == name) =
      none := by
    refine List.find?_eq_none.mpr fun e he hn => ?_
    obtain ⟨word, hw, hword⟩ := List.mem_filterMap.mp he
    obtain rfl := eq_of_beq hn
    have hp := List.isPrefixOf_iff_prefix.mpr (Entity.name_isPrefix hword)
    simpa [hp] using List.all_eq_true.mp h word hw
  unfold valueIn entriesOf
  rw [List.flatMap_cons, String.toList_ofList, List.find?_append, hno, Option.none_or]

theorem valueIn_found {name line value : List Char} {lines : List String}
    (h : (((partsAt ' ' line).filterMap Entity.ofWord?).find? fun e => e.name == name).map
      Entity.value = some value) :
    valueIn (String.ofList line :: lines) name = some value := by
  obtain ⟨e, he, hv⟩ := Option.map_eq_some_iff.mp h
  unfold valueIn entriesOf
  rw [List.flatMap_cons, String.toList_ofList, List.find?_append, he]
  exact congrArg some hv

/-- The table is read line by line up to the line of the name. -/
theorem valueIn_amp : valueIn entityLines ['a', 'm', 'p'] = some ['&'] := by
  unfold entityLines
  repeat' first
    | refine (valueIn_skip (by decide +kernel)).trans ?_
    | exact valueIn_found (by decide +kernel)

theorem named_amp : named ['a', 'm', 'p'] = ['&'] := by
  obtain ⟨e, he, hv⟩ := Option.map_eq_some_iff.mp valueIn_amp
  have hentity : entity? ['a', 'm', 'p'] = some e := he
  rw [named, hentity]
  exact hv

/-- Text without ampersands is read as it is. -/
theorem decodedFrom_append {cs : List Char} (h : '&' ∉ cs) (rest : List Char) :
    decodedFrom 0 (cs ++ rest) = cs ++ decodedFrom 0 rest := by
  induction cs with
  | nil => rfl
  | cons c cs ih =>
    obtain ⟨hc, hcs⟩ := List.ne_and_not_mem_of_not_mem_cons h
    rw [List.cons_append, decodedFrom, if_neg (Ne.symm hc), ih hcs]
    rfl

theorem decodedFrom_amp (rest : List Char) :
    decodedFrom 0 (['&', 'a', 'm', 'p', ';'] ++ rest) = '&' :: decodedFrom 0 rest := by
  have href : reference? ('a' :: 'm' :: 'p' :: ';' :: rest) = some (['&'], rest) := by
    have hname : ('a' :: 'm' :: 'p' :: ';' :: rest).takeWhile isNameChar = ['a', 'm', 'p'] := by
      simp +decide [List.takeWhile, isNameChar]
    simp [reference?, hname, named_amp]
  have hskip : (('a' :: 'm' :: 'p' :: ';' :: rest).length - rest.length) = 4 := by
    simp only [List.length_cons]
    omega
  simp only [List.cons_append, List.nil_append]
  rw [decodedFrom, if_pos rfl, href]
  simp only [hskip]
  rfl

theorem decodedFrom_quote (rest : List Char) :
    decodedFrom 0 (['&', '#', 'x', '2', '7', ';'] ++ rest) = '\'' :: decodedFrom 0 rest := by
  have href : reference? ('#' :: 'x' :: '2' :: '7' :: ';' :: rest) = some (['\''], rest) := by
    have hdigits : digitsBeforeSemicolon? (fun c => (hexValue? c).isSome) ('2' :: '7' :: ';' :: rest) =
        some (['2', '7'], rest) := by
      have htake : ('2' :: '7' :: ';' :: rest).takeWhile (fun c => (hexValue? c).isSome) =
          ['2', '7'] := rfl
      simp [digitsBeforeSemicolon?, htake]
    have hvalue : numbered ((hexNumber? ['2', '7']).getD 0) = ['\''] := by decide
    simp [reference?, hdigits, hvalue]
  have hskip : (('#' :: 'x' :: '2' :: '7' :: ';' :: rest).length - rest.length) = 5 := by
    simp only [List.length_cons]
    omega
  simp only [List.cons_append, List.nil_append]
  rw [decodedFrom, if_pos rfl, href]
  simp only [hskip]
  rfl

end Text

namespace Url

/-- How a character of a URL is written in an attribute, the entities resolved. -/
def bareHrefChar (c : Char) : List Char :=
  if isHrefSafe c then [c] else if c = '&' ∨ c = '\'' then [c] else percentChar c

theorem percentChar_cons (c : Char) : ∃ ds, percentChar c = '%' :: ds := by
  unfold percentChar
  obtain ⟨b, bs, hb⟩ := List.exists_cons_of_ne_nil (String.utf8EncodeChar_ne_nil (c := c))
  rw [hb, List.flatMap_cons]
  exact ⟨_, rfl⟩

theorem veils_hrefChar : Veils hrefChar where
  keeps c hs := by rw [hrefChar, if_pos hs]
  starts c hs := by
    obtain ⟨ds, hp⟩ := percentChar_cons c
    rw [hrefChar, if_neg (Bool.eq_false_iff.mp hs)]
    split
    · exact ⟨_, _, rfl, by decide⟩
    · split
      · exact ⟨_, _, rfl, by decide⟩
      · exact ⟨_, _, hp, by decide⟩

theorem veils_bareHrefChar : Veils bareHrefChar where
  keeps c hs := by rw [bareHrefChar, if_pos hs]
  starts c hs := by
    obtain ⟨ds, hp⟩ := percentChar_cons c
    rw [bareHrefChar, if_neg (Bool.eq_false_iff.mp hs)]
    split
    · next hc => rcases hc with rfl | rfl <;> exact ⟨_, _, rfl, by decide⟩
    · exact ⟨_, _, hp, by decide⟩

/-- What an escape is made of can stand in an attribute as it is. -/
theorem isHrefSafe_of_mem_percentChar {c d : Char} (h : d ∈ percentChar c) :
    isHrefSafe d = true := by
  have digits : ∀ n < 16, isHrefSafe (upperHexDigit n) = true := by decide
  obtain ⟨b, -, hd⟩ := List.mem_flatMap.mp h
  have hb : b.toNat < 256 := b.toNat_lt
  simp only [percentByte, List.mem_cons, List.not_mem_nil, or_false] at hd
  rcases hd with rfl | rfl | rfl
  · decide
  · exact digits _ (by omega)
  · exact digits _ (by omega)

theorem isHrefSafe_of_mem_hrefChar {c d : Char} (h : d ∈ hrefChar c) :
    isHrefSafe d = true ∨ d = '&' ∨ d = ';' := by
  unfold hrefChar at h
  split at h
  · next hs =>
    rw [List.mem_singleton.mp h]
    exact .inl hs
  · split at h
    · have amp : ∀ d ∈ ['&', 'a', 'm', 'p', ';'], (isHrefSafe d || d == '&' || d == ';') = true :=
        List.all_eq_true.mp (by decide)
      simpa [or_assoc] using amp d h
    · split at h
      · have quote : ∀ d ∈ ['&', '#', 'x', '2', '7', ';'],
            (isHrefSafe d || d == '&' || d == ';') = true := List.all_eq_true.mp (by decide)
        simpa [or_assoc] using quote d h
      · exact .inl (isHrefSafe_of_mem_percentChar h)

/-- Resolving the entities of an escaped URL undoes nothing but them. -/
theorem decoded_hrefChars (cs : List Char) :
    Text.decoded (hrefChars cs) = cs.flatMap bareHrefChar := by
  unfold Text.decoded hrefChars
  induction cs with
  | nil => rfl
  | cons c rest ih =>
    rw [List.flatMap_cons, List.flatMap_cons, hrefChar, bareHrefChar]
    split
    · next hs =>
      have hamp : '&' ∉ [c] := by
        rw [List.mem_singleton]
        rintro rfl
        exact absurd hs (by decide)
      rw [Text.decodedFrom_append hamp, ih]
    · split
      · next hc => rw [if_pos (.inl hc), Text.decodedFrom_amp, ih, hc, List.singleton_append]
      · next hnamp =>
        split
        · next hc => rw [if_pos (.inr hc), Text.decodedFrom_quote, ih, hc, List.singleton_append]
        · next hnquote =>
          have hamp : '&' ∉ percentChar c := fun h =>
            absurd (isHrefSafe_of_mem_percentChar h) (by decide)
          rw [if_neg (not_or.mpr ⟨hnamp, hnquote⟩), Text.decodedFrom_append hamp, ih]

end Url

/-! ## What links and images write -/

/-- The attributes of a tag. -/
def Piece.attributes : Piece → List Attribute
  | .openTag _ attributes | .voidTag _ attributes | .openImage attributes => attributes
  | _ => []

/-- The URL of a link or an image, and the rewriter for it. -/
def Container.url? (style : Style) : Container → Option (Setting × String)
  | .link url _ => some (style.html.linkUrlRewriter, url)
  | .image url _ => some (style.html.imageUrlRewriter, url)
  | _ => none

/-- Attributes that hold no URL but the one given. -/
def OnlyUrl (text : String) (attributes : List Attribute) : Prop :=
  ∀ a ∈ attributes, a.name = "href" ∨ a.name = "src" → a.value = some text

theorem onlyUrl_nil (text : String) : OnlyUrl text [] := fun _ ha => nomatch ha

theorem onlyUrl_self (name text : String) : OnlyUrl text [⟨name, some text⟩] := by
  intro a ha _
  rw [List.mem_singleton.mp ha]

theorem onlyUrl_other {name : String} (h : ¬(name = "href" ∨ name = "src")) (text : String)
    (value : Option String) : OnlyUrl text [⟨name, value⟩] := by
  intro a ha hn
  rw [List.mem_singleton.mp ha] at hn
  exact absurd hn h

theorem OnlyUrl.append {text : String} {as bs : List Attribute} (ha : OnlyUrl text as)
    (hb : OnlyUrl text bs) : OnlyUrl text (as ++ bs) := fun a hm =>
  (List.mem_append.mp hm).elim (ha a) (hb a)

theorem onlyUrl_position (text : String) (style : Style) (info : Info) :
    OnlyUrl text (style.position info) := by
  unfold Style.position
  repeat' split
  · exact onlyUrl_other (by decide) _ _
  · exact onlyUrl_nil _
  · exact onlyUrl_nil _

theorem onlyUrl_title (text : String) (title : Option String) :
    OnlyUrl text (titleAttribute title) := by
  unfold titleAttribute
  repeat' split
  · exact onlyUrl_nil _
  · exact onlyUrl_other (by decide) _ _
  · exact onlyUrl_nil _

theorem onlyUrl_mark (text : String) : OnlyUrl text [Override.mark] :=
  onlyUrl_other (by decide) _ _

/-- Pieces whose tags hold no URL but the one given. -/
def WritesUrl (text : String) (pieces : List Piece) : Prop :=
  ∀ piece ∈ pieces, OnlyUrl text piece.attributes

theorem writesUrl_nil (text : String) : WritesUrl text [] := fun _ hp => nomatch hp

theorem WritesUrl.cons {text : String} {piece : Piece} {pieces : List Piece}
    (h : OnlyUrl text piece.attributes) (hp : WritesUrl text pieces) :
    WritesUrl text (piece :: pieces) := List.forall_mem_cons.mpr ⟨h, hp⟩

theorem WritesUrl.append {text : String} {as bs : List Piece} (ha : WritesUrl text as)
    (hb : WritesUrl text bs) : WritesUrl text (as ++ bs) := fun piece hm =>
  (List.mem_append.mp hm).elim (ha piece) (hb piece)

section Written

variable {style : Style} {info : Info} {url : String} {title : Option String}

theorem writesUrl_linkOpening {marks : List Attribute}
    (hm : OnlyUrl (style.urlText style.html.linkUrlRewriter url) marks) :
    WritesUrl (style.urlText style.html.linkUrlRewriter url)
      (Default.linkOpening style info url title marks) :=
  .cons (((onlyUrl_position _ style info).append
    ((onlyUrl_self "href" _).append (onlyUrl_title _ title))).append hm) (writesUrl_nil _)

theorem writesUrl_imageOpening {marks : List Attribute}
    (hm : OnlyUrl (style.urlText style.html.imageUrlRewriter url) marks) :
    WritesUrl (style.urlText style.html.imageUrlRewriter url)
      (Default.imageOpening style info url marks) := by
  refine .append ?_ (.cons ((onlyUrl_position _ style info).append
    ((onlyUrl_self "src" _).append hm)) (writesUrl_nil _))
  split
  · exact .cons (onlyUrl_nil _) (writesUrl_nil _)
  · exact writesUrl_nil _

/-- What can be written for a link or an image: tags without attributes, or an opening tag with the URL,
with or without a mark. -/
inductive UrlPieces (style : Style) (info : Info) (url : String) : Setting → List Piece → Prop
  | plain {rewriter : Setting} {pieces : List Piece} (h : ∀ piece ∈ pieces, piece.attributes = []) :
      UrlPieces style info url rewriter pieces
  | link (title : Option String) {marks : List Attribute} (h : marks = [] ∨ marks = [Override.mark]) :
      UrlPieces style info url style.html.linkUrlRewriter
        (Default.linkOpening style info url title marks)
  | image {marks : List Attribute} (h : marks = [] ∨ marks = [Override.mark]) :
      UrlPieces style info url style.html.imageUrlRewriter (Default.imageOpening style info url marks)

theorem urlPieces_nil (rewriter : Setting) : UrlPieces style info url rewriter [] :=
  .plain fun _ hp => nomatch hp

theorem urlPieces_singleton (rewriter : Setting) {piece : Piece} (h : piece.attributes = []) :
    UrlPieces style info url rewriter [piece] :=
  .plain (List.forall_mem_singleton.mpr h)

theorem urlPieces_imageClosing (rewriter : Setting) :
    UrlPieces style info url rewriter (Default.imageClosing style title) := by
  refine .plain ?_
  unfold Default.imageClosing
  split
  · split <;> simp [Piece.attributes]
  · simp [Piece.attributes]

/-- A visit to a link or an image writes such pieces. -/
theorem Formatter.urlPieces (formatter : Formatter) {kind : Container} {rewriter : Setting}
    (hk : kind.url? style = some (rewriter, url)) (children : List Node)
    (ancestors : List Occurrence) (place : List Nat) (marks : Marks) (phase : Phase) :
    UrlPieces style info url rewriter
      ((formatter.emitter style).visit ancestors ⟨.box kind info children, place⟩ phase
        marks).pieces := by
  rw [Formatter.emitter_visit]
  cases kind with
  | link target title =>
    cases hk
    have hdefault : UrlPieces style info url style.html.linkUrlRewriter (Default.visit style
        ancestors marks ⟨.box (.link url title) info children, place⟩ phase).pieces := by
      simp only [Default.visit, Default.containerVisit, Default.link]
      repeat' split
      · exact urlPieces_nil _
      · exact urlPieces_singleton _ rfl
      · exact urlPieces_nil _
      · exact .link title (.inl rfl)
      · exact urlPieces_singleton _ rfl
    rcases formatter.visitor_eq style _ with hv | ⟨override, hv⟩ <;> rw [hv]
    · exact hdefault
    · cases override with
      | link =>
        simp only [Visitor.emit, Visited.emission, Override.visit, Override.visitLink]
        repeat' split
        · exact hdefault
        · exact urlPieces_nil _
        · exact .link title (.inr rfl)
        · exact urlPieces_singleton _ rfl
      | _ => exact urlPieces_nil _
  | image target title =>
    cases hk
    have hdefault : UrlPieces style info url style.html.imageUrlRewriter (Default.visit style
        ancestors marks ⟨.box (.image url title) info children, place⟩ phase).pieces := by
      cases phase with
      | entering => exact .image (.inl rfl)
      | leaving => exact urlPieces_imageClosing _
    rcases formatter.visitor_eq style _ with hv | ⟨override, hv⟩ <;> rw [hv]
    · exact hdefault
    · cases override with
      | image =>
        simp only [Visitor.emit, Visited.emission, Override.visit, Override.visitImage]
        repeat' split
        · exact hdefault
        · exact urlPieces_imageClosing _
        · exact .image (.inr rfl)
      | _ => exact urlPieces_nil _
  | _ => cases hk

theorem onlyUrl_of_marks (text : String) {marks : List Attribute}
    (h : marks = [] ∨ marks = [Override.mark]) : OnlyUrl text marks := by
  rcases h with rfl | rfl
  · exact onlyUrl_nil text
  · exact onlyUrl_mark text

theorem UrlPieces.writesUrl {rewriter : Setting} {pieces : List Piece}
    (h : UrlPieces style info url rewriter pieces) :
    WritesUrl (style.urlText rewriter url) pieces := by
  cases h with
  | plain h =>
    intro piece hp
    rw [h piece hp]
    exact onlyUrl_nil _
  | link title h => exact writesUrl_linkOpening (onlyUrl_of_marks _ h)
  | image h => exact writesUrl_imageOpening (onlyUrl_of_marks _ h)

/-- The markup of a link or an image has its URL for the only one. -/
theorem Formatter.writesUrl (formatter : Formatter) {kind : Container} {rewriter : Setting}
    (hk : kind.url? style = some (rewriter, url)) (children : List Node)
    (ancestors : List Occurrence) (place : List Nat) (marks : Marks) (phase : Phase) :
    WritesUrl (style.urlText rewriter url)
      ((formatter.emitter style).visit ancestors ⟨.box kind info children, place⟩ phase
        marks).pieces :=
  (formatter.urlPieces hk children ancestors place marks phase).writesUrl

end Written

/-! ## Untrusted URLs -/

namespace Url

/-- One of the four schemes stands at the front that run a script, open a local file or carry their data
along. -/
def HasScheme (cs : List Char) : Prop :=
  ∃ scheme ∈ ["javascript:", "vbscript:", "file:", "data:"], scheme.toList <+: cs

/-- The data is an image of one of the four common formats. -/
def IsImageData (cs : List Char) : Prop :=
  ∃ front ∈ ["data:image/png", "data:image/gif", "data:image/jpeg", "data:image/webp"],
    front.toList <+: cs

instance (cs : List Char) : Decidable (HasScheme cs) :=
  inferInstanceAs (Decidable (∃ scheme ∈ _, _))

instance (cs : List Char) : Decidable (IsImageData cs) :=
  inferInstanceAs (Decidable (∃ front ∈ _, _))

theorem hasScheme_iff {cs : List Char} :
    HasScheme cs ↔ ∃ scheme ∈ dangerousSchemes, scheme <+: cs := by
  simp [HasScheme, dangerousSchemes]

theorem isImageData_iff {cs : List Char} :
    IsImageData cs ↔ ∃ front ∈ safeDataUrls, front <+: cs := by
  simp [IsImageData, safeDataUrls]

theorem isHrefSafe_iff {c : Char} :
    isHrefSafe c = true ↔ c.isAlphanum = true ∨ c ∈ "-_.+!*(),%#@?=;:/$~".toList := by
  rw [isHrefSafe, Bool.or_eq_true, List.contains_iff_mem]

/-- Text that can stand in an attribute for a URL that is not trusted: made of signs of URLs and of
entities, and without a dangerous scheme in front, as it is written and with its entities resolved.
-/
structure Harmless (text : String) : Prop where
  signs : ∀ c ∈ text.toList,
    (c.isAlphanum = true ∨ c ∈ "-_.+!*(),%#@?=;:/$~".toList) ∨ c = '&' ∨ c = ';'
  written : isDangerous text = false
  resolved : isDangerousChars (Text.decoded text.toList) = false
  schemes : ∀ cs ∈ [text.toList, Text.decoded text.toList],
    HasScheme (cs.map Char.toLower) → IsImageData (cs.map Char.toLower)

theorem harmless_empty : Harmless "" where
  signs _ hc := nomatch hc
  written := by decide
  resolved := by decide
  schemes := by decide

/-- A URL that is not dangerous is escaped to harmless text. -/
theorem harmless_href {url : String} (h : isDangerous url = false) : Harmless (href url) := by
  have hwritten : (href url).toList = url.toList.flatMap hrefChar := String.toList_ofList
  have hresolved : Text.decoded (href url).toList = url.toList.flatMap bareHrefChar := by
    rw [hwritten]
    exact decoded_hrefChars _
  have hd := veils_hrefChar.isDangerousChars h
  have hd' := veils_bareHrefChar.isDangerousChars h
  constructor
  · intro c hc
    rw [hwritten] at hc
    obtain ⟨d, -, hcd⟩ := List.mem_flatMap.mp hc
    rw [← isHrefSafe_iff]
    exact isHrefSafe_of_mem_hrefChar hcd
  · rwa [isDangerous, hwritten]
  · rwa [hresolved]
  · rw [hresolved, hwritten]
    intro cs hcs hscheme
    obtain ⟨scheme, hs, hp⟩ := hasScheme_iff.mp hscheme
    simp only [List.mem_cons, List.not_mem_nil, or_false] at hcs
    rw [isImageData_iff]
    rcases hcs with rfl | rfl
    · exact veils_hrefChar.safe_of_scheme hd hs hp
    · exact veils_bareHrefChar.safe_of_scheme hd' hs hp

/-- With a dangerous scheme in front and no image behind it a URL is dangerous. -/
theorem isDangerous_of_hasScheme {url : String}
    (hscheme : HasScheme (Text.lower (Text.trimStart url.toList)))
    (himage : ¬IsImageData (Text.lower (Text.trimStart url.toList))) : isDangerous url = true := by
  rw [isImageData_iff] at himage
  refine isDangerousChars_iff.mpr ⟨hasScheme_iff.mp hscheme, fun front hfront hp => ?_⟩
  exact himage ⟨front, hfront, hp⟩

end Url

/-- **What is written for an untrusted URL is harmless**, and nothing is written for a URL that starts
with a dangerous scheme, blanks in front and case aside. It is all that the tags of a link or an image
hold for their URL. -/
theorem Style.urlText_harmless {style : Style} (htrust : style.html.on .trusted = false)
    {rewriter : Setting} (hr : rewriter.rewriter? = none) (url : String) :
    Url.Harmless (style.urlText rewriter url) ∧
    (Url.HasScheme (Text.lower (Text.trimStart url.toList)) →
      ¬Url.IsImageData (Text.lower (Text.trimStart url.toList)) → style.urlText rewriter url = "") ∧
    ∀ (formatter : Formatter) (kind : Container), kind.url? style = some (rewriter, url) →
      ∀ info children ancestors place marks phase,
        WritesUrl (style.urlText rewriter url)
          ((formatter.emitter style).visit ancestors ⟨.box kind info children, place⟩ phase
            marks).pieces := by
  have hsuppress : style.suppresses url = Url.isDangerous url := by simp [Style.suppresses, htrust]
  refine ⟨?_, fun hscheme himage => ?_, fun formatter kind hk _ children ancestors place marks
    phase => formatter.writesUrl hk children ancestors place marks phase⟩
  · unfold Style.urlText
    rw [hsuppress, hr]
    cases hd : Url.isDangerous url with
    | true => exact Url.harmless_empty
    | false => exact Url.harmless_href hd
  · rw [Style.urlText, hsuppress, if_pos (Url.isDangerous_of_hasScheme hscheme himage)]

/-- An image in letters of both cases, and an ampersand and a quote behind it. -/
theorem Style.urlText_harmless_image :
    let url := "Data:image/PNG;'x'&#x6A; y"
    ({} : Style).html.on .trusted = false ∧ Setting.none.rewriter? = none ∧
      ({} : Style).urlText .none url = "Data:image/PNG;&#x27;x&#x27;&amp;#x6A;%20y" ∧
      Url.Harmless (({} : Style).urlText .none url) := by
  intro url
  have htrust : ({} : Style).html.on .trusted = false := rfl
  have hr : Setting.none.rewriter? = none := rfl
  exact ⟨htrust, hr, by decide +kernel, (Style.urlText_harmless htrust hr url).1⟩

end FlavoredMarkdown
