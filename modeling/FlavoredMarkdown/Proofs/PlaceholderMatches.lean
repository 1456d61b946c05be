import FlavoredMarkdown.Placeholder

/-!
# Where placeholders stand in a text

A scan (`iter_placeholders`) reads a placeholder, leaves out its characters and goes on behind it, so it
could miss one that starts inside the one just read. None does: a placeholder starts with a percent sign
that `{` or `7B` follows, and the only percent sign inside one is that of `%7D`. So the placeholders
that the scan finds are those that can be read at any position at all.

* Digits and letters are word characters, so `7B` and `7D` may be part of a name. The name is still the
  whole run of word characters, since what closes a placeholder starts with none.
* For the same reason nothing is read across the ends of a placeholder: what is found in a text is found
  in its parts, if it is cut before and behind a placeholder.

Results:
* `isToken_iff`: the spellings written out are those of the program.
* `read?_eq_some_iff`: what is read is what stands at the front.
* `read?_inside`: no placeholder starts inside another one.
* `matchesFrom_scanFrom`: scanning finds what can be read at any position.
* **`matches_exact`**: the matches of a text are the places where a placeholder stands, and those of a
  text around a placeholder are those of its parts.
-/

namespace FlavoredMarkdown

namespace Placeholder

/-- A placeholder that can be written down: its name has between one and thirty word characters. -/
structure IsProper (p : Placeholder) : Prop where
  one_le : 1 ≤ p.name.length
  le_max : p.name.length ≤ 30
  word : ∀ c ∈ p.name, Text.isWord c = true

/-- A text that is a placeholder from end to end, written out: a name of one to thirty word characters
between `%{` and `}`, or between `%7B` and `%7D`. -/
def IsToken (cs : List Char) : Prop :=
  ∃ name : List Char, 1 ≤ name.length ∧ name.length ≤ 30 ∧ (∀ c ∈ name, Text.isWord c = true) ∧
    (cs = ['%', '{'] ++ name ++ ['}'] ∨ cs = ['%', '7', 'B'] ++ name ++ ['%', '7', 'D'])

theorem isToken_iff {cs : List Char} :
    IsToken cs ↔ ∃ p : Placeholder, p.IsProper ∧ cs = p.source := by
  constructor
  · rintro ⟨name, hone, hmax, hword, hplain | hescaped⟩
    · exact ⟨⟨.plain, name⟩, ⟨hone, hmax, hword⟩, hplain⟩
    · exact ⟨⟨.escaped, name⟩, ⟨hone, hmax, hword⟩, hescaped⟩
  · rintro ⟨⟨spelling, name⟩, hp, hcs⟩
    refine ⟨name, hp.one_le, hp.le_max, hp.word, ?_⟩
    cases spelling with
    | plain => exact .inl hcs
    | escaped => exact .inr hcs

/-- The characters of a text from `start` up to and without `stop`. -/
def between (cs : List Char) (start stop : Nat) : List Char := (cs.take stop).drop start

/-! ## What is read at the front -/

/-- No word goes on into what closes a placeholder. -/
theorem takeWhile_closing (spelling : Spelling) (rest : List Char) :
    (spelling.closing ++ rest).takeWhile Text.isWord = [] := by
  have hbrace : Text.isWord '}' = false := by decide +kernel
  have hpercent : Text.isWord '%' = false := by decide +kernel
  cases spelling <;> simp [Spelling.closing, hbrace, hpercent]

theorem readAs?_append {p : Placeholder} (h : p.IsProper) (rest : List Char) :
    readAs? p.spelling (p.source ++ rest) = some p := by
  have htext : p.source ++ rest = p.spelling.opening ++ (p.name ++ (p.spelling.closing ++ rest)) := by
    simp [source]
  have hname : (p.name ++ (p.spelling.closing ++ rest)).takeWhile Text.isWord = p.name := by
    rw [List.takeWhile_append_of_pos h.word, takeWhile_closing, List.append_nil]
  have hopening : p.spelling.opening.isPrefixOf (p.source ++ rest) = true := by
    rw [List.isPrefixOf_iff_prefix, htext]
    exact List.prefix_append _ _
  have hclosing : p.spelling.closing.isPrefixOf (p.spelling.closing ++ rest) = true :=
    List.isPrefixOf_iff_prefix.mpr (List.prefix_append _ _)
  rw [readAs?, if_pos hopening, htext, List.drop_left]
  have hmax : p.name.length ≤ maxNameLength := h.le_max
  simp only [hname, List.drop_left, hclosing, h.one_le, hmax, decide_true, Bool.and_self, if_true]

theorem isProper_of_readAs? {spelling : Spelling} {cs : List Char} {p : Placeholder}
    (h : readAs? spelling cs = some p) : p.IsProper := by
  unfold readAs? at h
  split at h
  · simp only at h
    split at h
    · next hn =>
      simp only [Bool.and_eq_true, decide_eq_true_eq] at hn
      cases h
      exact ⟨hn.1.1, hn.1.2, fun c hc => List.all_eq_true.mp List.all_takeWhile c hc⟩
    · cases h
  · cases h

/-- **What is read is what stands at the front**, and nothing else can be read there. -/
theorem read?_eq_some_iff {cs : List Char} {p : Placeholder} :
    read? cs = some p ↔ p.IsProper ∧ p.source <+: cs := by
  constructor
  · intro h
    refine ⟨?_, read?_source h⟩
    rcases Option.or_eq_some_iff.mp h with hp | ⟨-, hp⟩
    · exact isProper_of_readAs? hp
    · exact isProper_of_readAs? hp
  · rintro ⟨hp, rest, rfl⟩
    have hread := readAs?_append hp rest
    unfold read?
    cases hs : p.spelling with
    | plain =>
      rw [hs] at hread
      rw [hread, Option.some_or]
    | escaped =>
      have hplain : readAs? .plain (p.source ++ rest) = none := by
        simp [readAs?, source, hs, Spelling.opening]
      rw [hs] at hread
      rw [hplain, Option.none_or, hread]

/-! ## Inside a placeholder -/

theorem read?_of_ne {c : Char} (h : c ≠ '%') (rest : List Char) : read? (c :: rest) = none := by
  cases hr : read? (c :: rest) with
  | none => rfl
  | some p =>
    have hp := read?_source hr
    have hhead : p.source.head? = some '%' := by cases hs : p.spelling <;> simp [source, hs, Spelling.opening]
    obtain ⟨tail, htail⟩ := hp
    cases hs : p.source with
    | nil => simp [hs] at hhead
    | cons d ds =>
      rw [hs, List.head?_cons] at hhead
      rw [hs, List.cons_append] at htail
      exact absurd ((List.cons.inj htail).1.symm.trans (Option.some.inj hhead)) h

/-- Nothing is read where no percent sign stands. -/
theorem read?_drop_of_not_mem {cs : List Char} (h : '%' ∉ cs) {k : Nat} (hk : k < cs.length)
    (rest : List Char) : read? ((cs ++ rest).drop k) = none := by
  rw [List.drop_append_of_le_length (Nat.le_of_lt hk), List.drop_eq_getElem_cons hk, List.cons_append]
  refine read?_of_ne (fun he => h ?_) _
  rw [← he]
  exact List.getElem_mem hk

/-- What closes a placeholder starts none. -/
theorem read?_closing (spelling : Spelling) {k : Nat} (hk : k < spelling.closing.length)
    (rest : List Char) : read? ((spelling.closing ++ rest).drop k) = none := by
  have hend : read? ('%' :: '7' :: 'D' :: rest) = none := by
    simp [read?, readAs?, Spelling.opening]
  cases spelling with
  | plain =>
    have hk0 : k = 0 := by simpa [Spelling.closing] using hk
    subst hk0
    exact read?_of_ne (by decide) _
  | escaped =>
    simp only [Spelling.closing, List.length_cons, List.length_nil] at hk
    have hthree : k = 0 ∨ k = 1 ∨ k = 2 := by omega
    rcases hthree with rfl | rfl | rfl
    · exact hend
    · exact read?_of_ne (by decide) _
    · exact read?_of_ne (by decide) _

/-- **No placeholder starts inside another one.** -/
theorem read?_inside {p : Placeholder} (h : p.IsProper) {k : Nat} (hpos : 0 < k)
    (hk : k < p.source.length) (rest : List Char) : read? ((p.source ++ rest).drop k) = none := by
  obtain ⟨j, rfl⟩ := Nat.exists_eq_succ_of_ne_zero (Nat.ne_of_gt hpos)
  obtain ⟨front, hopening, hfront⟩ : ∃ front, p.spelling.opening = '%' :: front ∧ '%' ∉ front := by
    cases p.spelling
    · exact ⟨['{'], rfl, by decide⟩
    · exact ⟨['7', 'B'], rfl, by decide⟩
  have hno : '%' ∉ front ++ p.name := by
    have hpercent : Text.isWord '%' = false := by decide +kernel
    rw [List.mem_append]
    rintro (hm | hm)
    · exact hfront hm
    · rw [h.word _ hm] at hpercent
      cases hpercent
  have htext : p.source ++ rest = '%' :: ((front ++ p.name) ++ (p.spelling.closing ++ rest)) := by
    simp [source, hopening]
  have hlength : p.source.length = (front ++ p.name).length + p.spelling.closing.length + 1 := by
    simp only [source, hopening, List.length_append, List.length_cons]
    omega
  rw [htext, List.drop_succ_cons]
  by_cases hj : j < (front ++ p.name).length
  · exact read?_drop_of_not_mem hno hj _
  · rw [List.drop_append, List.drop_eq_nil_of_le (Nat.le_of_not_lt hj), List.nil_append]
    exact read?_closing _ (by omega) _

/-! ## Reading at every position -/

/-- What can be read at the positions of a text, the first of which is `pos`. -/
def readEverywhere (pos : Nat) : List Char → List Match
  | [] => []
  | c :: rest =>
    match read? (c :: rest) with
    | some p => ⟨pos, pos + p.source.length, p⟩ :: readEverywhere (pos + 1) rest
    | none => readEverywhere (pos + 1) rest

/-- **A scan finds what can be read at any position**: it leaves out positions where nothing can be
read. -/
theorem matchesFrom_scanFrom {skip : Nat} {cs : List Char} (hskip : skip ≤ cs.length)
    (hnone : ∀ k < skip, read? (cs.drop k) = none) (pos : Nat) :
    matchesFrom (pos + skip) (scanFrom skip cs) = readEverywhere pos cs := by
  induction cs generalizing skip pos with
  | nil => rfl
  | cons c rest ih =>
    cases skip with
    | succ skip =>
      have hhead : read? (c :: rest) = none := hnone 0 (Nat.succ_pos _)
      rw [scanFrom, readEverywhere, hhead]
      rw [← ih (Nat.le_of_succ_le_succ hskip) (fun k hk => hnone (k + 1) (Nat.succ_lt_succ hk)),
        Nat.add_assoc, Nat.add_comm 1 skip]
    | zero =>
      rw [scanFrom, readEverywhere]
      cases hr : read? (c :: rest) with
      | none =>
        rw [← ih (Nat.zero_le _) fun k hk => absurd hk (Nat.not_lt_zero _)]
        rfl
      | some p =>
        obtain ⟨hp, tail, htail⟩ := read?_eq_some_iff.mp hr
        have hpos := p.source_length_pos
        have hlength : p.source.length + tail.length = rest.length + 1 := by
          rw [← List.length_append, htail, List.length_cons]
        have hinside : ∀ k < p.source.length - 1, read? (rest.drop k) = none := by
          intro k hk
          have hin := read?_inside hp (Nat.succ_pos k) (by omega) tail
          rwa [htail, List.drop_succ_cons] at hin
        simp only [matchesFrom]
        rw [← ih (by omega) hinside, show pos + 1 + (p.source.length - 1) = pos + p.source.length by omega]
        rfl

theorem matches_eq (s : String) : «matches» s = readEverywhere 0 s.toList :=
  matchesFrom_scanFrom (Nat.zero_le _) (fun _ hk => absurd hk (Nat.not_lt_zero _)) 0

/-- A match is found if it stands where it says. -/
theorem mem_readEverywhere {pos : Nat} {cs : List Char} {m : Match} :
    m ∈ readEverywhere pos cs ↔
      ∃ k, m.start = pos + k ∧ m.stop = m.start + m.placeholder.source.length ∧
        read? (cs.drop k) = some m.placeholder := by
  induction cs generalizing pos with
  | nil =>
    have hnil : read? [] = none := rfl
    simp [readEverywhere, hnil]
  | cons c rest ih =>
    have hhead : (m ∈ readEverywhere pos (c :: rest)) ↔
        (m.start = pos ∧ m.stop = m.start + m.placeholder.source.length ∧
          read? (c :: rest) = some m.placeholder) ∨ m ∈ readEverywhere (pos + 1) rest := by
      rw [readEverywhere]
      cases hr : read? (c :: rest) with
      | none => simp
      | some p =>
        rw [List.mem_cons]
        refine or_congr_left ⟨?_, ?_⟩
        · rintro rfl
          exact ⟨rfl, rfl, rfl⟩
        · obtain ⟨start, stop, q⟩ := m
          rintro ⟨hstart, hstop, hq⟩
          obtain rfl : start = pos := hstart
          obtain rfl : p = q := Option.some.inj hq
          obtain rfl : stop = start + p.source.length := hstop
          rfl
    rw [hhead, ih]
    constructor
    · rintro (⟨hstart, hrest⟩ | ⟨k, hstart, hstop, hread⟩)
      · exact ⟨0, hstart, hrest⟩
      · exact ⟨k + 1, by omega, hstop, hread⟩
    · rintro ⟨k, hstart, hstop, hread⟩
      cases k with
      | zero => exact .inl ⟨hstart, hstop, hread⟩
      | succ k => exact .inr ⟨k, by omega, hstop, hread⟩

/-- What is read stands apart: nothing starts before what is read before it has ended. -/
theorem pairwise_readEverywhere (pos : Nat) (cs : List Char) :
    (readEverywhere pos cs).Pairwise fun m n => m.stop ≤ n.start := by
  induction cs generalizing pos with
  | nil => exact List.Pairwise.nil
  | cons c rest ih =>
    rw [readEverywhere]
    cases hr : read? (c :: rest) with
    | none => exact ih (pos + 1)
    | some p =>
      refine List.pairwise_cons.mpr ⟨fun n hn => ?_, ih (pos + 1)⟩
      obtain ⟨k, hstart, -, hread⟩ := mem_readEverywhere.mp hn
      obtain ⟨hp, tail, htail⟩ := read?_eq_some_iff.mp hr
      show pos + p.source.length ≤ n.start
      by_cases hlt : k + 1 < p.source.length
      · -- it would be read inside this one
        have hin := read?_inside hp (Nat.succ_pos k) hlt tail
        rw [htail, List.drop_succ_cons, hread] at hin
        cases hin
      · omega

/-- Positions count from where the text starts. -/
theorem readEverywhere_add (n pos : Nat) (cs : List Char) :
    readEverywhere (n + pos) cs =
      (readEverywhere pos cs).map fun m => ⟨n + m.start, n + m.stop, m.placeholder⟩ := by
  induction cs generalizing pos with
  | nil => rfl
  | cons c rest ih =>
    rw [readEverywhere, readEverywhere, Nat.add_assoc n pos 1, ih]
    cases read? (c :: rest) with
    | none => rfl
    | some p =>
      show (⟨n + pos, n + pos + p.source.length, p⟩ : Match) :: _ = _
      rw [Nat.add_assoc]
      rfl

/-- Where the first part of a text is read as it is alone, so is the whole text. -/
theorem readEverywhere_append {as bs : List Char}
    (h : ∀ k < as.length, read? ((as ++ bs).drop k) = read? (as.drop k)) (pos : Nat) :
    readEverywhere pos (as ++ bs) = readEverywhere pos as ++ readEverywhere (pos + as.length) bs := by
  induction as generalizing pos with
  | nil => rfl
  | cons a as ih =>
    have hhead : read? (a :: (as ++ bs)) = read? (a :: as) := h 0 (Nat.succ_pos _)
    have htail := ih (fun k hk => h (k + 1) (Nat.succ_lt_succ hk)) (pos + 1)
    rw [List.cons_append, readEverywhere, readEverywhere, hhead, htail, List.length_cons,
      Nat.add_assoc pos 1, Nat.add_comm 1]
    cases read? (a :: as) <;> rfl

/-- A placeholder hides what is behind it from the text before it. -/
theorem read?_before {p : Placeholder} (h : p.IsProper) (as rest : List Char) (hne : as ≠ []) :
    read? (as ++ (p.source ++ rest)) = read? as := by
  have hsource : read? (p.source ++ rest) = some p :=
    read?_eq_some_iff.mpr ⟨h, List.prefix_append _ _⟩
  cases hr : read? as with
  | some q =>
    obtain ⟨hq, hprefix⟩ := read?_eq_some_iff.mp hr
    exact read?_eq_some_iff.mpr ⟨hq, hprefix.trans (List.prefix_append _ _)⟩
  | none =>
    cases hall : read? (as ++ (p.source ++ rest)) with
    | none => rfl
    | some q =>
      obtain ⟨hq, tail, htail⟩ := read?_eq_some_iff.mp hall
      by_cases hlength : q.source.length ≤ as.length
      · have hprefix : q.source <+: as :=
          List.prefix_of_prefix_length_le ⟨tail, htail⟩ (List.prefix_append _ _) hlength
        rw [read?_eq_some_iff.mpr ⟨hq, hprefix⟩] at hr
        cases hr
      · -- `q` would hold the beginning of `p`
        have hin := read?_inside hq (List.length_pos_iff.mpr hne) (Nat.lt_of_not_le hlength) tail
        rw [htail, List.drop_left, hsource] at hin
        cases hin

/-- Positions where nothing can be read do not count. -/
theorem readEverywhere_drop {n : Nat} {cs : List Char} (hn : n ≤ cs.length)
    (h : ∀ k < n, read? (cs.drop k) = none) (pos : Nat) :
    readEverywhere pos cs = readEverywhere (pos + n) (cs.drop n) := by
  induction n generalizing pos cs with
  | zero => rfl
  | succ n ih =>
    cases cs with
    | nil => exact absurd hn (Nat.not_succ_le_zero n)
    | cons c rest =>
      have hhead : read? (c :: rest) = none := h 0 (Nat.succ_pos n)
      rw [readEverywhere, hhead, List.drop_succ_cons,
        ih (Nat.le_of_succ_le_succ hn) fun k hk => h (k + 1) (Nat.succ_lt_succ hk)]
      simp only [Nat.add_assoc, Nat.add_comm 1]

/-- A text that begins with a placeholder is read on behind it. -/
theorem readEverywhere_source {p : Placeholder} (h : p.IsProper) (rest : List Char) (pos : Nat) :
    readEverywhere pos (p.source ++ rest) =
      ⟨pos, pos + p.source.length, p⟩ :: readEverywhere (pos + p.source.length) rest := by
  have hread : read? (p.source ++ rest) = some p :=
    read?_eq_some_iff.mpr ⟨h, List.prefix_append _ _⟩
  have hpos := p.source_length_pos
  cases hs : p.source ++ rest with
  | nil => simp [hs, read?, readAs?, Spelling.opening] at hread
  | cons c tail =>
    have hbehind : tail.drop (p.source.length - 1) = rest := by
      have hdrop : (c :: tail).drop (p.source.length - 1 + 1) = rest := by
        rw [← hs, Nat.sub_add_cancel hpos, List.drop_left]
      rwa [List.drop_succ_cons] at hdrop
    have hlength : p.source.length + rest.length = tail.length + 1 := by
      rw [← List.length_append, hs, List.length_cons]
    have hinside : ∀ k < p.source.length - 1, read? (tail.drop k) = none := by
      intro k hk
      have hin := read?_inside h (Nat.succ_pos k) (by omega) rest
      rwa [hs, List.drop_succ_cons] at hin
    rw [hs] at hread
    rw [readEverywhere, hread, readEverywhere_drop (by omega) hinside, hbehind]
    simp only [Nat.add_assoc, Nat.add_sub_cancel' hpos]

/-- A text that is cut before and behind a placeholder is read part by part. -/
theorem readEverywhere_around {p : Placeholder} (h : p.IsProper) (as bs : List Char) (pos : Nat) :
    readEverywhere pos (as ++ (p.source ++ bs)) =
      readEverywhere pos as ++ ⟨pos + as.length, pos + as.length + p.source.length, p⟩ ::
        readEverywhere (pos + as.length + p.source.length) bs := by
  have hbefore : ∀ k < as.length,
      read? ((as ++ (p.source ++ bs)).drop k) = read? (as.drop k) := by
    intro k hk
    rw [List.drop_append_of_le_length (Nat.le_of_lt hk)]
    refine read?_before h _ bs fun he => ?_
    exact Nat.not_le_of_lt hk (List.drop_eq_nil_iff.mp he)
  rw [readEverywhere_append hbefore, readEverywhere_source h]

/-! ## The matches of a text -/

/-- What is between two positions of a text is a placeholder if it can be read at the first and ends
at the second. -/
theorem between_eq_source {cs : List Char} {start stop : Nat} {p : Placeholder} (hp : p.IsProper) :
    stop ≤ cs.length ∧ between cs start stop = p.source ↔
      stop = start + p.source.length ∧ read? (cs.drop start) = some p := by
  have hpos := p.source_length_pos
  rw [read?_eq_some_iff, between]
  constructor
  · rintro ⟨hstop, hbetween⟩
    have hlength : p.source.length = stop - start := by
      rw [← hbetween, List.length_drop, List.length_take, Nat.min_eq_left hstop]
    refine ⟨by omega, hp, ?_⟩
    rw [← hbetween, List.drop_take]
    exact List.take_prefix _ _
  · rintro ⟨rfl, -, hprefix⟩
    have hlength := hprefix.length_le
    rw [List.length_drop] at hlength
    refine ⟨by omega, ?_⟩
    rw [List.drop_take, Nat.add_sub_cancel_left]
    exact (List.prefix_iff_eq_take.mp hprefix).symm

theorem mem_matches {s : String} {m : Match} :
    m ∈ «matches» s ↔ m.placeholder.IsProper ∧ m.stop ≤ s.toList.length ∧
      between s.toList m.start m.stop = m.placeholder.source := by
  rw [matches_eq, mem_readEverywhere]
  constructor
  · rintro ⟨k, hstart, hstop, hread⟩
    rw [Nat.zero_add] at hstart
    have hp := (read?_eq_some_iff.mp hread).1
    exact ⟨hp, (between_eq_source hp).mpr ⟨hstop, hstart ▸ hread⟩⟩
  · rintro ⟨hp, hbetween⟩
    obtain ⟨hstop, hread⟩ := (between_eq_source hp).mp hbetween
    exact ⟨m.start, (Nat.zero_add _).symm, hstop, hread⟩

theorem among_eq (pos : Nat) (items : List Item) :
    among items = (matchesFrom pos items).map Match.placeholder := by
  induction items generalizing pos with
  | nil => rfl
  | cons item rest ih =>
    cases item with
    | char c => exact ih (pos + 1)
    | placeholder p => exact congrArg (p :: ·) (ih _)

/-- The placeholders of a text are those of its matches. -/
theorem all_eq (s : String) : all s = («matches» s).map Match.placeholder := among_eq 0 _

theorem occursIn_iff {s : String} : occursIn s = true ↔ ∃ m, m ∈ «matches» s := by
  rw [occursIn, all_eq, List.isEmpty_map, Bool.not_eq_true', List.isEmpty_eq_false_iff_exists_mem]

/-- Some match stands between two positions just if a placeholder does. -/
theorem exists_match_iff {s : String} {start stop : Nat} :
    (∃ m ∈ «matches» s, m.start = start ∧ m.stop = stop) ↔
      stop ≤ s.toList.length ∧ IsToken (between s.toList start stop) := by
  rw [isToken_iff]
  constructor
  · rintro ⟨m, hm, rfl, rfl⟩
    obtain ⟨hp, hstop, hbetween⟩ := mem_matches.mp hm
    exact ⟨hstop, m.placeholder, hp, hbetween⟩
  · rintro ⟨hstop, p, hp, hbetween⟩
    exact ⟨⟨start, stop, p⟩, mem_matches.mpr ⟨hp, hstop, hbetween⟩, rfl, rfl⟩

/-- The matches of a text stand apart, in order. -/
theorem pairwise_matches (s : String) :
    («matches» s).Pairwise fun m n => m.start < n.start ∧ m.stop ≤ n.start := by
  have happart := matches_eq s ▸ pairwise_readEverywhere 0 s.toList
  refine happart.imp_of_mem fun {m n} hm _ hle => ⟨?_, hle⟩
  obtain ⟨hp, hbetween⟩ := mem_matches.mp hm
  have hstop := ((between_eq_source hp).mp hbetween).1
  have hpos := m.placeholder.source_length_pos
  omega

/-- Two placeholders of a text are one, or one ends before the other starts. -/
theorem apart_of_tokens {s : String} {start stop start' stop' : Nat}
    (h : stop ≤ s.toList.length ∧ IsToken (between s.toList start stop))
    (h' : stop' ≤ s.toList.length ∧ IsToken (between s.toList start' stop')) :
    (start = start' ∧ stop = stop') ∨ stop ≤ start' ∨ stop' ≤ start := by
  obtain ⟨m, hm, rfl, rfl⟩ := exists_match_iff.mpr h
  obtain ⟨n, hn, rfl, rfl⟩ := exists_match_iff.mpr h'
  let Apart (m n : Match) : Prop :=
    (m.start = n.start ∧ m.stop = n.stop) ∨ m.stop ≤ n.start ∨ n.stop ≤ m.start
  have hself : ∀ m ∈ «matches» s, Apart m m := fun m _ => .inl ⟨rfl, rfl⟩
  have hbefore : («matches» s).Pairwise Apart := (pairwise_matches s).imp fun h => .inr (.inl h.2)
  have hbehind : («matches» s).Pairwise (flip Apart) :=
    (pairwise_matches s).imp fun h => .inr (.inr h.2)
  exact hbefore.forall_of_forall_of_flip hself hbehind hm hn

/-- A match in a text with `n` more characters in front. -/
def Match.behind (n : Nat) (m : Match) : Match := ⟨n + m.start, n + m.stop, m.placeholder⟩

/-- The matches of a text around a placeholder are those of its parts. -/
theorem matches_around {p : Placeholder} (h : p.IsProper) (a b : String) :
    «matches» (a ++ String.ofList p.source ++ b) =
      «matches» a ++ ⟨a.length, a.length + p.source.length, p⟩ ::
        («matches» b).map (Match.behind (a.length + p.source.length)) := by
  have htext : (a ++ String.ofList p.source ++ b).toList = a.toList ++ (p.source ++ b.toList) := by
    simp
  rw [matches_eq, matches_eq, matches_eq, htext, readEverywhere_around h, Nat.zero_add,
    String.length_toList]
  exact congrArg (fun behind => _ ++ _ :: behind) (readEverywhere_add _ 0 _)

/-- **The matches of a text** are in order the places where a placeholder stands, from its first
character up to its last. Names are listed and placeholders are noticed accordingly. A placeholder
between two texts comes between the matches of the texts and changes none of them. -/
theorem matches_exact :
    (∀ s : String,
      (∀ start stop, (∃ m ∈ «matches» s, m.start = start ∧ m.stop = stop) ↔
        stop ≤ s.length ∧ IsToken (between s.toList start stop)) ∧
      («matches» s).Pairwise (fun m n => m.start < n.start ∧ m.stop ≤ n.start) ∧
      (∀ start stop start' stop', stop ≤ s.length → stop' ≤ s.length →
        IsToken (between s.toList start stop) → IsToken (between s.toList start' stop') →
          (start = start' ∧ stop = stop') ∨ stop ≤ start' ∨ stop' ≤ start) ∧
      (∀ m ∈ «matches» s, m.placeholder.IsProper ∧
        between s.toList m.start m.stop = m.placeholder.source) ∧
      names s = («matches» s).map (fun m => String.ofList m.placeholder.name) ∧
      (occursIn s = true ↔
        ∃ start stop, stop ≤ s.length ∧ IsToken (between s.toList start stop))) ∧
    ∀ (a b : String) (p : Placeholder), p.IsProper →
      «matches» (a ++ String.ofList p.source ++ b) =
        «matches» a ++ ⟨a.length, a.length + p.source.length, p⟩ ::
          («matches» b).map (Match.behind (a.length + p.source.length)) := by
  refine ⟨fun s => ?_, fun a b p hp => matches_around hp a b⟩
  rw [← String.length_toList]
  refine ⟨fun start stop => exists_match_iff, pairwise_matches s, ?_, ?_, ?_, ?_⟩
  · intro start stop start' stop' hstop hstop' htoken htoken'
    exact apart_of_tokens ⟨hstop, htoken⟩ ⟨hstop', htoken'⟩
  · intro m hm
    obtain ⟨hp, -, hbetween⟩ := mem_matches.mp hm
    exact ⟨hp, hbetween⟩
  · rw [names, all_eq, List.map_map]
    rfl
  · rw [occursIn_iff]
    constructor
    · rintro ⟨m, hm⟩
      exact ⟨m.start, m.stop, exists_match_iff.mp ⟨m, hm, rfl, rfl⟩⟩
    · rintro ⟨start, stop, htoken⟩
      obtain ⟨m, hm, -⟩ := exists_match_iff.mpr htoken
      exact ⟨m, hm⟩

/-- A placeholder whose name is `7D`, behind a placeholder and the beginning of one, and in front of the
end of one and of a placeholder. -/
theorem matches_exact_between :
    let p : Placeholder := ⟨.escaped, "7D".toList⟩
    p.IsProper ∧
      «matches» ("%{B}%7B" ++ String.ofList p.source ++ "%7D%7Bn%7D") =
        [⟨0, 4, ⟨.plain, ['B']⟩⟩, ⟨7, 15, p⟩, ⟨18, 25, ⟨.escaped, ['n']⟩⟩] := by
  intro p
  have hp : p.IsProper := ⟨by decide, by decide, List.all_eq_true.mp (by decide +kernel)⟩
  refine ⟨hp, (matches_exact.2 "%{B}%7B" "%7D%7Bn%7D" p hp).trans ?_⟩
  decide +kernel

end Placeholder

end FlavoredMarkdown
