import FlavoredMarkdown.Proofs.Anchors

/-!
# How an anchor is found

`anchorize` tries a text on its own, then with the numbers from 1 on, until one of these candidates is
free. The search has no bound of its own. It ends all the same, since no two candidates are equal: each
test that fails uses up another one of the anchors that are taken.

* What is taken may be any texts, also ones that no search has found.
* The bound counts what is taken as a set: a text that is listed twice is taken once.

Results:
* `Anchor.Search.iff_least`: a search ends at the first candidate that is free.
* `Anchor.nodup_inTurn`: anchors that are taken one after the other are distinct.
* **`Anchor.unique_search`**: the search for an anchor ends, where it ends, and what is taken then.
-/

namespace FlavoredMarkdown

namespace Anchor

/-- Testing one candidate after the other, from a number on: how many tests there are, and the number of
the candidate that is free. -/
inductive Search (slug : String) (taken : List String) : (tests start stop : Nat) → Prop
  | free {k : Nat} (h : candidate slug k ∉ taken) : Search slug taken 1 k k
  | next {tests k stop : Nat} (h : candidate slug k ∈ taken)
      (rest : Search slug taken tests (k + 1) stop) : Search slug taken (tests + 1) k stop

/-! ## The end of a search -/

section

variable {slug : String} {taken : List String}

/-- A search passes the candidates that are taken, one test for each, and ends at one that is free. -/
theorem Search.passed {tests start stop : Nat} (h : Search slug taken tests start stop) :
    stop + 1 = start + tests ∧ candidate slug stop ∉ taken ∧
      ∀ j, start ≤ j → j < stop → candidate slug j ∈ taken := by
  induction h with
  | free hfree => exact ⟨rfl, hfree, fun j hj hlt => absurd hlt (Nat.not_lt_of_le hj)⟩
  | @next tests k stop htaken rest ih =>
    obtain ⟨htests, hfree, hpassed⟩ := ih
    refine ⟨by omega, hfree, fun j hj hlt => ?_⟩
    by_cases hk : j = k
    · exact hk ▸ htaken
    · exact hpassed j (by omega) hlt

/-- Where candidates are taken up to one that is free, there is such a search. -/
theorem Search.of_passed {tests start stop : Nat} (htests : stop + 1 = start + tests)
    (hle : start ≤ stop) (hfree : candidate slug stop ∉ taken)
    (hpassed : ∀ j, start ≤ j → j < stop → candidate slug j ∈ taken) :
    Search slug taken tests start stop := by
  induction tests generalizing start with
  | zero => omega
  | succ tests ih =>
    by_cases hend : start = stop
    · subst hend
      obtain rfl : tests = 0 := by omega
      exact .free hfree
    · refine .next (hpassed start (Nat.le_refl _) (by omega)) (ih (by omega) (by omega) ?_)
      exact fun j hj => hpassed j (by omega)

/-- **A search from the start** ends at the first candidate that is free, and no other search does. -/
theorem Search.iff_least {k : Nat} (hfree : candidate slug k ∉ taken)
    (htaken : ∀ j < k, candidate slug j ∈ taken) {tests stop : Nat} :
    Search slug taken tests 0 stop ↔ tests = k + 1 ∧ stop = k := by
  constructor
  · intro h
    obtain ⟨htests, hstop, hpassed⟩ := h.passed
    have hle : k ≤ stop := Nat.le_of_not_lt fun hlt => hstop (htaken stop hlt)
    have hge : stop ≤ k := Nat.le_of_not_lt fun hlt => hfree (hpassed k (Nat.zero_le _) hlt)
    omega
  · rintro ⟨rfl, rfl⟩
    exact .of_passed (Nat.zero_add _).symm (Nat.zero_le _) hfree fun j _ => htaken j

end

/-! ## Anchors in turn -/

/-- The anchors of some texts, each of which is then taken. -/
def inTurn (taken : List String) : List String → List String
  | [] => []
  | text :: rest => unique text taken :: inTurn (unique text taken :: taken) rest

theorem length_inTurn (taken texts : List String) : (inTurn taken texts).length = texts.length := by
  induction texts generalizing taken with
  | nil => rfl
  | cons text rest ih => rw [inTurn, List.length_cons, List.length_cons, ih]

/-- They are not taken before. -/
theorem not_mem_of_mem_inTurn {taken texts : List String} {a : String} (h : a ∈ inTurn taken texts) :
    a ∉ taken := by
  induction texts generalizing taken with
  | nil => cases h
  | cons text rest ih =>
    rcases List.mem_cons.mp h with rfl | h
    · exact unique_not_mem text taken
    · exact fun ha => ih h (List.mem_cons_of_mem _ ha)

/-- No two of them are equal. -/
theorem nodup_inTurn (taken texts : List String) : (inTurn taken texts).Nodup := by
  induction texts generalizing taken with
  | nil => exact List.nodup_nil
  | cons text rest ih =>
    refine List.nodup_cons.mpr ⟨fun h => ?_, ih _⟩
    exact not_mem_of_mem_inTurn h List.mem_cons_self

/-- A heading takes its anchor and no other, if there is a prefix for anchors. -/
theorem anchors_heading {style : Style} (hid : style.html.headerIds.isNone = false)
    (ancestors : List Occurrence) (marks : Marks) (level : HeadingLevel) (info : Info)
    (children : List Node) (place : List Nat) :
    (Default.visit style ancestors marks ⟨.box (.heading level) info children, place⟩
      .entering).marks.anchors = unique (plainText children) marks.anchors :: marks.anchors := by
  simp only [Default.visit, Default.containerVisit, Default.heading, hid, Bool.false_eq_true, if_false]
  split <;> rfl

/-- **The search for an anchor** ends after at most one test more than there are texts taken, at the
first candidate that is free: the text's own if this one is, else the one with the least number. The
anchor is the only one that is taken afterwards and was not before. So as many anchors as there are texts
are taken in turn, and they are distinct. -/
theorem unique_search :
    (∀ (text : String) (taken : List String), ∃ k ≤ taken.toFinset.card,
      (∀ tests stop, Search (slug text) taken tests 0 stop ↔ tests = k + 1 ∧ stop = k) ∧
      unique text taken = candidate (slug text) k ∧ unique text taken ∉ taken ∧
      (slug text ∉ taken → unique text taken = slug text) ∧
      (slug text ∈ taken → 1 ≤ k ∧ unique text taken = slug text ++ "-" ++ toString k ∧
        ∀ j, 1 ≤ j → j < k → slug text ++ "-" ++ toString j ∈ taken)) ∧
    (∀ (style : Style) ancestors marks level info children place,
      style.html.headerIds.isNone = false →
        (Default.visit style ancestors marks ⟨.box (.heading level) info children, place⟩
          .entering).marks.anchors = unique (plainText children) marks.anchors :: marks.anchors) ∧
    ∀ taken texts : List String, (inTurn taken texts).length = texts.length ∧
      (inTurn taken texts).Nodup ∧ ∀ a ∈ inTurn taken texts, a ∉ taken := by
  refine ⟨fun text taken => ?_, fun style ancestors marks level info children place hid =>
    anchors_heading hid ancestors marks level info children place, fun taken texts =>
    ⟨length_inTurn taken texts, nodup_inTurn taken texts, fun a => not_mem_of_mem_inTurn⟩⟩
  obtain ⟨k, hk, htaken⟩ := exists_candidate (slug text) taken
  have hfree := unique_not_mem text taken
  have hend : candidate (slug text) k ∉ taken := hk ▸ hfree
  refine ⟨k, le_card_of_taken htaken, fun tests stop => Search.iff_least hend htaken, hk, hfree, ?_, ?_⟩
  · intro hslug
    cases k with
    | zero => exact hk
    | succ k => exact absurd (htaken 0 (Nat.succ_pos k)) hslug
  · intro hslug
    cases k with
    | zero => exact absurd hslug hend
    | succ k =>
      refine ⟨Nat.succ_pos k, hk, fun j hpos hj => ?_⟩
      obtain ⟨i, rfl⟩ := Nat.exists_eq_succ_of_ne_zero (Nat.ne_of_gt hpos)
      exact htaken _ hj

/-- With the text's own anchor and the first numbered one taken, in any order and among others, the third
test is the last. A heading with that text takes what is found. -/
theorem unique_search_numbered :
    let taken := ["b", "a-1", "a", "a-3", "a"]
    let style : Style := { html := { headerIds := .value (.str "") } }
    let heading : Node := .box (.heading .top) {} [.leaf (.text "A!") {}]
    slug "A!" = "a" ∧ unique "A!" taken = "a-2" ∧
      (∀ tests stop, Search (slug "A!") taken tests 0 stop ↔ tests = 3 ∧ stop = 2) ∧
      style.html.headerIds.isNone = false ∧
      (Default.visit style [] { anchors := taken } ⟨heading, []⟩ .entering).marks.anchors =
        "a-2" :: taken := by
  intro taken style heading
  obtain ⟨hfirst, hheading, -⟩ := unique_search
  obtain ⟨k, -, hsearch, hk, -⟩ := hfirst "A!" taken
  have hslug : slug "A!" = "a" := by decide +kernel
  have hunique : unique "A!" taken = "a-2" := by decide +kernel
  have hnumber : k = 2 := by
    refine candidate_injective (slug "A!") (hk.symm.trans ?_)
    rw [hunique, hslug]
    rfl
  subst hnumber
  have hid : style.html.headerIds.isNone = false := rfl
  have htext : plainText [.leaf (.text "A!") {}] = "A!" := by decide +kernel
  refine ⟨hslug, hunique, hsearch, hid, ?_⟩
  rw [hheading style [] _ _ _ _ _ hid, htext, hunique]

end Anchor

end FlavoredMarkdown
