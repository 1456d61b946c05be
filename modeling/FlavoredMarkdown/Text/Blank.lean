/-!
# White space

One set of characters counts as *blank* wherever text is trimmed or cut into words: the controls
U+0009 to U+000D and U+001C to U+001F, the next-line control and every Unicode separator that is not
printed.
-/

namespace FlavoredMarkdown.Text

/-- White space, as trimming and cutting into words see it. -/
def isBlank (c : Char) : Bool :=
  let n := c.toNat
  (0x09 ≤ n && n ≤ 0x0D) || (0x1C ≤ n && n ≤ 0x20) || n == 0x85 || n == 0xA0 || n == 0x1680 ||
    (0x2000 ≤ n && n ≤ 0x200A) || n == 0x2028 || n == 0x2029 || n == 0x202F || n == 0x205F ||
    n == 0x3000

/-- The text without the blanks in front. -/
def trimStart (cs : List Char) : List Char := cs.dropWhile isBlank

/-- The text without the blanks behind. -/
def trimEnd (cs : List Char) : List Char := (cs.reverse.dropWhile isBlank).reverse

/-- The text without the blanks around it. -/
def trim (cs : List Char) : List Char := trimEnd (trimStart cs)

/-- `trim` on strings. -/
def trimmed (s : String) : String := String.ofList (trim s.toList)

/-- The first run of characters that are not blank, if there is one. -/
def firstWord? (cs : List Char) : Option (List Char) :=
  match trimStart cs with
  | [] => none
  | c :: rest => some ((c :: rest).takeWhile fun c => !isBlank c)

/-- The words of a text whose first characters, the latest first, are already in a word. -/
def wordsFrom (word : List Char) : List Char → List (List Char)
  | [] => if word.isEmpty then [] else [word.reverse]
  | c :: rest =>
    if !isBlank c then wordsFrom (c :: word) rest
    else if word.isEmpty then wordsFrom [] rest
    else word.reverse :: wordsFrom [] rest

/-- The runs of characters that are not blank. -/
def words (cs : List Char) : List (List Char) := wordsFrom [] cs

/-- Whether every character is blank. -/
def allBlank (cs : List Char) : Bool := cs.all isBlank

/-- What is left when characters are dropped from the front does not begin with one of them. -/
theorem head?_dropWhile {p : Char → Bool} {cs : List Char} {c : Char}
    (h : c ∈ (cs.dropWhile p).head?) : p c = false := by
  have hhead := List.head?_dropWhile_not p cs
  rw [Option.mem_def.mp h] at hhead
  exact hhead

theorem trimStart_eq_nil_iff {cs : List Char} : trimStart cs = [] ↔ allBlank cs = true := by
  induction cs with
  | nil => simp [trimStart, allBlank]
  | cons c rest ih =>
    by_cases h : isBlank c = true
    · have hStart : trimStart (c :: rest) = trimStart rest := by simp [trimStart, h]
      have hAll : allBlank (c :: rest) = allBlank rest := by simp [allBlank, h]
      rw [hStart, hAll, ih]
    · simp [trimStart, allBlank, h]

theorem trimEnd_eq_nil_iff {cs : List Char} : trimEnd cs = [] ↔ allBlank cs = true := by
  have h : allBlank cs.reverse = allBlank cs := by simp only [allBlank, List.all_reverse]
  rw [← h, ← trimStart_eq_nil_iff]
  exact List.reverse_eq_nil_iff

/-- Only blank text is trimmed to nothing. -/
theorem trim_eq_nil_iff {cs : List Char} : trim cs = [] ↔ allBlank cs = true := by
  induction cs with
  | nil => simp [trim, trimStart, trimEnd, allBlank]
  | cons c rest ih =>
    by_cases h : isBlank c = true
    · simpa [trim, trimStart, allBlank, h] using ih
    · have h1 : trimStart (c :: rest) = c :: rest := by simp [trimStart, h]
      rw [trim, h1, trimEnd_eq_nil_iff]

end FlavoredMarkdown.Text
