import FlavoredMarkdown.Text.WordChar

/-!
# Placeholders

A placeholder is a variable to be filled in later, written `%{name}` in text. In a URL the braces may
already be escaped, so `%7Bname%7D` is one too. The name has between one and thirty word characters.
Model of `iter_placeholders`, `has_placeholder` and `placeholder_names`.

`scan` cuts a text into placeholders and the characters between them, from the left; everything else
here reads off its result. `source_scan` says that nothing is lost on the way. What `PLACEHOLDER_REGEX`
takes at a position is what `read?` finds there.
-/

namespace FlavoredMarkdown

/-- The two ways to write a placeholder. -/
inductive Spelling
  | plain
  | escaped
  deriving DecidableEq, Repr

/-- What stands before the name. -/
def Spelling.opening : Spelling → List Char
  | .plain => ['%', '{']
  | .escaped => ['%', '7', 'B']

/-- What stands after the name. -/
def Spelling.closing : Spelling → List Char
  | .plain => ['}']
  | .escaped => ['%', '7', 'D']

/-- A variable to be filled in later. -/
structure Placeholder where
  spelling : Spelling
  name : List Char
  deriving DecidableEq, Repr

namespace Placeholder

/-- The most characters that a name may have. -/
def maxNameLength : Nat := 30

/-- The placeholder as it is written. -/
def source (p : Placeholder) : List Char := p.spelling.opening ++ p.name ++ p.spelling.closing

/-- The placeholder of the given spelling at the front of the text. The name is the whole run of word
characters, since what closes it is none. -/
def readAs? (spelling : Spelling) (cs : List Char) : Option Placeholder :=
  if spelling.opening.isPrefixOf cs then
    let body := cs.drop spelling.opening.length
    let name := body.takeWhile Text.isWord
    if 1 ≤ name.length && name.length ≤ maxNameLength &&
        spelling.closing.isPrefixOf (body.drop name.length) then
      some ⟨spelling, name⟩
    else none
  else none

/-- The placeholder at the front of the text (`PLACEHOLDER_REGEX`). -/
def read? (cs : List Char) : Option Placeholder :=
  (readAs? .plain cs).or (readAs? .escaped cs)

/-- A piece of a text: a placeholder, or a character that belongs to none. -/
inductive Item
  | char (c : Char)
  | placeholder (p : Placeholder)
  deriving DecidableEq, Repr

/-- The piece as it is written. -/
def Item.source : Item → List Char
  | .char c => [c]
  | .placeholder p => p.source

/-- Cuts a text from the left, leaving out the `skip` characters that belong to the last
placeholder. -/
def scanFrom (skip : Nat) : List Char → List Item
  | [] => []
  | c :: rest =>
    match skip with
    | skip + 1 => scanFrom skip rest
    | 0 =>
      match read? (c :: rest) with
      | some p => .placeholder p :: scanFrom (p.source.length - 1) rest
      | none => .char c :: scanFrom 0 rest

/-- The pieces of a text. -/
def scan (cs : List Char) : List Item := scanFrom 0 cs

/-- The placeholders among some pieces. -/
def among (items : List Item) : List Placeholder :=
  items.filterMap fun
    | .char _ => none
    | .placeholder p => some p

/-- The placeholders of a text, from the left. -/
def all (s : String) : List Placeholder := among (scan s.toList)

/-- The names of the placeholders of a text, from the left (`placeholder_names`). -/
def names (s : String) : List String := (all s).map fun p => String.ofList p.name

/-- Whether a text holds a placeholder (`has_placeholder`). -/
def occursIn (s : String) : Bool := !(all s).isEmpty

/-- A placeholder and where it stands: from `start` up to and without `stop`. -/
structure Match where
  start : Nat
  stop : Nat
  placeholder : Placeholder
  deriving DecidableEq, Repr

/-- The placeholders among pieces that start at position `pos`. -/
def matchesFrom (pos : Nat) : List Item → List Match
  | [] => []
  | .char _ :: rest => matchesFrom (pos + 1) rest
  | .placeholder p :: rest =>
    let stop := pos + p.source.length
    ⟨pos, stop, p⟩ :: matchesFrom stop rest

/-- The placeholders of a text with their positions, counted in characters (`iter_placeholders`). -/
def «matches» (s : String) : List Match := matchesFrom 0 (scan s.toList)

theorem readAs?_source {spelling : Spelling} {cs : List Char} {p : Placeholder}
    (h : readAs? spelling cs = some p) : p.source <+: cs := by
  unfold readAs? at h
  split at h
  · next ho =>
    simp only at h
    split at h
    · next hn =>
      simp only [Bool.and_eq_true] at hn
      simp only [Option.some.injEq] at h
      subst h
      obtain ⟨body, rfl⟩ := List.isPrefixOf_iff_prefix.mp ho
      have hc := List.isPrefixOf_iff_prefix.mp hn.2
      rw [List.drop_left] at hc ⊢
      obtain ⟨rest, hr⟩ := hc
      refine ⟨rest, ?_⟩
      simp only [source, List.append_assoc]
      rw [hr]
      congr 1
      conv => rhs; rw [← List.takeWhile_append_dropWhile (p := Text.isWord) (l := body)]
      congr 1
      have : body.dropWhile Text.isWord = body.drop (body.takeWhile Text.isWord).length := by
        conv => rhs; rhs; rw [← List.takeWhile_append_dropWhile (p := Text.isWord) (l := body)]
        rw [List.drop_left]
      exact this.symm
    · simp at h
  · simp at h

/-- What is read stands at the front. -/
theorem read?_source {cs : List Char} {p : Placeholder} (h : read? cs = some p) :
    p.source <+: cs := by
  unfold read? at h
  cases h1 : readAs? .plain cs with
  | some q => rw [h1] at h; simp at h; subst h; exact readAs?_source h1
  | none => rw [h1] at h; simp at h; exact readAs?_source h

theorem source_length_pos (p : Placeholder) : 0 < p.source.length := by
  cases hs : p.spelling <;> simp [source, hs, Spelling.opening]

theorem source_scanFrom (skip : Nat) (cs : List Char) :
    (scanFrom skip cs).flatMap Item.source = cs.drop skip := by
  induction cs generalizing skip with
  | nil => simp [scanFrom]
  | cons c rest ih =>
    match skip with
    | skip + 1 => simpa [scanFrom] using ih skip
    | 0 =>
      rw [scanFrom]
      cases h : read? (c :: rest) with
      | none => simp [Item.source, ih 0]
      | some p =>
        obtain ⟨tail, ht⟩ := read?_source h
        have hp := source_length_pos p
        simp only [List.flatMap_cons, Item.source, ih, List.drop_zero]
        rw [← ht]
        congr 1
        have h2 : rest = (p.source ++ tail).drop 1 := by rw [ht]; rfl
        rw [h2, List.drop_drop]
        have : 1 + (p.source.length - 1) = p.source.length := by omega
        rw [this, List.drop_left]

/-- **The pieces make up the text.** -/
theorem source_scan (cs : List Char) : (scan cs).flatMap Item.source = cs := by
  simpa [scan] using source_scanFrom 0 cs

end Placeholder

end FlavoredMarkdown
