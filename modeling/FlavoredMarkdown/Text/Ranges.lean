/-!
# Sets of code points as intervals

A character class is a list of closed intervals of code points in ascending order. `inRanges` looks
a code point up and stops at the first interval above it, so the classes are cheap on ASCII text.
-/

namespace FlavoredMarkdown.Text

/-- Whether `n` lies in one of the intervals, which are in ascending order. -/
def inRanges (n : Nat) : List (Nat × Nat) → Bool
  | [] => false
  | (lo, hi) :: rest => if n < lo then false else if n ≤ hi then true else inRanges n rest

end FlavoredMarkdown.Text
