import FlavoredMarkdown.Render.Page

/-!
# The text of a run of pieces

What a piece adds to a page depends on the page only through one bit: whether the page is at the
start of a line. So a run of pieces has a text of its own for each value of that bit, and leaves the
bit in a state that can be told from the run alone.

Results:
* `Page.html_addAll`: a page grows by the text of the pieces.
* `freshAfter_eq`: the text of a run decides whether the page is then at the start of a line.
* `textFrom_append`: the text of two runs is the text of the first, then the text of the second as
  it continues the first.
-/

namespace FlavoredMarkdown

/-- Whether a page is at the start of a line when a text was added to it. -/
def lineState (fresh : Bool) (s : String) : Bool := if s = "" then fresh else endsLine s

theorem lineState_append (fresh : Bool) (a b : String) :
    lineState fresh (a ++ b) = lineState (lineState fresh a) b := by
  unfold lineState
  by_cases hb : b = ""
  · simp [hb]
  · by_cases ha : a = ""
    · simp [ha, hb]
    · have hab : a ++ b ≠ "" := fun h => hb (String.append_eq_empty_iff.mp h).2
      rw [if_neg hab, if_neg hb, endsLine_append hb]

namespace Piece

/-- What a piece adds to a page that is or is not at the start of a line. -/
def lineText (fresh : Bool) : Piece → String
  | .freshLine => if fresh then "" else "\n"
  | piece => piece.written

/-- Whether the page is at the start of a line after the piece. -/
def lineAfter (fresh : Bool) (piece : Piece) : Bool := lineState fresh (piece.lineText fresh)

/-- What a run of pieces adds to a page. -/
def textFrom (fresh : Bool) : List Piece → String
  | [] => ""
  | piece :: rest => piece.lineText fresh ++ textFrom (piece.lineAfter fresh) rest

/-- Whether the page is at the start of a line after a run of pieces. -/
def freshAfter (fresh : Bool) (pieces : List Piece) : Bool := pieces.foldl lineAfter fresh

@[simp] theorem textFrom_nil (fresh : Bool) : textFrom fresh [] = "" := rfl

@[simp] theorem textFrom_cons (fresh : Bool) (piece : Piece) (rest : List Piece) :
    textFrom fresh (piece :: rest) =
      piece.lineText fresh ++ textFrom (piece.lineAfter fresh) rest := rfl

@[simp] theorem freshAfter_nil (fresh : Bool) : freshAfter fresh [] = fresh := rfl

@[simp] theorem freshAfter_cons (fresh : Bool) (piece : Piece) (rest : List Piece) :
    freshAfter fresh (piece :: rest) = freshAfter (piece.lineAfter fresh) rest := rfl

theorem textFrom_append (fresh : Bool) (as bs : List Piece) :
    textFrom fresh (as ++ bs) = textFrom fresh as ++ textFrom (freshAfter fresh as) bs := by
  induction as generalizing fresh with
  | nil => simp
  | cons a as ih =>
    rw [List.cons_append, textFrom_cons, textFrom_cons, freshAfter_cons, ih, String.append_assoc]

/-- The text of a run decides whether the page is at the start of a line after it. -/
theorem freshAfter_eq (fresh : Bool) (pieces : List Piece) :
    freshAfter fresh pieces = lineState fresh (textFrom fresh pieces) := by
  induction pieces generalizing fresh with
  | nil => rfl
  | cons piece rest ih =>
    rw [freshAfter_cons, textFrom_cons, lineState_append, ih]
    rfl

end Piece

namespace Page

theorem html_add_eq_lineText (p : Page) (piece : Piece) :
    (p.add piece).html = p.html ++ piece.lineText p.atLineStart := by
  cases piece <;> simp only [add, html_write, Piece.lineText]
  split <;> simp

theorem atLineStart_write (p : Page) (s : String) :
    (p.write s).atLineStart = if s = "" then p.atLineStart else endsLine s := by
  unfold write
  split <;> rfl

theorem atLineStart_add (p : Page) (piece : Piece) :
    (p.add piece).atLineStart = piece.lineAfter p.atLineStart := by
  cases piece with
  | freshLine =>
    unfold add Piece.lineAfter Piece.lineText lineState
    cases h : p.atLineStart with
    | true => simp [h]
    | false => simp [atLineStart_write]
  | _ => exact atLineStart_write p _

/-- **A page grows by the text of the pieces.** -/
theorem html_addAll (p : Page) (pieces : List Piece) :
    (p.addAll pieces).html = p.html ++ Piece.textFrom p.atLineStart pieces := by
  induction pieces generalizing p with
  | nil => simp
  | cons piece rest ih =>
    rw [addAll_cons, ih, html_add_eq_lineText, atLineStart_add, Piece.textFrom_cons,
      String.append_assoc]

end Page

end FlavoredMarkdown
