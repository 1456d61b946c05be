import FlavoredMarkdown.Markdown.Description
import FlavoredMarkdown.Markdown.Footnote
import FlavoredMarkdown.Markdown.Inline
import FlavoredMarkdown.Markdown.Table
import FlavoredMarkdown.Markdown.TaskMarker

/-!
# Reading Markdown

A text is read in three steps: it is cut into blocks, task items among them are marked, and the text of
the blocks is read. Extensions start outside of all containers. The footnotes that the text refers to
come last, in the order of their numbers; a note that only notes refer to has a number and no place.
This is the reader that `MarkdownToAstConverter.parse` asks for tokens.
-/

namespace FlavoredMarkdown.Markdown

/-! ## Extensions -/

/-- What an extension makes of some lines: a token, or the definition of a footnote. -/
inductive Extra
  | token (t : Token)
  | note (key : String) (lines : List (List Char))

/-- A block of formulas at the start of some lines: all between two pairs of dollar signs, which stand
on lines of their own or around the text of one line. -/
def mathBlock? (l : List Char) (rest : List (List Char)) : Option (Token × List (List Char)) :=
  let token (raw : List Char) : Token := .plain "block_math" [("raw", .str (String.ofList raw))]
  match (Line.whole l).body? with
  | some ('$' :: '$' :: tail) =>
    let closes (m : List Char) := ['$', '$'].isPrefixOf m && (m.drop 2).all isGap
    if tail.all isGap then
      let first := rest.take 1
      let inner := (rest.drop 1).takeWhile fun m => !closes m
      let left := rest.drop (1 + inner.length)
      let raw := ['\n'].intercalate (first ++ inner)
      if raw.isEmpty || left.isEmpty then none else some (token raw, left.drop 1)
    else
      match displayEnd? [] tail with
      | some (raw, behind) => if behind.all isGap then some (token (Text.trim raw), rest) else none
      | none => none
  | _ => none

/-- What an extension makes of a line that is text outside of all containers, in a paragraph or not, and
of the lines behind it; and the lines that are left. -/
def extra? (d : Dialect) (inParagraph : Bool) (l : List Char) (rest : List (List Char)) :
    Option (Extra × List (List Char)) :=
  let on {α : Type} (e : Extension) (found : Unit → Option α) : Option α :=
    if d.has e then found () else none
  let math := on .math fun _ => mathBlock? l rest
  let note := on .footnotes fun _ => note? l rest
  let table := on .table fun _ => table? l rest
  let list := on .descriptionLists fun _ => if inParagraph then none else descriptions? (l :: rest)
  match math, note with
  | some (t, left), _ => some (.token t, left)
  | none, some (key, lines, left) => some (.note key lines, left)
  | none, none => (table.or list).map fun (t, left) => (.token t, left)

/-! ## Blocks -/

/-- The notes that are defined in a text: their keys and their lines. -/
abbrev Notes := List (String × List (List Char))

/-- A draft with an extension's block outside of all containers. -/
def Draft.withExtra (lines : Nat) (e : Extra) (d : Draft) : Draft :=
  let d := { (d.closeTo 0 d.number).closeLeaf d.number with number := d.number + lines }
  match e with
  | .token t => d.addToken (d.number + 1 - lines) d.number t
  | .note _ _ => d

/-- The notes with the definition that an extension found. -/
def withNote (notes : Notes) : Extra → Notes
  | .token _ => notes
  | .note key lines => keepFirst notes (key, lines)

/-- Reads all lines behind a draft. -/
def readLines (dialect : Dialect) (d : Draft) (notes : Notes) (lines : List (List Char)) :
    Draft × Notes :=
  match lines with
  | [] => (d.finished, notes)
  | l :: rest =>
    let next := d.number + 1
    let extra :=
      if { d with number := next }.isOuterText l then extra? dialect d.inParagraph l rest else none
    match extra with
    | some (e, left) =>
      if left.length < rest.length + 1 then
        readLines dialect (d.withExtra (rest.length + 1 - left.length) e) (withNote notes e) left
      else (d.finished, notes)
    | none => readLines dialect (d.read l) notes rest
termination_by lines.length
decreasing_by
  all_goals (simp only [List.length_cons]; omega)

/-- A spoiler's line without its mark. -/
def spoilerBody? (l : List Char) : Option (List Char) :=
  match (Line.whole l).body? with
  | some ('!' :: rest) => some (dropSpaces 1 rest)
  | _ => none

/-- The lines of a spoiler: a quote whose lines all have a mark of their own. -/
def spoilerLines? (lines : List (List Char)) : Option (List (List Char)) := lines.mapM spoilerBody?

/-- The token of a block outside of all containers: a quote may be a spoiler there. -/
def outerToken (spoilers : Bool) (b : Closed) : StateM (List (String × Target)) Token := do
  let inside := if spoilers && !b.quoted.isEmpty then spoilerLines? b.quoted else none
  match inside with
  | some lines =>
    let (blocks, targets) := plainBlocks (← get) lines
    set targets
    pure (.node "block_spoiler" [] blocks)
  | none => pure b.token

/-- What is defined in a text: the targets of links, and footnotes. -/
structure Definitions where
  targets : List (String × Target)
  notes : Notes

/-- The blocks of some lines. Quotes can be spoilers unless the lines are those of a note. -/
def blockTokens (d : Dialect) (spoilers : Bool) (lines : List (List Char)) :
    StateM Definitions (List Token) := do
  let known ← get
  let (draft, notes) := readLines d (.start known.targets) known.notes lines
  let (tokens, targets) := (draft.blocks.reverse.mapM (outerToken spoilers)).run draft.targets
  set (Definitions.mk targets notes)
  pure tokens

/-- The blocks of a footnote. -/
def noteBlocks (d : Dialect) (lines : List (List Char)) : StateM Definitions (List Token) :=
  match noteBody? lines with
  | some body => blockTokens d false (linesOf (Text.trim (joinLines body)))
  | none => pure [paragraphToken (Text.trim (joinLines lines))]

/-- The footnotes with the given keys, numbered from `index` on. -/
def noteItems (d : Dialect) (index : Nat) : List String → StateM Definitions (List Token)
  | [] => pure []
  | key :: rest => do
    let lines := ((← get).notes.lookup key).getD []
    let item := Token.node "footnote_item"
      [("attrs", .dict [("key", .str key), ("index", .int index)])] (← noteBlocks d lines)
    return item :: (← noteItems d (index + 1) rest)

/-! ## Texts -/

/-- What is known when the text of blocks is read. -/
def Definitions.source (defs : Definitions) (d : Dialect) : Source :=
  ⟨d, defs.targets, defs.notes.map Prod.fst⟩

/-- The tokens of a text. -/
def tokensOf (d : Dialect) (text : String) : List Token :=
  let (blocks, defs) := (blockTokens d (d.has .spoiler) (linesOf text.toList)).run ⟨[], []⟩
  let blocks :=
    match d.relaxedTasks with
    | some relaxed => markTasks relaxed blocks
    | none => blocks
  let (tokens, keys) := (readTokens (defs.source d) blocks).run []
  if keys.isEmpty then tokens
  else
    let (items, defs) := (noteItems d 1 keys).run defs
    let (items, _) := (readTokens (defs.source d) items).run keys
    tokens ++ [.node "footnotes" [] items]

end FlavoredMarkdown.Markdown
