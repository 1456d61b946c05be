import FlavoredMarkdown.Markdown.Line
import FlavoredMarkdown.Markdown.Token

/-!
# Tables

A table is a header row, a row of dashes that says how the columns are aligned, and rows of cells. Its
rows may have pipes around them. All rows have as many cells as the header has, or it is no table.
-/

namespace FlavoredMarkdown.Markdown

/-- The cells of a row, cut at the pipes that are not escaped. -/
def cutCells (cell : List Char) : List Char → List (List Char)
  | [] => [cell.reverse]
  | '\\' :: '|' :: rest => cutCells ('|' :: '\\' :: cell) rest
  | '|' :: rest => cell.reverse :: cutCells [] rest
  | c :: rest => cutCells (c :: cell) rest

/-- The texts of the cells of a row. -/
def cellTexts (row : List Char) : List (List Char) := (cutCells [] (Text.trim row)).map Text.trim

/-- What stands between the outer pipes of a row. -/
def insidePipes? (l : List Char) : Option (List Char) :=
  match (Line.whole l).body? with
  | some ('|' :: rest) =>
    match rest.reverse.dropWhile isGap with
    | '|' :: inside => some inside.reverse
    | _ => none
  | _ => none

/-- How a column is aligned, by its cell in the row of dashes: a colon stands on each side to which it
is aligned. Nothing but dashes is between the colons. -/
def alignment? (cell : List Char) : Option Value :=
  let left := cell.head? = some ':'
  let dashes := cell.drop (if left then 1 else 0)
  let right := dashes.getLast? = some ':'
  let dashes := if right then dashes.dropLast else dashes
  if dashes.isEmpty || dashes.any (· != '-') then none
  else if left ∧ right then some (.str "center")
  else if left then some (.str "left")
  else if right then some (.str "right")
  else some .null

/-- Whether a text can be a row of dashes. -/
def isDashRow (row : List Char) : Bool :=
  row.all fun c => c == '-' || c == '|' || c == ' ' || c == ':'

/-- A cell token. -/
def cellToken (head : Bool) (align : Value) (text : List Char) : Token :=
  .plain "table_cell"
    [("text", .str (String.ofList text)), ("attrs", .dict [("align", align), ("head", .bool head)])]

/-- The cells of a row with the given columns. -/
def rowCells? (head : Bool) (columns : List Value) (row : List Char) : Option (List Token) :=
  let texts := cellTexts row
  if texts.length = columns.length then
    some ((columns.zip texts).map fun (align, text) => cellToken head align text)
  else none

/-- A table with the given header, dashes and rows, if all have the same number of cells. -/
def tableToken? (header dashes : List Char) (rows : List (List Char)) : Option Token := do
  let columns ← if isDashRow dashes then (cellTexts dashes).mapM alignment? else none
  let head ← rowCells? true columns header
  let body ← rows.mapM (rowCells? false columns)
  pure (.node "table" []
    [.node "table_head" [] head,
      .node "table_body" [] (body.map fun cells => .node "table_row" [] cells)])

/-- A table at the start of some lines, and the lines that are left. -/
def table? (l : List Char) (rest : List (List Char)) : Option (Token × List (List Char)) :=
  match rest with
  | [] => none
  | second :: rest =>
    match insidePipes? l, insidePipes? second with
    | some header, some dashes =>
      let rows := rest.takeWhile fun r => (insidePipes? r).isSome
      let left := (rest.drop rows.length).dropWhile List.isEmpty
      if header.isEmpty then none
      else (tableToken? header dashes (rows.filterMap insidePipes?)).map fun t => (t, left)
    | _, _ =>
      match (Line.whole l).body?, (Line.whole second).body? with
      | some header, some dashes =>
        let rows := rest.takeWhile fun r => r.contains '|'
        let left := (rest.drop rows.length).dropWhile List.isEmpty
        if (header.drop 1).contains '|' && dashes.contains '|' && dashes.head? != some '|' then
          (tableToken? header dashes rows).map fun t => (t, left)
        else none
      | _, _ => none

end FlavoredMarkdown.Markdown
