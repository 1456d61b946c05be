import FlavoredMarkdown.Config.Yaml.Scalar

/-!
# Reading YAML

The part of YAML that configuration needs: mappings and lists by indentation, both also in brackets,
plain and quoted scalars, comments, and the marks that start a document and end it. What is not known
to be one of these is refused, without a reason.

Every reader starts at a `Place` and gives back the one behind what it has read. Readers of nested
values take fuel.
-/

namespace FlavoredMarkdown.Yaml

/-! ## Brackets -/

mutual

/-- A value between brackets. -/
def readFlow? (fuel : Nat) (p : Place) : Option (Value × Place) :=
  match fuel with
  | 0 => none
  | fuel + 1 =>
    match p.rest.head? with
    | some '[' => (readFlowItems? fuel [] (p.skip 1).next).map fun (vs, p) => (.list vs, p)
    | some '{' => (readFlowEntries? fuel [] (p.skip 1).next).map fun (m, p) => (m.toValue, p)
    | _ => readScalar? true 0 p

/-- The value of a key, if a colon says that there is one. -/
def readFlowValue? (fuel : Nat) (p : Place) : Option (Value × Place) :=
  match fuel with
  | 0 => none
  | fuel + 1 =>
    let p := p.next
    if p.rest.head? != some ':' then some (.null, p)
    else
      let p := (p.skip 1).next
      if p.rest.head?.any [',', '}', ']'].contains then some (.null, p) else readFlow? fuel p

/-- The items of a list in brackets from the next one on, onto those so far, the latest first. A key
with a value is a mapping of its own. -/
def readFlowItems? (fuel : Nat) (read : List Value) (p : Place) : Option (List Value × Place) :=
  match fuel with
  | 0 => none
  | fuel + 1 =>
    if p.rest.head? = some ']' then some (read.reverse, p.skip 1)
    else
      (readFlow? fuel p).bind fun (v, q) =>
        let item : Option (Value × Place) :=
          if q.next.rest.head? = some ':' then
            match v with
            | .list _ | .dict _ | .keyed _ => none
            | key => (readFlowValue? fuel q).map fun (v, q) => (Mapping.toValue [(key, v)], q)
          else some (v, q)
        item.bind fun (v, q) =>
          let q := q.next
          match q.rest.head? with
          | some ',' => readFlowItems? fuel (v :: read) (q.skip 1).next
          | some ']' => some ((v :: read).reverse, q.skip 1)
          | _ => none

/-- The entries of a mapping in brackets from the next one on, onto those so far. -/
def readFlowEntries? (fuel : Nat) (read : Mapping) (p : Place) : Option (Mapping × Place) :=
  match fuel with
  | 0 => none
  | fuel + 1 =>
    if p.rest.head? = some '}' then some (read, p.skip 1)
    else
      (readScalar? true 0 p).bind fun (key, q) =>
        (readFlowValue? fuel q).bind fun (v, q) =>
          let q := q.next
          match q.rest.head? with
          | some ',' => readFlowEntries? fuel (read.set key v) (q.skip 1).next
          | some '}' => some (read.set key v, q.skip 1)
          | _ => none

end

/-! ## Blocks -/

/-- The key of an entry, and the place behind its colon. A key is in one line. -/
def readKey? (p : Place) : Option (Value × Place) :=
  match readScalar? false 0 p with
  | some (key, q) =>
    let q' := q.skip (q.rest.takeWhile (· == ' ')).length
    match q'.rest with
    | ':' :: rest =>
      if p.isSameLine q' && rest.head?.all parts then some (key, q'.skip 1) else none
    | _ => none
  | none => none

/-- Whether the mark of a list item is in front. -/
def isItem (p : Place) : Bool :=
  match p.rest with
  | '-' :: rest => rest.head?.all parts
  | _ => false

/-- A value in brackets or a scalar, over one or several lines. -/
def readInline? (least : Nat) (p : Place) : Option (Value × Place) :=
  if p.rest.head?.any ['[', '{'].contains then readFlow? (3 * p.rest.length + 3) p
  else readScalar? false least p

/-- The place behind a value, where the next line with something on it starts. -/
def lineBehind? (p : Place) : Option Place :=
  if p.next.fresh || p.next.isLast then some p.next else none

mutual

/-- The value of a block, all of which is at column `least` or right of it. -/
def readBlock? (fuel : Nat) (least : Nat) (p : Place) : Option (Value × Place) :=
  match fuel with
  | 0 => none
  | fuel + 1 =>
    if p.isLast then some (.null, p)
    else if isItem p then (readItems? fuel p.column [] p).map fun (vs, p) => (.list vs, p)
    else if (readKey? p).isSome then
      (readEntries? fuel p.column [] p).map fun (m, p) => (m.toValue, p)
    else readInline? least p

/-- The items of a list at a column, onto those so far, the latest first. -/
def readItems? (fuel : Nat) (column : Nat) (read : List Value) (p : Place) :
    Option (List Value × Place) :=
  match fuel with
  | 0 => none
  | fuel + 1 =>
    let inside := (p.skip 1).next
    let value? :=
      if inside.fresh && inside.column ≤ column then some (.null, inside)
      else readBlock? fuel (column + 1) inside
    value?.bind fun (v, q) =>
      (lineBehind? q).bind fun q =>
        if !q.isLast && q.column = column && isItem q then readItems? fuel column (v :: read) q
        else if q.isLast || q.column ≤ column then some ((v :: read).reverse, q)
        else none

/-- The entries of a mapping at a column, onto those so far. A list that is the value of a key need not be
indented further than the key, and a block cannot start in the line of the key. -/
def readEntries? (fuel : Nat) (column : Nat) (read : Mapping) (p : Place) :
    Option (Mapping × Place) :=
  match fuel with
  | 0 => none
  | fuel + 1 =>
    match readKey? p with
    | none => none
    | some (key, behind) =>
      let inside := behind.next
      let value? :=
        if inside.isLast then some (.null, inside)
        else if !inside.fresh then readInline? (column + 1) inside
        else if column < inside.column then readBlock? fuel (column + 1) inside
        else if inside.column = column && isItem inside then
          (readItems? fuel column [] inside).map fun (vs, p) => (.list vs, p)
        else some (.null, inside)
      value?.bind fun (v, q) =>
        (lineBehind? q).bind fun q =>
          if q.isLast || q.column < column then some (read.set key v, q)
          else if q.column = column then readEntries? fuel column (read.set key v) q
          else none

end

/-! ## Documents -/

/-- The value of a document that starts here. Only a scalar or a value in brackets can stand in the line
of the mark that starts it. -/
def readDocument? (p : Place) : Option (Value × Place) :=
  let fuel := 3 * p.rest.length + 3
  if p.column = 0 && startsMarked startMark p.rest then
    let inside := (p.skip startMark.length).next
    if inside.fresh || inside.isLast then readBlock? fuel 0 inside else readInline? 0 inside
  else readBlock? fuel 0 p

/-- Whether there is nothing behind a document but the mark that ends it. -/
def isEnd (p : Place) : Bool :=
  p.rest.isEmpty ||
    (p.column = 0 && startsMarked endMark p.rest && (p.skip endMark.length).next.rest.isEmpty)

/-- Whether a character can be in a document. -/
def isAllowed (c : Char) : Bool :=
  let n := c.toNat
  n == 0x09 || n == 0x0A || n == 0x0D || (0x20 ≤ n && n ≤ 0x7E) || n == 0x85 ||
    (0xA0 ≤ n && n ≤ 0xFFFD) || 0x10000 ≤ n

/-- The value of a text that is YAML. It holds one document. -/
def parse? (text : List Char) : Option Value :=
  let cs :=
    match text with
    | '\ufeff' :: rest => rest
    | _ => text
  if text.all isAllowed then
    let p := (Place.ofText (cs.map fun c => if c = '\u0085' then '\n' else c)).next
    (readDocument? p).bind fun (v, q) =>
      (lineBehind? q).bind fun q => if isEnd q then some v else none
  else none

end FlavoredMarkdown.Yaml
