import FlavoredMarkdown.Config.Yaml.Plain

/-!
# Scalars over several lines

In YAML a scalar can go on in the next line, in quotes or without. One end of line in it is a space, and
of several each but the first stays what it is; the spaces around them do not count. A scalar without
quotes also ends where a line is not indented enough, so readers keep the `Place` where they are.
-/

namespace FlavoredMarkdown.Yaml

open Text (hexNumber?)

/-! ## Places -/

/-- Whether a line ends with this character. -/
def isBreak (c : Char) : Bool := c == '\n' || c == '\u2028' || c == '\u2029'

/-- Whether a character parts a mark from what follows it. -/
def parts (c : Char) : Bool := c == ' ' || c == '\t' || isBreak c

/-- Whether a text starts with a mark that parts documents. -/
def startsMarked (mark : String) (cs : List Char) : Bool :=
  mark.toList.isPrefixOf cs && (cs.drop mark.length).head?.all parts

/-- The mark that starts a document. -/
def startMark : String := "---"

/-- The mark that ends a document. -/
def endMark : String := "..."

/-- Whether a line that starts a document or ends one is in front. -/
def isParting (cs : List Char) : Bool := startsMarked startMark cs || startsMarked endMark cs

/-- A place in a text: its column, whether there are only spaces before it in its line, and the text
from there on. -/
structure Place where
  column : Nat
  fresh : Bool
  rest : List Char

namespace Place

/-- The place where a text starts. -/
def ofText (cs : List Char) : Place := ⟨0, true, cs⟩

/-- The place behind some characters. -/
def skip : Nat → Place → Place
  | 0, p => p
  | n + 1, ⟨column, fresh, c :: rest⟩ =>
    skip n (if isBreak c then ⟨0, true, rest⟩ else ⟨column + 1, fresh && c == ' ', rest⟩)
  | _ + 1, p => p

/-- The place from which on the text is the given end of the rest. -/
def upTo (p : Place) (left : List Char) : Place := p.skip (p.rest.length - left.length)

/-- What is left behind spaces, ends of lines and comments. -/
def behindFiller (inComment : Bool) : List Char → List Char
  | [] => []
  | c :: rest =>
    if isBreak c then behindFiller false rest
    else if inComment || c == '#' then behindFiller true rest
    else if c == ' ' then behindFiller false rest
    else c :: rest

/-- The next place with something that is no space, end of line or comment. -/
def next (p : Place) : Place := p.upTo (behindFiller false p.rest)

/-- Whether the document ends here. -/
def isLast (p : Place) : Bool := p.rest.isEmpty || (p.fresh && p.column == 0 && isParting p.rest)

/-- Whether two places are in one line, the second not before the first. -/
def isSameLine (p q : Place) : Bool :=
  !(p.rest.take (p.rest.length - q.rest.length)).any isBreak

end Place

/-! ## Ends of lines -/

/-- Ends of lines that follow each other, with blanks between them and behind. -/
structure Breaks where
  found : List Char
  left : List Char
  /-- Whether what is left starts or ends a document. -/
  parted : Bool

/-- The ends of lines in front. -/
def readBreaks (isBlank : Char → Bool) : List Char → Breaks
  | [] => ⟨[], [], false⟩
  | c :: rest =>
    if isBreak c then
      if isParting rest then ⟨[c], rest, true⟩
      else
        let more := readBreaks isBlank rest
        { more with found := c :: more.found }
    else if isBlank c then readBreaks isBlank rest
    else ⟨[], c :: rest, false⟩

/-- What ends of lines mean in a scalar. -/
def folded : List Char → List Char
  | [] => []
  | [c] => if c == '\n' then [' '] else [c]
  | c :: more => if c == '\n' then more else c :: more

/-! ## Scalars in quotes -/

/-- A character given by hexadecimal digits. -/
def readCodePoint? (width : Nat) (cs : List Char) : Option (Char × List Char) :=
  let ds := cs.take width
  if ds.length = width then (hexNumber? ds).map fun n => (Char.ofNat n, cs.drop width) else none

/-- The character behind a backslash. -/
def readEscape? : List Char → Option (Char × List Char)
  | 'x' :: rest => readCodePoint? 2 rest
  | 'u' :: rest => readCodePoint? 4 rest
  | 'U' :: rest => readCodePoint? 8 rest
  | c :: rest =>
    let named := [('0', '\x00'), ('a', '\x07'), ('b', '\x08'), ('t', '\t'), ('\t', '\t'), ('n', '\n'),
      ('v', '\x0b'), ('f', '\x0c'), ('r', '\r'), ('e', '\x1b'), (' ', ' '), ('"', '"'), ('/', '/'),
      ('\\', '\\'), ('N', '\u0085'), ('_', '\u00a0'), ('L', '\u2028'), ('P', '\u2029')]
    (named.lookup c).map fun d => (d, rest)
  | [] => none

/-- Whether a character is a blank in quotes. -/
def isBlank (c : Char) : Bool := c == ' ' || c == '\t'

/-- A scalar in quotes, behind the first. In double quotes a backslash escapes what follows it, also the
end of a line, which then means nothing; in single quotes a quote is written twice. -/
def readQuoted? (double : Bool) (fuel : Nat) (read : List Char) (cs : List Char) :
    Option (String × List Char) :=
  match fuel with
  | 0 => none
  | fuel + 1 =>
    let white := cs.takeWhile isBlank
    match cs.drop white.length with
    | [] => none
    | c :: rest =>
      if isBreak c then
        let breaks := readBreaks isBlank (c :: rest)
        if breaks.parted then none
        else readQuoted? double fuel ((folded breaks.found).reverse ++ read) breaks.left
      else
        let read := white.reverse ++ read
        match double, c, rest with
        | true, '"', rest => some (String.ofList read.reverse, rest)
        | false, '\'', '\'' :: rest => readQuoted? double fuel ('\'' :: read) rest
        | false, '\'', rest => some (String.ofList read.reverse, rest)
        | true, '\\', d :: rest =>
          if isBreak d then
            let breaks := readBreaks isBlank (d :: rest)
            if breaks.parted then none
            else readQuoted? double fuel ((breaks.found.drop 1).reverse ++ read) breaks.left
          else
            (readEscape? (d :: rest)).bind fun (c, rest) => readQuoted? double fuel (c :: read) rest
        | _, c, rest => readQuoted? double fuel (c :: read) rest

/-! ## Scalars without quotes -/

/-- The characters with which a scalar without quotes cannot start. -/
def marks : List Char :=
  [',', '[', ']', '{', '}', '#', '&', '*', '!', '|', '>', '\'', '"', '%', '@', '\x60', '\t', ' ',
   '\n', '\u2028', '\u2029']

/-- Whether a scalar without quotes can start with these characters. -/
def startsPlain (flow : Bool) (cs : List Char) : Bool :=
  match cs with
  | c :: rest =>
    if c == '-' then rest.head?.any fun d => !parts d
    else if c == '?' || c == ':' then !flow && rest.head?.any fun d => !parts d
    else !marks.contains c
  | [] => false

/-- The characters up to a blank, an end of line, or a colon that parts a key from its value, and between
brackets up to what means something there. -/
def plainRun (flow : Bool) : List Char → List Char
  | [] => []
  | c :: rest =>
    let ends :=
      parts c ||
      (c == ':' && rest.head?.all fun d => parts d || (flow && [',', '[', ']', '{', '}'].contains d)) ||
      (flow && [',', '?', '[', ']', '{', '}'].contains c)
    if ends then [] else c :: plainRun flow rest

/-- The text of a scalar without quotes. It ends before a comment, and unless it is between brackets,
before a line that starts left of column `least`. -/
def readPlain (flow : Bool) (least : Nat) (fuel : Nat) (p : Place) : List Char × Place :=
  match fuel with
  | 0 => ([], p)
  | fuel + 1 =>
    let run := plainRun flow p.rest
    let behind := p.skip run.length
    let gap := behind.rest.takeWhile (· == ' ')
    let q := behind.skip gap.length
    let goOn (between : List Char) (q : Place) : List Char × Place :=
      let (more, q) := readPlain flow least fuel q
      (if more.isEmpty then run else run ++ between ++ more, q)
    match q.rest with
    | [] => (run, q)
    | c :: _ =>
      if run.isEmpty then ([], p)
      else if isBreak c then
        let breaks := readBreaks (· == ' ') q.rest
        let q := q.upTo breaks.left
        if breaks.parted || breaks.left.head? == some '#' || (!flow && q.column < least) then (run, q)
        else goOn (folded breaks.found) q
      else if gap.isEmpty || c == '#' then (run, q)
      else goOn gap q

/-! ## Scalars -/

/-- A scalar, and the place behind it. -/
def readScalar? (flow : Bool) (least : Nat) (p : Place) : Option (Value × Place) :=
  let quoted? (double : Bool) (rest : List Char) : Option (Value × Place) :=
    (readQuoted? double (rest.length + 1) [] rest).map fun (s, left) => (.str s, p.upTo left)
  match p.rest with
  | '"' :: rest => quoted? true rest
  | '\'' :: rest => quoted? false rest
  | _ =>
    if startsPlain flow p.rest then
      let (text, q) := readPlain flow least (p.rest.length + 1) p
      (resolved? text).map (·, q)
    else none

end FlavoredMarkdown.Yaml
