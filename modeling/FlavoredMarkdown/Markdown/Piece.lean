import FlavoredMarkdown.Markdown.Dialect
import FlavoredMarkdown.Markdown.Link
import FlavoredMarkdown.Markdown.RawHtml
import FlavoredMarkdown.Markdown.Token
import FlavoredMarkdown.Text.Split

/-!
# Pieces of text

`piece?` says what stands at the front of a text if it is neither a mark of emphasis nor a bracket:
escaped characters, code, the end of a line, a URL, raw HTML or the markup of an extension. A piece is
found by looking from its first character on, so what is inside it starts nothing that ends behind it.
The content of markup is not read here: a piece holds it as it is written.
-/

namespace FlavoredMarkdown.Markdown

/-- What is known when text is read: the dialect, and what is defined anywhere. -/
structure Source where
  dialect : Dialect
  targets : List (String × Target)
  notes : List String

/-- A piece of text: literal characters, a token, a tag of raw HTML, a reference to a footnote, a URL or
an address that is a link of its own, or markup around a content that is still to be read. -/
inductive Piece
  | text (s : List Char)
  | token (t : Token)
  | html (source : List Char)
  | note (key : String)
  | address (source : List Char) (t : Token)
  | markup (type : String) (content : List Char)

/-- What a recogniser finds: the piece at the front, and what is left. -/
abbrev Found := Option (Piece × List Char)

/-- The characters of a token. -/
def rawToken (type : String) (raw : List Char) : Piece :=
  .token (.plain type [("raw", .str (String.ofList raw))])

/-! ## Escapes, code and breaks -/

/-- Escaped characters in a row, and what is left. -/
def escapes : List Char → List Char × List Char
  | '\\' :: c :: rest =>
    if isEscapable c then
      let (taken, left) := escapes rest
      (c :: taken, left)
    else ([], '\\' :: c :: rest)
  | cs => ([], cs)

/-- Code up to a row of exactly `n` backticks. `run` backticks are just read, behind `taken`. -/
def codeEnd? (n run : Nat) (taken : List Char) : List Char → Option (List Char × List Char)
  | [] => if run = n then some (taken.reverse, []) else none
  | c :: rest =>
    if c = '\x60' then codeEnd? n (run + 1) taken rest
    else if run = n then some (taken.reverse, c :: rest)
    else codeEnd? n 0 (c :: (List.replicate run '\x60' ++ taken)) rest

/-- Code as it is shown: in one line, and without one space at both ends if there is one at both. -/
def codeText (cs : List Char) : List Char :=
  let t := cs.map fun c => if c = '\n' then ' ' else c
  if !Text.allBlank t && t.head? = some ' ' && t.getLast? = some ' ' then (t.drop 1).dropLast else t

/-- Code between backticks, or the backticks alone. -/
def code? (cs : List Char) : Found :=
  let n := (cs.takeWhile (· == '\x60')).length
  if n = 0 then none
  else
    match codeEnd? n 0 [] (cs.drop n) with
    | some (content, left) => some (rawToken "codespan" (codeText content), left)
    | none => some (.text (cs.take n), cs.drop n)

/-- The end of a line inside a text. Two spaces or a backslash before it break the line for good; a
single space is dropped. -/
def lineBreak? (cs : List Char) : Found :=
  match cs with
  | '\\' :: '\n' :: rest => some (.token (.plain "linebreak" []), Text.trimStart rest)
  | _ =>
    let spaces := cs.takeWhile (· == ' ')
    match cs.drop spaces.length with
    | '\n' :: rest =>
      let type := if 2 ≤ spaces.length then "linebreak" else "softbreak"
      some (.token (.plain type []), Text.trimStart rest)
    | _ => none

/-! ## URLs and raw HTML -/

/-- The scheme of a URL with its colon, and what is left. -/
def scheme? (cs : List Char) : Option (List Char × List Char) :=
  match cs with
  | c :: rest =>
    let run := rest.takeWhile fun d => d.isAlphanum || d == '.' || d == '+' || d == '-'
    match rest.drop run.length with
    | ':' :: left =>
      if c.isAlpha && 1 ≤ run.length && run.length ≤ 31 then some (c :: run ++ [':'], left) else none
    | _ => none
  | [] => none

/-- A URL in angle brackets, and what is left. -/
def bracketedUrl? (cs : List Char) : Option (List Char × List Char) :=
  match cs with
  | '<' :: rest => do
    let (scheme, behind) ← scheme? rest
    let path := behind.takeWhile fun d => !(d == '<' || d == '>') && 0x20 < d.toNat
    match behind.drop path.length with
    | '>' :: left => some (scheme ++ path, left)
    | _ => none
  | _ => none

/-- A link with a text as it is. -/
def shownToken (shown url : List Char) : Token :=
  .node "link" [("attrs", .dict [("url", .str (Url.encodedTarget url))])]
    [.plain "text" [("raw", .str (String.ofList shown))]]

/-- Whether a part of a host's name between its dots is well formed. -/
def isHostPart (part : List Char) : Bool :=
  part.length ≤ 63 && (part.head?.any (·.isAlphanum)) && (part.getLast?.any (·.isAlphanum))

/-- A mail address in angle brackets, and what is left. -/
def bracketedAddress? (cs : List Char) : Option (List Char × List Char) :=
  match cs with
  | '<' :: rest =>
    let user := rest.takeWhile fun c =>
      c.isAlphanum || ".!#$%&'*+/=?^_\x60\x7b|\x7d~-".toList.contains c
    match rest.drop user.length with
    | '@' :: behind =>
      let host := behind.takeWhile fun c => c.isAlphanum || c == '-' || c == '.'
      match behind.drop host.length with
      | '>' :: left =>
        if !user.isEmpty && (Text.partsAt '.' host).all isHostPart then
          some (user ++ '@' :: host, left)
        else none
      | _ => none
    | _ => none
  | _ => none

/-- A URL or a mail address in angle brackets: what the link shows, its URL and what is left. -/
def bracketedTarget? (cs : List Char) : Option (List Char × List Char × List Char) :=
  match bracketedUrl? cs with
  | some (url, left) => some (url, url, left)
  | none => (bracketedAddress? cs).map fun (address, left) =>
    (address, "mailto:".toList ++ address, left)

/-- A link in angle brackets. -/
def autoLink? (cs : List Char) : Found :=
  (bracketedTarget? cs).map fun (shown, url, left) =>
    (.address (cs.take (cs.length - left.length)) (shownToken shown url), left)

/-- A tag or other markup of raw HTML. -/
def html? (cs : List Char) : Found :=
  (afterHtml? cs).map fun left => (.html (cs.take (cs.length - left.length)), left)

/-- Characters that do not end a URL in running text. -/
def endsUrl (c : Char) : Bool :=
  !(['<', '.', ',', ':', ';', '"', '\'', ')', ']'].contains c)

/-- A URL in running text. It needs two characters behind its scheme. -/
def bareUrl? (cs : List Char) : Found :=
  let scheme := if "http://".toList.isPrefixOf cs then 7 else if "https://".toList.isPrefixOf cs then 8
    else 0
  if scheme = 0 then none
  else
    let run := (cs.drop scheme).takeWhile fun c => !(Text.isBlank c || c == '<')
    let kept := (run.reverse.dropWhile fun c => !endsUrl c).reverse
    if kept.length < 2 then none
    else
      let url := cs.take (scheme + kept.length)
      some (.address url (shownToken url url), cs.drop (scheme + kept.length))

/-! ## Extensions -/

/-- Whether a pair of marks that start a run of `run` marks ends a content: behind something that is no
white space, or behind a mark that is escaped. The answer is the number of marks that belong to the
content. -/
def closing? (solid escaped : Bool) (run : Nat) : Option Nat :=
  if escaped && 3 ≤ run then some 1 else if solid && 2 ≤ run then some 0 else none

/-- The content of markup up to its closing pair of marks, and what is left. `run` marks are just read,
behind `taken`. -/
def pairEnd? (mark : Char) (solid escaped : Bool) (run : Nat) (taken : List Char) :
    List Char → Option (List Char × List Char)
  | [] => (closing? solid escaped run).map fun k =>
    (taken.reverse ++ List.replicate k mark, List.replicate (run - k - 2) mark)
  | c :: rest =>
    if c = mark then pairEnd? mark solid escaped (run + 1) taken rest
    else
      match closing? solid escaped run with
      | some k =>
        some (taken.reverse ++ List.replicate k mark, List.replicate (run - k - 2) mark ++ c :: rest)
      | none =>
        pairEnd? mark (!Text.isBlank c) (c = '\\' && (run != 0 || !escaped)) 0
          (c :: (List.replicate run mark ++ taken)) rest

/-- Whether a pair of marks stands at the front that can start a content. -/
def startsPair (mark : Char) (cs : List Char) : Bool :=
  match cs with
  | a :: b :: c :: _ => a == mark && b == mark && c != mark && !Text.isBlank c
  | _ => false

/-- Markup between two pairs of a mark. -/
def paired? (type : String) (mark : Char) (cs : List Char) : Found :=
  (pairEnd? mark false false 0 [] (cs.drop 2)).map fun (content, left) => (.markup type content, left)

/-- The content up to a mark. It holds something, and no white space but spaces that are escaped. -/
def scriptEnd? (mark : Char) (taken : List Char) : List Char → Option (List Char × List Char)
  | [] => none
  | '\\' :: c :: rest =>
    if c = mark then scriptEnd? mark (c :: '\\' :: taken) rest
    else if c = ' ' then scriptEnd? mark (' ' :: taken) rest
    else scriptEnd? mark ('\\' :: taken) (c :: rest)
  | c :: rest =>
    if c = mark && !taken.isEmpty then some (taken.reverse, rest)
    else if Text.isBlank c then none
    else scriptEnd? mark (c :: taken) rest

/-- Text above or below the line, between two single marks. -/
def script? (type : String) (mark : Char) (cs : List Char) : Found :=
  match cs with
  | c :: rest =>
    if c = mark then
      (scriptEnd? mark [] rest).map fun (content, left) => (.markup type content, left)
    else none
  | [] => none

/-- A formula up to its closing dollar sign, which no digit follows. It holds no other dollar sign,
unless escaped, and stands on one line. -/
def mathEnd? (taken : List Char) : List Char → Option (List Char × List Char)
  | [] => none
  | '\\' :: c :: rest => if c = '\n' then none else mathEnd? (c :: '\\' :: taken) rest
  | c :: rest =>
    if c = '\n' || c = '\\' then none
    else if c = '$' then
      if taken.isEmpty || (rest.take 1).any Char.isDigit then none else some (taken.reverse, rest)
    else mathEnd? (c :: taken) rest

/-- A displayed formula up to its closing pair of dollar signs, on one line. -/
def displayEnd? (taken : List Char) : List Char → Option (List Char × List Char)
  | [] => none
  | c :: rest =>
    if c = '\n' then none
    else
      match c, rest with
      | '$', '$' :: left =>
        if taken.isEmpty then displayEnd? (c :: taken) rest else some (taken.reverse, left)
      | _, _ => displayEnd? (c :: taken) rest

/-- A formula between dollar signs, or between pairs of them. -/
def math? (cs : List Char) : Found :=
  let display : Found :=
    match cs with
    | '$' :: '$' :: rest =>
      (displayEnd? [] rest).map fun (content, left) => (rawToken "block_math" content, left)
    | _ => none
  display.or <|
    match cs with
    | '$' :: c :: rest =>
      if Text.isBlank c then none
      else (mathEnd? [] (c :: rest)).map fun (content, left) => (rawToken "inline_math" content, left)
    | _ => none

/-- What is hidden up to the closing mark, in one line. -/
def spoilerEnd? (taken : List Char) : List Char → Option (List Char × List Char)
  | [] => none
  | c :: rest =>
    match taken, c, rest with
    | _ :: _, '!', '<' :: left =>
      let content := Text.trimEnd taken.reverse
      if content.isEmpty || content.contains '\n' then none else some (content, left)
    | _, _, _ => spoilerEnd? (c :: taken) rest

/-- A spoiler inside a line. -/
def inlineSpoiler? (cs : List Char) : Found :=
  match cs with
  | '>' :: '!' :: rest =>
    (spoilerEnd? [] (Text.trimStart rest)).map fun (content, left) =>
      (.markup "inline_spoiler" content, left)
  | _ => none

/-- A reference to a footnote. Without a note of that name it is literal text. -/
def noteReference? (source : Source) (cs : List Char) : Found :=
  match cs with
  | '[' :: '^' :: rest =>
    (label? maxLabelLength rest).map fun (label, left) =>
      let key := labelKey label
      if source.notes.contains key then (.note key, left)
      else (.text (cs.take (cs.length - left.length)), left)
  | _ => none

/-! ## All of them -/

/-- The piece at the front of a text. -/
def piece? (source : Source) (cs : List Char) : Found :=
  let on (e : Extension) (found : Unit → Found) : Found :=
    if source.dialect.has e then found () else none
  match cs with
  | [] => none
  | c :: _ =>
    match c with
    | '\\' =>
      match escapes cs with
      | ([], _) => lineBreak? cs
      | (taken, left) => some (.text taken, left)
    | '\x60' => code? cs
    | '~' =>
      if source.dialect.has .strikethrough && startsPair '~' cs then paired? "strikethrough" '~' cs
      else on .subscript fun _ => script? "subscript" '~' cs
    | '^' =>
      if source.dialect.has .underline && startsPair '^' cs then paired? "insert" '^' cs
      else on .superscript fun _ => script? "superscript" '^' cs
    | '$' => on .math fun _ => math? cs
    | '[' => on .footnotes fun _ => noteReference? source cs
    | '<' => (autoLink? cs).or (html? cs)
    | '>' => on .spoiler fun _ => inlineSpoiler? cs
    | 'h' => on .autolink fun _ => bareUrl? cs
    | _ => lineBreak? cs

end FlavoredMarkdown.Markdown
