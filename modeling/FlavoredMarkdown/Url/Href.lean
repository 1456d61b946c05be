/-!
# URLs in attributes

A URL is written into an attribute character by character: those of the safe set as they are, the
ampersand and the single quote as entities, and every other one as the percent escapes of its UTF-8
bytes. The percent sign is safe, so escapes that are already there stay as they are. Model of
`escape_href`.
-/

namespace FlavoredMarkdown.Url

/-- The characters of a URL that are written as they are (`HREF_SAFE_CHARS`). -/
def isHrefSafe (c : Char) : Bool :=
  c.isAlphanum || "-_.+!*(),%#@?=;:/$~".toList.contains c

/-- A hexadecimal digit in upper case. -/
def upperHexDigit (n : Nat) : Char :=
  if n < 10 then Char.ofNat (0x30 + n) else Char.ofNat (0x37 + n)

/-- The percent escape of a byte. -/
def percentByte (b : UInt8) : List Char :=
  ['%', upperHexDigit (b.toNat / 16), upperHexDigit (b.toNat % 16)]

/-- The percent escapes of a character. -/
def percentChar (c : Char) : List Char := (String.utf8EncodeChar c).flatMap percentByte

/-- How a character of a URL is written in an attribute. -/
def hrefChar (c : Char) : List Char :=
  if isHrefSafe c then [c]
  else if c = '&' then ['&', 'a', 'm', 'p', ';']
  else if c = '\'' then ['&', '#', 'x', '2', '7', ';']
  else percentChar c

/-- `href` on characters. -/
def hrefChars (cs : List Char) : List Char := cs.flatMap hrefChar

/-- The URL as it is written in an attribute (`escape_href`). -/
def href (url : String) : String := String.ofList (hrefChars url.toList)

@[simp] theorem hrefChars_append (as bs : List Char) :
    hrefChars (as ++ bs) = hrefChars as ++ hrefChars bs := by
  simp [hrefChars]

end FlavoredMarkdown.Url
