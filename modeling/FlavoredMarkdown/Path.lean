import FlavoredMarkdown.Text.LetterCase
import FlavoredMarkdown.Text.Split

/-!
# Paths

A path is a list of names below an anchor: the place where the program runs, or a root of the file
system. Empty names and `.` mean nothing and are left out; `..` is kept, since what it means depends on
the files. `Path.collapsed` is the path in which each `..` has taken away the name before it.
-/

namespace FlavoredMarkdown

/-- A path to a file. -/
structure Path where
  anchor : String := ""
  names : List String := []
  deriving DecidableEq, Repr, Inhabited

namespace Path

/-- The root that a text starts with. Two slashes in front, but not more, are a root of their own. -/
def anchorOf (cs : List Char) : String :=
  match (cs.takeWhile (· == '/')).length with
  | 0 => ""
  | 2 => "//"
  | _ => "/"

/-- Whether a name in a path leads anywhere. -/
def isName (cs : List Char) : Bool := !cs.isEmpty && cs != ['.']

/-- The path that a text stands for. -/
def ofText (s : String) : Path where
  anchor := anchorOf s.toList
  names := ((Text.partsAt '/' s.toList).filter isName).map String.ofList

/-- The text of a path. A path without names is the place itself. -/
def text (p : Path) : String :=
  if p.anchor.isEmpty && p.names.isEmpty then "."
  else p.anchor ++ "/".intercalate p.names

/-- The last name of a path. -/
def name (p : Path) : String := p.names.getLastD ""

/-- The last point of a name and what follows it, unless nothing stands before it or behind it. -/
def extensionOf (cs : List Char) : List Char :=
  let behind := (cs.reverse.takeWhile (· != '.')).reverse
  let front := cs.take (cs.length - behind.length - 1)
  if behind.isEmpty || front.isEmpty then [] else '.' :: behind

/-- The extension of a file, in lower case. -/
def extension (p : Path) : String :=
  Text.lowered (String.ofList (extensionOf p.name.toList))

/-- A path as it is seen from a place. -/
def below (place p : Path) : Path :=
  if p.anchor.isEmpty then { place with names := place.names ++ p.names } else p

/-- The names, the last first, once one more is added: `..` takes one away if there is one. -/
def stepInto (rooted : Bool) (names : List String) (name : String) : List String :=
  if name = ".." then
    match names with
    | last :: rest => if last = ".." then name :: names else rest
    | [] => if rooted then [] else [name]
  else name :: names

/-- The path without `..` behind a name. -/
def collapsed (p : Path) : Path :=
  { p with names := (p.names.foldl (stepInto !p.anchor.isEmpty) []).reverse }

end Path

end FlavoredMarkdown
