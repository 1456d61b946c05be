import FlavoredMarkdown.Path
import FlavoredMarkdown.Text.Quoted
import FlavoredMarkdown.Text.Utf8

/-!
# The world outside

The program reaches files, standard input and output, the environment and the clock only through a
`Host`. It is the same program whether these are real or held in memory.
-/

namespace FlavoredMarkdown

/-- Why a file cannot be used. -/
inductive FileFault
  | missing
  | notDirectory
  | isDirectory
  | denied
  | other (code : Nat) (description : String)
  deriving DecidableEq, Repr

namespace FileFault

/-- The number of a fault. -/
def code : FileFault → Nat
  | .missing => 2
  | .notDirectory => 20
  | .isDirectory => 21
  | .denied => 13
  | .other n _ => n

/-- What a fault is called. -/
def description : FileFault → String
  | .missing => "No such file or directory"
  | .notDirectory => "Not a directory"
  | .isDirectory => "Is a directory"
  | .denied => "Permission denied"
  | .other _ s => s

/-- The wording of a fault at a path. -/
def message (f : FileFault) (p : Path) : String :=
  "[Errno " ++ toString f.code ++ "] " ++ f.description ++ ": " ++ Text.quoted p.text

end FileFault

/-- What a program can do outside itself. -/
structure Host (m : Type → Type) where
  /-- Whether there is a file, and not a directory, at a path (`is_file`). A lookup that the system
  refuses, such as one of a name that is too long, has no answer: it is an effect of `m` and passes
  through the program (`loadConfig_refusedLookup`). -/
  isFile : Path → m Bool
  /-- The bytes of a file. -/
  read : Path → m (Except FileFault (List UInt8))
  /-- Makes a file of some bytes, in place of one that is there. -/
  write : Path → List UInt8 → m (Except FileFault Unit)
  /-- Adds bytes to a file, which is made if it is not there. -/
  append : Path → List UInt8 → m (Except FileFault Unit)
  /-- All of standard input. -/
  input : m (List UInt8)
  /-- Writes to standard output. -/
  print : String → m Unit
  /-- Writes to standard error. -/
  complain : String → m Unit
  /-- A variable of the environment, if it is set. -/
  environment : String → m (Option String)
  /-- The place where relative paths start. -/
  place : m Path
  /-- The date and the time of day. -/
  time : m String

/-- Why there is no text to read. -/
inductive ReadFault
  | file (f : FileFault)
  | notText (e : Text.Utf8.Error)

namespace ReadFault

/-- Where the bytes are that are no text. -/
def place (e : Text.Utf8.Error) : String :=
  if e.first = e.last then
    "byte 0x" ++ String.ofList (Text.hexDigits 2 e.byte.toNat) ++ " in position " ++ toString e.first
  else "bytes in position " ++ toString e.first ++ "-" ++ toString e.last

/-- What is wrong with bytes that are no text. -/
def reason : Text.Utf8.Fault → String
  | .badStart => "invalid start byte"
  | .badContinuation => "invalid continuation byte"
  | .cutShort => "unexpected end of data"

/-- The wording of a fault in reading the file at a path. -/
def message (p : Path) : ReadFault → String
  | .file f => f.message p
  | .notText e => "'utf-8' codec can't decode " ++ place e ++ ": " ++ reason e.fault

end ReadFault

/-- The text with one character for every end of a line. -/
def plainLineEnds : List Char → List Char
  | [] => []
  | '\r' :: '\n' :: rest => '\n' :: plainLineEnds rest
  | '\r' :: rest => '\n' :: plainLineEnds rest
  | c :: rest => c :: plainLineEnds rest

/-- The text of some bytes. -/
def textOf (bytes : List UInt8) : Except ReadFault (List Char) :=
  match Text.Utf8.decode bytes with
  | .ok cs => .ok (plainLineEnds cs)
  | .error e => .error (.notText e)

end FlavoredMarkdown
