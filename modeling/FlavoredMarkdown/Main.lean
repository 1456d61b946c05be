import FlavoredMarkdown.Program.Run
import Std.Time.Format

/-!
# The command line program

The program over the real files, the real environment and the real clock. All that it decides is
decided by `run`.
-/

namespace FlavoredMarkdown

/-- Whether a number is the code of a fault. Some systems give the codes as negative numbers. -/
def FileFault.hasCode (f : FileFault) (n : UInt32) : Bool :=
  n.toNat = f.code || (0 - n).toNat = f.code

/-- The fault that an error of the file system is. -/
def FileFault.ofError : IO.Error → FileFault
  | .noFileOrDirectory .. => .missing
  | .permissionDenied .. => .denied
  | .inappropriateType _ code description =>
    if FileFault.notDirectory.hasCode code then .notDirectory
    else if FileFault.isDirectory.hasCode code then .isDirectory
    else .other code.toNat description
  | .otherError code description | .unsupportedOperation code description
  | .illegalOperation code description | .resourceBusy code description
  | .invalidArgument _ code description | .resourceExhausted _ code description =>
    .other code.toNat description
  | e => .other 0 (toString e)

/-- The result of an action on a file, or its fault. -/
def faultOr {α : Type} (action : IO α) : IO (Except FileFault α) := do
  try return .ok (← action)
  catch e => return .error (.ofError e)

/-- Whether there is a real file. One that must not be read is there all the same. A lookup that the
system refuses is an error of its own. -/
def isRealFile (p : Path) : IO Bool := do
  match ← faultOr (IO.FS.readBinFile p.text) with
  | .ok _ | .error .denied => return true
  | .error (.other code description) =>
    -- A link that leads back to itself counts as no file.
    if code = 40 then return false else throw (IO.userError description)
  | .error _ => return false

/-- Adds bytes to a real file. -/
def addBytes (p : Path) (bytes : List UInt8) : IO Unit := do
  let file ← IO.FS.Handle.mk p.text .append
  file.write (ByteArray.mk bytes.toArray)

/-- The world of the process. -/
def realHost : Host IO where
  isFile := isRealFile
  read p := return (← faultOr (IO.FS.readBinFile p.text)).map ByteArray.toList
  write p bytes := faultOr (IO.FS.writeBinFile p.text (ByteArray.mk bytes.toArray))
  append p bytes := faultOr (addBytes p bytes)
  input := return (← (← IO.getStdin).readBinToEnd).toList
  print := IO.print
  complain := IO.eprint
  environment name := IO.getEnv name
  place := return Path.ofText ((← IO.getEnv "PWD").getD "")
  time := return (← Std.Time.PlainDateTime.now).format "uuuu-MM-dd HH:mm:ss"

end FlavoredMarkdown

/-- Runs the program and ends with its exit code. -/
def main (words : List String) : IO UInt32 := do
  match ← FlavoredMarkdown.run FlavoredMarkdown.realHost words with
  | .exit code => return UInt32.ofNat code
  | .breakdown _ => return 1
