import FlavoredMarkdown.Host
import FlavoredMarkdown.Log
import FlavoredMarkdown.Value

/-!
# Where log records go

A `Journal` says which records are written, in which form, and to which file besides standard error.
It holds for the records of this program alone. A record without a journal is written as its bare
message, if it is at least a warning. Model of `resolve_log_level` and `configure_logging`.

`Journal.accepts_mono`: a journal that writes a record also writes every record that is more serious.
-/

namespace FlavoredMarkdown

/-- The names of levels and their numbers. -/
def namedLevels : List (String × Int) :=
  [("CRITICAL", 50), ("FATAL", 50), ("ERROR", 40), ("WARN", 30), ("WARNING", 30), ("INFO", 20),
    ("DEBUG", 10), ("NOTSET", 0)]

/-- The level that a value stands for (`resolve_log_level`). A number is a level; a text is the name of one
in any case, and a text that names none stands for warnings. -/
def levelOf : Value → Int
  | .int n => n
  | .bool b => if b then 1 else 0
  | v => (namedLevels.lookup (Text.uppered v.shown)).getD Severity.warning.rank

/-- The severity of a level's name. -/
def Severity.ofName? (name : String) : Option Severity :=
  [Severity.debug, .info, .warning, .error, .critical].find? fun s =>
    namedLevels.lookup name = some s.rank

/-- Which records are written, and how. -/
structure Journal where
  level : Int
  traced : Bool := false
  file : Option Path := none

namespace Journal

/-- The rank from which on records are written. The level zero stands for none. -/
def threshold (j : Journal) : Int := if j.level = 0 then Severity.warning.rank else j.level

/-- Whether records of a severity are written. -/
def accepts (j : Journal) (s : Severity) : Bool := j.threshold ≤ s.rank

theorem accepts_mono {j : Journal} {s t : Severity} (h : s.rank ≤ t.rank)
    (hs : j.accepts s = true) : j.accepts t = true := by
  simp only [accepts, decide_eq_true_eq] at *
  omega

/-- The line of a record at a time. -/
def line (j : Journal) (time : String) (r : LogRecord) : String :=
  if j.traced then
    "[" ++ time ++ "] [" ++ r.severity.name ++ "] [" ++ r.source ++ "] " ++ r.message ++ "\n"
  else r.severity.name ++ ": " ++ r.message ++ "\n"

/-- What is written of a record without a journal. -/
def bareLine (r : LogRecord) : String :=
  if Severity.warning.rank ≤ r.severity.rank then r.message ++ "\n" else ""

/-- Whether a record is one of this program's. -/
def owns (r : LogRecord) : Bool :=
  r.source = LogRecord.program ||
    (LogRecord.program ++ ".").toList.isPrefixOf r.source.toList

section Effects

variable {m : Type → Type} [Monad m]

/-- Writes a record to a journal. -/
def write (host : Host m) (j : Journal) (r : LogRecord) : m Unit := do
  if j.accepts r.severity then
    let text := j.line (← host.time) r
    host.complain text
    match j.file with
    | some p => discard (host.append p (Text.Utf8.encode text.toList))
    | none => pure ()

/-- Writes a record to the journal in force, if there is one for it. -/
def note (host : Host m) (journal? : Option Journal) (r : LogRecord) : m Unit :=
  match if owns r then journal? else none with
  | some j => j.write host r
  | none => host.complain (bareLine r)

/-- A journal of a level (`configure_logging`). Its file is made at once; if that fails, a warning is
written before there is a journal, and the file is left out. -/
def start (host : Host m) (level : Int) (file : String) (traced : Bool) : m Journal := do
  let screen : Journal := { level, traced }
  if file.isEmpty then return screen
  let p := ((← host.place).below (.ofText file)).collapsed
  match ← host.append p [] with
  | .error f =>
    if screen.accepts .warning then
      host.complain ("Could not open log file " ++ file ++ ": " ++ f.message p ++ "\n")
    return screen
  | .ok _ =>
    let j := { screen with file := some p }
    j.write host ⟨LogRecord.program, .info, "Logging to file: " ++ file⟩
    return j

end Effects

end Journal

end FlavoredMarkdown
