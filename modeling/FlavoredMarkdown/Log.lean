/-!
# Log records

What the program notes while it works. Each record names the part of the program that wrote it, and
how serious it is. All names of sources are below `PACKAGE_LOGGER_NAME`.
-/

namespace FlavoredMarkdown

/-- How serious a record is. -/
inductive Severity
  | debug
  | info
  | warning
  | error
  | critical
  deriving DecidableEq, Repr

/-- The name of a severity, as records show it. -/
def Severity.name : Severity → String
  | .debug => "DEBUG"
  | .info => "INFO"
  | .warning => "WARNING"
  | .error => "ERROR"
  | .critical => "CRITICAL"

/-- The number of a severity: more serious records have greater ones. -/
def Severity.rank : Severity → Int
  | .debug => 10
  | .info => 20
  | .warning => 30
  | .error => 40
  | .critical => 50

/-- A record of the log. -/
structure LogRecord where
  source : String
  severity : Severity
  message : String
  deriving DecidableEq, Repr

namespace LogRecord

/-- The name under which the whole program logs (`PACKAGE_LOGGER_NAME`). -/
def program : String := "glfm_markdown"

/-- A record of the rendering as a whole. -/
def ofRendering (message : String) : LogRecord := ⟨program ++ ".api", .debug, message⟩

/-- A record of the reading of Markdown. -/
def ofReading (message : String) : LogRecord := ⟨program ++ ".parsers.markdown", .debug, message⟩

/-- A record of an override's decision. -/
def ofOverride (message : String) : LogRecord := ⟨program ++ ".renderers.glfm", .debug, message⟩

/-- A record of a URL that is left out. -/
def ofUrl (message : String) : LogRecord := ⟨program ++ ".utils.security", .debug, message⟩

/-- A record of the command line. -/
def ofCommand (message : String) : LogRecord := ⟨program ++ ".cli", .debug, message⟩

end LogRecord

end FlavoredMarkdown
