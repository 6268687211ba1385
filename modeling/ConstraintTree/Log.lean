namespace ConstraintTree

/-- How grave a record is, the gravest first. -/
inductive Severity where
  | error
  | warn
  | info
  | debug
  | trace
  deriving DecidableEq, Repr, Inhabited

namespace Severity

def all : List Severity := [.error, .warn, .info, .debug, .trace]

def name : Severity → String
  | .error => "ERROR"
  | .warn => "WARN"
  | .info => "INFO"
  | .debug => "DEBUG"
  | .trace => "TRACE"

def rank (severity : Severity) : Nat := all.idxOf severity

end Severity

inductive LogSource where
  | program
  | snapshot
  | rendering
  deriving DecidableEq, Repr, Inhabited

def LogSource.all : List LogSource := [.program, .snapshot, .rendering]

def LogSource.name : LogSource → String
  | .program => "exprkit"
  | .snapshot => "exprkit::codec"
  | .rendering => "exprkit::render::renderer"

structure LogRecord where
  severity : Severity
  source : LogSource
  message : String
  deriving DecidableEq, Repr, Inhabited

/-- A record as it is shown. Severities are padded to one width, and a message that runs over
several lines is indented from the second one. -/
def LogRecord.line (record : LogRecord) : String :=
  let severity := record.severity.name.pushn ' ' (5 - record.severity.name.length)
  let message := "\n    ".intercalate (record.message.splitOn "\n")
  s!"[{severity} {record.source.name}] {message}"

/-- What is shown of a log, and complaints about the way in which that was chosen. -/
structure LogView where
  shown : List LogRecord → List LogRecord
  complaints : List String := []

end ConstraintTree
