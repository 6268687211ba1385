import ConstraintTree.Log

namespace ConstraintTree.CommandLine

structure Failure where
  message : String
  /-- Messages of the causes, the innermost last. -/
  causes : List String := []
  deriving DecidableEq, Repr, Inhabited

namespace Failure

/-- A single cause stands by itself; several are numbered. -/
def causeLines : List String → List String
  | [] => []
  | [cause] => ["", "Caused by:", "    " ++ cause]
  | causes => ["", "Caused by:"] ++ causes.zipIdx.map fun (cause, index) => s!"    {index}: {cause}"

def lines (failure : Failure) : List String :=
  ("Error: " ++ failure.message) :: causeLines failure.causes

end Failure

structure Outcome where
  printed : List String := []
  logged : List LogRecord := []
  failure : Option Failure := none
  deriving DecidableEq, Repr, Inhabited

namespace Outcome

def succeeds (outcome : Outcome) : Bool := outcome.failure.isNone

def after (records : List LogRecord) (outcome : Outcome) : Outcome :=
  { outcome with logged := records ++ outcome.logged }

/-- The lines that the user is told beside the output: what is shown of the log, then the report of the
failure. -/
def told (view : LogView) (outcome : Outcome) : List String :=
  view.complaints ++ (view.shown outcome.logged).map LogRecord.line ++
    (outcome.failure.map Failure.lines).getD []

end Outcome

/-- What is left of a finished run. -/
structure Transcript where
  code : Nat
  output : List String := []
  messages : List String := []
  deriving DecidableEq, Repr, Inhabited

/-- Lines as text: each is ended. -/
def textOf (lines : List String) : String := String.join (lines.map (· ++ "\n"))

end ConstraintTree.CommandLine
