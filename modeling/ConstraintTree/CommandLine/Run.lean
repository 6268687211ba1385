import ConstraintTree.CommandLine.Execution
import ConstraintTree.FileSystem
import ConstraintTree.Log.Filter

namespace ConstraintTree.CommandLine

/-- The log through the filter that a text describes. Without a text, all of it is shown down to the
wanted severity. -/
def filteredLog (text : Option String) (severity : Severity) : LogView :=
  match text with
  | some text =>
    let (filter, complaints) := LogFilter.read text
    { shown := filter.shown, complaints }
  | none => { shown := (LogFilter.downTo severity).shown }

def program (arguments : List String) (logging : Option String) : FileUse String Transcript :=
  execute { log := filteredLog logging } arguments

end ConstraintTree.CommandLine
