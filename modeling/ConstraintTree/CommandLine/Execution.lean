import ConstraintTree.CommandLine.Arguments
import ConstraintTree.CommandLine.Outcome
import ConstraintTree.Disk
import ConstraintTree.Rendering
import ConstraintTree.Text.Quoted
import ConstraintTree.Validator

namespace ConstraintTree.CommandLine

def renderingRecords (item : Item) (index : Nat) : Rendering → List LogRecord
  | .complete _ => []
  | .incomplete text missing =>
    let gaps := Gap.listing missing
    [⟨.debug, .rendering, s!"rendered incomplete tree {Quoted.encode text}: missing {gaps}"⟩,
      ⟨.warn, .program, s!"{item.sort} #{index} is incomplete: missing {gaps}"⟩]

def renderSnapshot (dialect : Dialect) (strict : Bool) (snapshot : Snapshot) : Outcome :=
  let renderings := snapshot.items.map (Item.render dialect)
  let incomplete := renderings.countP fun rendering => !rendering.isComplete
  { printed := renderings.map Rendering.text
    logged := snapshot.items.zipIdx.flatMap fun (item, index) =>
      renderingRecords item index (item.render dialect)
    failure := if strict && incomplete ≠ 0 then
        some { message := s!"{incomplete} of {snapshot.items.length} trees are incomplete" }
      else none }

structure Finding where
  sort : String
  index : Nat
  result : Except TreeError Unit

def Finding.isFailure (finding : Finding) : Bool := !finding.result.isOk

def Finding.line (finding : Finding) : String :=
  let verdict := match finding.result with
    | .ok _ => "ok"
    | .error error => error.message
  s!"{finding.sort} #{finding.index}: {verdict}"

def findings (snapshot : Snapshot) : List Finding :=
  snapshot.items.zipIdx.map fun (item, index) => ⟨item.sort, index, item.validate⟩

def checkSnapshot (snapshot : Snapshot) : Outcome :=
  let failures := (findings snapshot).countP Finding.isFailure
  let count := snapshot.items.length
  let printed := (findings snapshot).map Finding.line
  if failures ≠ 0 then
    { printed, failure := some { message := s!"{failures} of {count} trees failed validation" } }
  else
    { printed, logged := [⟨.info, .program, s!"all {count} trees are complete"⟩] }

/-- Goes on with a snapshot that was loaded from a file, or reports why it could not be. -/
def withSnapshot (path : String) (next : Snapshot → Outcome) :
    Except TreeError Snapshot → Outcome
  | .ok snapshot =>
    let count := snapshot.items.length
    (next snapshot).after
      [⟨.debug, .snapshot, s!"decoded snapshot with {count} items"⟩,
        ⟨.debug, .program,
          s!"loaded snapshot v{snapshot.formVersion} with {count} trees from {path}"⟩]
  | .error error =>
    { failure := some { message := s!"Failed to read snapshot {path}", causes := error.chain } }

/-! A small snapshot to begin with. It holds trees of several kinds, the last of them incomplete. -/

/-- A range of angles to either side of zero, with tolerance 0.05. -/
def sampleDimension (name : String) (lower upper : UInt64) : DimElement :=
  { name, lower := ⟨lower⟩, upper := ⟨upper⟩, tolerance := ⟨0x3fa999999999999a⟩ }

def sampleDimensions : List DimElement :=
  [sampleDimension "X" 0xc066800000000000 0x4066800000000000,
    sampleDimension "Y" 0xc056800000000000 0x4056800000000000]

def sample : Snapshot where
  items := [
    .expression (.range (.named "height") (.integer 0) (.integer 8848)),
    .expression (.dimArray sampleDimensions),
    .predicate (.forAll "x" (.atom "isValid" [.named "x"])),
    .predicate (.quantification .existential (some "y") none)]

def stored (path : String) (result : Except TreeError Unit) : Outcome :=
  let count := sample.items.length
  let encoded : List LogRecord :=
    match sample.encode with
    | .ok bytes =>
      [⟨.debug, .snapshot,
        s!"encoded snapshot v{sample.formVersion} with {count} items ({bytes.length} bytes)"⟩]
    | .error _ => []
  match result with
  | .ok _ => { logged := encoded ++ [⟨.info, .program, s!"wrote sample snapshot to {path}"⟩] }
  | .error error =>
    { logged := encoded
      failure := some { message := s!"Failed to write snapshot {path}", causes := error.chain } }

/-- How a command uses a file, and what comes of it. -/
def Command.run (dialect : Dialect) : Command → FileUse String Outcome
  | .render path strict =>
    (Snapshot.load path).map (withSnapshot path (renderSnapshot dialect strict))
  | .check path => (Snapshot.load path).map (withSnapshot path checkSnapshot)
  | .demo path => (sample.save path).map (stored path)

structure Surroundings where
  /-- What is shown of the log, if it is wanted down to some severity. -/
  log : Severity → LogView
  /-- The words in which arguments that name no command are answered. -/
  guidance : List String → Interruption → List String := fun _ _ => []

def Interruption.transcript (words : List String) : Interruption → Transcript
  | .help => { code := 0, output := words }
  | .version => { code := 0, output := ["exprkit 0.1.0"] }
  | .misuse => { code := 2, messages := words }

/-- The log is wanted in detail for debugging. -/
def Settings.severity (settings : Settings) : Severity := if settings.debug then .debug else .info

def execute (surroundings : Surroundings) (arguments : List String) : FileUse String Transcript :=
  match parse arguments with
  | .error interruption =>
    .none (interruption.transcript (surroundings.guidance arguments interruption))
  | .ok (settings, command) =>
    (command.run settings.dialect).map fun outcome =>
      { code := if outcome.succeeds then 0 else 1
        output := outcome.printed
        messages := outcome.told (surroundings.log settings.severity) }

end ConstraintTree.CommandLine
