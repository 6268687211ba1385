import ConstraintTree.Log
import ConstraintTree.Pattern
import Std.Data.HashMap

/-!
The filter that decides which log records are shown. It is written as directives, each of which sets a
threshold for the sources whose names begin in a given way; of the directives that apply to a source, the
one with the longest such beginning decides.
-/
namespace ConstraintTree

/-- The least grave severity that is shown; without one nothing is. -/
abbrev Threshold := Option Severity

namespace Threshold

def admits (threshold : Threshold) (severity : Severity) : Bool :=
  threshold.any fun lowest => severity.rank ≤ lowest.rank

def ofText? (text : String) : Option Threshold :=
  if text.toUpper = "OFF" then some none
  else (Severity.all.find? fun severity => severity.name = text.toUpper).map some

end Threshold

structure LogDirective where
  /-- Beginning of the names of the sources that are meant; without one, all are. -/
  target : Option String := none
  threshold : Threshold
  deriving DecidableEq, Repr, Inhabited

namespace LogDirective

def applies (directive : LogDirective) (source : LogSource) : Bool :=
  directive.target.all fun beginning => source.name.startsWith beginning

def length (directive : LogDirective) : Nat := (directive.target.getD "").utf8ByteSize

/-- Reads one directive: a threshold, a target, or both. A lone target shows everything of its
source. -/
def read (text : String) : Except String LogDirective :=
  match text.splitOn "=" with
  | [only] =>
    match Threshold.ofText? only with
    | some threshold => .ok { threshold }
    | none => .ok { target := some only, threshold := some .trace }
  | [target, threshold] =>
    let threshold := Blank.trim threshold
    if threshold.isEmpty then .ok { target := some target, threshold := some .trace }
    else
      match Threshold.ofText? threshold with
      | some threshold => .ok { target := some target, threshold }
      | none => .error threshold
  | _ => .error text

end LogDirective

structure LogFilter where
  directives : List LogDirective
  sought : Option Pattern.Regular := none
  deriving Repr, Inhabited

namespace LogFilter

def downTo (severity : Severity) : LogFilter := { directives := [{ threshold := some severity }] }

/-- The directive that decides about a source: the narrowest, of equally narrow ones the last. -/
def deciding? (filter : LogFilter) (source : LogSource) : Option LogDirective :=
  (filter.directives.filter fun directive => directive.applies source).foldl
    (fun best directive =>
      match best with
      | some chosen => if directive.length < chosen.length then best else some directive
      | none => some directive) none

def threshold (filter : LogFilter) (source : LogSource) : Threshold :=
  (filter.deciding? source).bind LogDirective.threshold

def admitted (filter : LogFilter) (records : List LogRecord) : List LogRecord :=
  let thresholds := LogSource.all.map fun source => (source, filter.threshold source)
  records.filter fun record =>
    Threshold.admits (thresholds.lookup record.source).join record.severity

def shown (filter : LogFilter) (records : List LogRecord) : List LogRecord :=
  let admitted := filter.admitted records
  match filter.sought with
  | none => admitted
  | some sought =>
    let found := sought.findIn (admitted.map LogRecord.message)
    (admitted.zip found).filterMap fun (record, found) => if found then some record else none

/-- For each target the last directive, in the place of the first one. -/
def merged (directives : List LogDirective) : List LogDirective :=
  let (kept, _) := directives.foldl (fun (kept, places) directive =>
    match places.get? directive.target with
    | some place => (kept.setIfInBounds place directive, places)
    | none => (kept.push directive, places.insert directive.target kept.size))
    ((#[] : Array LogDirective), ({} : Std.HashMap (Option String) Nat))
  kept.toList

/-- Reads directives between commas. Those that cannot be read are left out, each with a complaint;
when none is left, only errors are shown. -/
def ofDirectives (text : String) : LogFilter × List String :=
  let parts := (text.splitOn ",").map Blank.trim
  let results := (parts.filter fun part => !part.isEmpty).map LogDirective.read
  let directives := merged (results.filterMap Except.toOption)
  let refused := results.filterMap fun result =>
    match result with
    | .error part => some s!"warning: invalid logging spec '{part}', ignoring it"
    | .ok _ => none
  (if directives.isEmpty then downTo .error else { directives }, refused)

/-- Reads directives and, after a slash, the pattern that messages must contain. A pattern that
cannot be used is left out with a complaint. -/
def read (text : String) : LogFilter × List String :=
  match text.splitOn "/" with
  | [directives] => ofDirectives directives
  | [directives, pattern] =>
    let (filter, refused) := ofDirectives directives
    match Pattern.Regular.ofText pattern with
    | .ok sought => ({ filter with sought := some sought }, refused)
    | .error refusal =>
      let reason := refusal.message pattern
      (filter, refused ++ [s!"warning: invalid regex filter - {reason}"])
  | _ =>
    (downTo .error, [s!"warning: invalid logging spec '{text}', ignoring it (too many '/'s)"])

end LogFilter
end ConstraintTree
