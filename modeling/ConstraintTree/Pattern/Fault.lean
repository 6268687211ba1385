namespace ConstraintTree.Pattern

/-- A part of a pattern, from the position of its first character to the position behind its last
one. -/
structure Span where
  start : Nat
  stop : Nat
  deriving DecidableEq, Repr, Inhabited

/-- Most levels of groups, repetitions and classes inside each other. -/
def nestLimit : Nat := 250

inductive Cause where
  | classEscape
  | classRangeOrder
  | classRangeBound
  | classUnclosed
  | decimalTooLarge
  | hexEmpty
  | hexNoCharacter
  | hexDigit
  | escapeUnfinished
  | escapeUnknown
  | flagDangling
  | flagDuplicate
  | flagNegationRepeated
  | flagUnfinished
  | flagUnknown
  | nameDuplicate
  | nameEmpty
  | nameCharacter
  | nameUnclosed
  | groupUnclosed
  | groupUnopened
  | nestedTooDeep
  | countOrder
  | countEmpty
  | countUnclosed
  | repetitionMissing
  | boundaryUnclosed
  | boundaryUnknown
  | boundaryUnfinished
  | propertyMalformed
  | backreference
  | lookAround
  | characterNotAllowed
  | characterTorn
  | propertyUnknown
  | propertyValueUnknown
  | shorthandUnknown
  | caseUnknown
  deriving DecidableEq, Repr, Inhabited

def Cause.message : Cause → String
  | .classEscape => "invalid escape sequence found in character class"
  | .classRangeOrder => "invalid character class range, the start must be <= the end"
  | .classRangeBound => "invalid range boundary, must be a literal"
  | .classUnclosed => "unclosed character class"
  | .decimalTooLarge => "decimal literal invalid"
  | .hexEmpty => "hexadecimal literal empty"
  | .hexNoCharacter => "hexadecimal literal is not a Unicode scalar value"
  | .hexDigit => "invalid hexadecimal digit"
  | .escapeUnfinished => "incomplete escape sequence, reached end of pattern prematurely"
  | .escapeUnknown => "unrecognized escape sequence"
  | .flagDangling => "dangling flag negation operator"
  | .flagDuplicate => "duplicate flag"
  | .flagNegationRepeated => "flag negation operator repeated"
  | .flagUnfinished => "expected flag but got end of regex"
  | .flagUnknown => "unrecognized flag"
  | .nameDuplicate => "duplicate capture group name"
  | .nameEmpty => "empty capture group name"
  | .nameCharacter => "invalid capture group character"
  | .nameUnclosed => "unclosed capture group name"
  | .groupUnclosed => "unclosed group"
  | .groupUnopened => "unopened group"
  | .nestedTooDeep => s!"exceed the maximum number of nested parentheses/brackets ({nestLimit})"
  | .countOrder => "invalid repetition count range, the start must be <= the end"
  | .countEmpty => "repetition quantifier expects a valid decimal"
  | .countUnclosed => "unclosed counted repetition"
  | .repetitionMissing => "repetition operator missing expression"
  | .boundaryUnclosed =>
    "special word boundary assertion is either unclosed or contains an invalid character"
  | .boundaryUnknown =>
    "unrecognized special word boundary assertion, " ++
      "valid choices are: start, end, start-half or end-half"
  | .boundaryUnfinished =>
    "found either the beginning of a special word boundary or a bounded repetition " ++
      "on a \\b with an opening brace, but no closing brace"
  | .propertyMalformed => "invalid Unicode character class"
  | .backreference => "backreferences are not supported"
  | .lookAround => "look-around, including look-ahead and look-behind, is not supported"
  | .characterNotAllowed => "Unicode not allowed here"
  | .characterTorn => "pattern can match invalid UTF-8"
  | .propertyUnknown => "Unicode property not found"
  | .propertyValueUnknown => "Unicode property value not found"
  | .shorthandUnknown =>
    "Unicode-aware Perl class not found (make sure the unicode-perl feature is enabled)"
  | .caseUnknown =>
    "Unicode-aware case insensitivity matching is not available " ++
      "(make sure the unicode-case feature is enabled)"

structure Fault where
  cause : Cause
  span : Span
  earlier : Option Span := none
  deriving DecidableEq, Repr, Inhabited

namespace Fault

def spans (fault : Fault) : List Span := fault.earlier.toList ++ [fault.span]

structure Stretch where
  startLine : Nat
  start : Nat
  stopLine : Nat
  stop : Nat
  deriving DecidableEq, Repr, Inhabited

def lineAndColumn (text : List Char) (position : Nat) : Nat × Nat :=
  let before := text.take position
  (before.count '\n', (before.reverse.takeWhile (· != '\n')).length)

def stretch (text : List Char) (span : Span) : Stretch :=
  let (startLine, start) := lineAndColumn text span.start
  let (stopLine, stop) := lineAndColumn text span.stop
  { startLine, start, stopLine, stop }

/-- The lines of a text without their ends. Nothing follows a line break that ends the text. -/
def linesOf (text : String) : List String :=
  let pieces := text.splitOn "\n"
  let ended := pieces.dropLast.map fun line =>
    if line.endsWith "\r" then (line.dropEnd 1).copy else line
  ended ++ (pieces.getLast?.toList.filter fun line => !line.isEmpty)

/-- Marks under the columns of the spans, of which the next one begins behind the last one. Even an
empty span has a mark. -/
def marks (spans : List (Nat × Nat)) : String :=
  spans.foldl (fun marked (start, stop) =>
    (marked.pushn ' ' (start - marked.length)).pushn '^' (max 1 (stop - start))) ""

/-- The lines of a pattern, each with the marks of the stretches that lie on it. Several lines are
numbered, to one width. -/
def markedLines (text : String) (stretches : List Stretch) : List String :=
  let lines := linesOf text
  let count := lines.length + if text.endsWith "\n" then 1 else 0
  let width := if count ≤ 1 then 0 else (toString count).length
  lines.zipIdx.flatMap fun (line, index) =>
    let number := toString (index + 1)
    let head := if width = 0 then "    " else "".pushn ' ' (width - number.length) ++ number ++ ": "
    let columns := stretches.filterMap fun stretch =>
      if stretch.startLine = index ∧ stretch.stopLine = index then
        some (stretch.start, stretch.stop)
      else none
    (head ++ line) ::
      if columns.isEmpty then [] else ["".pushn ' ' head.length ++ marks columns]

def Stretch.reach? (stretch : Stretch) : Option String :=
  if stretch.startLine = stretch.stopLine then none
  else
    some (s!"on line {stretch.startLine + 1} (column {stretch.start + 1}) " ++
      s!"through line {stretch.stopLine + 1} (column {stretch.stop})")

/-- The fault, shown in the text of the pattern. A text of several lines stands between rulers. -/
def report (text : String) (fault : Fault) : String :=
  let stretches := fault.spans.map (stretch text.toList)
  let lines := markedLines text stretches
  let ruler := "".pushn '~' 79
  let shown := if text.contains '\n' then
      [ruler] ++ lines ++ [ruler] ++ stretches.filterMap Stretch.reach?
    else lines
  "\n".intercalate (["regex parse error:"] ++ shown ++ ["error: " ++ fault.cause.message])

end Fault
end ConstraintTree.Pattern
