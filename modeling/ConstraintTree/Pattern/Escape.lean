import ConstraintTree.Pattern.Cursor

namespace ConstraintTree.Pattern

inductive Atom where
  | literal (literal : Literal)
  | dot (span : Span)
  | assertion (span : Span) (kind : Assertion)
  | property (span : Span) (name : String)
  | shorthand (span : Span) (kind : Shorthand) (negated : Bool)
  deriving Repr, Inhabited

namespace Atom

def span : Atom → Span
  | .literal single => single.span
  | .dot span | .assertion span _ | .property span _ | .shorthand span .. => span

def toTree : Atom → Tree
  | .literal single => .literal single
  | .dot span => .dot span
  | .assertion span kind => .assertion span kind
  | .property span name => .property span name
  | .shorthand span kind negated => .shorthand span kind negated

def toItem : Atom → Reading ClassSet
  | .literal single => return .literal single
  | .property span name => return .property span name
  | .shorthand span kind negated => return .shorthand span kind negated
  | atom => Reading.fail .classEscape atom.span

def toBound : Atom → Reading Literal
  | .literal single => return single
  | atom => Reading.fail .classRangeBound atom.span

end Atom

namespace Escape

open Reading

def hexDigit? (char : Char) : Option Nat :=
  if '0' ≤ char ∧ char ≤ '9' then some (char.toNat - '0'.toNat)
  else if 'a' ≤ char ∧ char ≤ 'f' then some (char.toNat - 'a'.toNat + 10)
  else if 'A' ≤ char ∧ char ≤ 'F' then some (char.toNat - 'A'.toNat + 10)
  else none

/-- The character whose code point the digits give, if there is one. Numbers behind the last code
point are not told apart. -/
def character? (digits : List Nat) : Option Char :=
  let point := digits.foldl (fun value digit => min 0x110000 (value * 16 + digit)) 0
  if point.isValidChar then some (Char.ofNat point) else none

def readDigits : Nat → Reading (List Nat)
  | 0 => return []
  | count + 1 => do
    match ← next? with
    | none => fail .escapeUnfinished (← here)
    | some char =>
      match hexDigit? char with
      | none => fail .hexDigit (← Reading.char)
      | some digit =>
        step
        return digit :: (← readDigits count)

def readFixedHex (start count : Nat) : Reading Atom := do
  let first ← position
  let digits ← readDigits count
  match character? digits with
  | none => fail .hexNoCharacter (← since first)
  | some char => return .literal { span := ← since start, char, isByte := count = 2 }

def readBracedHex (start : Nat) : Reading Atom := do
  let brace ← position
  step
  let digits := (← collect fun char => (hexDigit? char).isSome).filterMap hexDigit?
  match ← next? with
  | none => fail .escapeUnfinished (← since brace)
  | some '\x7d' =>
    let digitsEnd ← position
    step
    if digits.isEmpty then fail .hexEmpty (← since brace)
    match character? digits with
    | none => fail .hexNoCharacter ⟨brace + 1, digitsEnd⟩
    | some char => return .literal { span := ← since start, char }
  | some _ => fail .hexDigit (← Reading.char)

/-- Reads a character by its code point, from the letter on that tells how many digits it has. -/
def readHex (start count : Nat) : Reading Atom := do
  step
  match ← next? with
  | none => fail .escapeUnfinished (← here)
  | some '\x7b' => readBracedHex start
  | some _ => readFixedHex start count

def readProperty (start : Nat) : Reading Atom := do
  step
  match ← next? with
  | none => fail .escapeUnfinished (← here)
  | some '\x7b' =>
    step
    let name ← collect (· != '\x7d')
    if (← next?).isNone then fail .escapeUnfinished (← here)
    forward 1
    return .property (← since start) (String.ofList name)
  | some '\\' => fail .propertyMalformed (← Reading.char)
  | some letter =>
    step
    return .property (← since start) letter.toString

def isBoundaryLetter (char : Char) : Bool := char.isAlpha || char = '-'

def boundaries : List (String × Assertion) :=
  [("start", .wordStart), ("end", .wordEnd), ("start-half", .wordStartHalf),
    ("end-half", .wordEndHalf)]

/-- Reads the name of a boundary in braces behind the letter of word boundaries. Braces without a
name are left for a repetition. -/
def readBoundary? (start : Nat) : Reading (Option Assertion) := do
  let before ← get
  step
  match ← next? with
  | none => fail .boundaryUnfinished (← since start)
  | some first =>
    if !isBoundaryLetter first then
      set before
      return none
    let nameStart ← position
    let name ← collect isBoundaryLetter
    if (← next?) != some '\x7d' then fail .boundaryUnclosed (← since before.position)
    let nameSpan ← since nameStart
    forward 1
    match boundaries.lookup (String.ofList name) with
    | some kind => return some kind
    | none => fail .boundaryUnknown nameSpan

def readWordBoundary (start : Nat) : Reading Atom := do
  if (← next?) = some '\x7b' then
    match ← readBoundary? start with
    | some kind => return .assertion (← since start) kind
    | none => pure ()
  return .assertion (← since start) .wordBoundary

/-- Punctuation, blanks and controls of ASCII may have a backslash in front. -/
def standsForItself (char : Char) : Bool :=
  char.toNat < 128 && !char.isAlphanum && char != '<' && char != '>'

def control? : Char → Option Char
  | 'a' => some '\x07'
  | 'f' => some '\x0c'
  | 't' => some '\t'
  | 'n' => some '\n'
  | 'r' => some '\r'
  | 'v' => some '\x0b'
  | _ => none

def assertion? : Char → Option Assertion
  | 'A' => some .textStart
  | 'z' => some .textEnd
  | 'B' => some .noWordBoundary
  | '<' => some .wordStart
  | '>' => some .wordEnd
  | _ => none

def readSingle (start : Nat) (char : Char) : Reading Atom := do
  forward 1
  let span ← since start
  if standsForItself char then return .literal { span, char }
  if char = 'b' then return ← readWordBoundary start
  match control? char, assertion? char with
  | some char, _ => return .literal { span, char }
  | none, some kind => return .assertion span kind
  | none, none => fail .escapeUnknown span

def shorthand? : Char → Option (Shorthand × Bool)
  | 'd' => some (.digit, false)
  | 's' => some (.space, false)
  | 'w' => some (.word, false)
  | 'D' => some (.digit, true)
  | 'S' => some (.space, true)
  | 'W' => some (.word, true)
  | _ => none

def read : Reading Atom := do
  let start ← position
  forward 1
  match ← next? with
  | none => fail .escapeUnfinished (← since start)
  | some char =>
    if char.isDigit then fail .backreference ⟨start, start + 2⟩
    match char with
    | 'x' => readHex start 2
    | 'u' => readHex start 4
    | 'U' => readHex start 8
    | 'p' | 'P' => readProperty start
    | _ =>
      match shorthand? char with
      | some (kind, negated) =>
        forward 1
        return .shorthand (← since start) kind negated
      | none => readSingle start char

end Escape
end ConstraintTree.Pattern
