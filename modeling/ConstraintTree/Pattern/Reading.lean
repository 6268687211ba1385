import ConstraintTree.Pattern.Bracket
import ConstraintTree.Text.Alphabet

namespace ConstraintTree.Pattern

/-- An alternation whose last branch is still being read. -/
structure OpenBranches where
  start : Nat
  /-- Finished branches, the last one first. -/
  finished : List Tree := []
  branchStart : Nat
  /-- The items of the open branch, the last one first. -/
  items : List Tree := []
  deriving Repr, Inhabited

namespace OpenBranches

def startingAt (position : Nat) : OpenBranches := { start := position, branchStart := position }

def push (branches : OpenBranches) (item : Tree) : OpenBranches :=
  { branches with items := item :: branches.items }

def branch (branches : OpenBranches) (position : Nat) : Tree :=
  match branches.items.reverse with
  | [] => .empty ⟨branches.branchStart, position⟩
  | [item] => item
  | items => .sequence ⟨branches.branchStart, position⟩ items

def bar (branches : OpenBranches) (position : Nat) : OpenBranches :=
  { branches with
    finished := branches.branch position :: branches.finished
    branchStart := position + 1
    items := [] }

def close (branches : OpenBranches) (position : Nat) : Tree :=
  match branches.finished with
  | [] => branches.branch position
  | finished =>
    .alternation ⟨branches.start, position⟩ (finished.reverse ++ [branches.branch position])

end OpenBranches

structure OpenGroup where
  span : Span
  captures : Bool
  changes : FlagChanges
  /-- What lies around the group, and whether the pattern is verbose there. -/
  outer : OpenBranches
  verbose : Bool
  deriving Repr, Inhabited

/-- A pattern that is being read: the innermost branches, and the groups around them. -/
structure Nesting where
  branches : OpenBranches
  groups : List OpenGroup := []
  deriving Repr, Inhabited

namespace Nesting

open Reading

def push (nesting : Nesting) (item : Tree) : Nesting :=
  { nesting with branches := nesting.branches.push item }

/-- The letters of a flag group: switches, and the mark that turns the later ones off. -/
structure FlagList where
  changes : FlagChanges := []
  /-- Each letter and mark, and where it stands. -/
  seen : List (Option Flag × Span) := []
  dangling : Option Span := none
  deriving Repr, Inhabited

/-- Takes one letter or mark, none of which comes twice. -/
def FlagList.add (list : FlagList) (flag : Option Flag) (span : Span) : Except Fault FlagList :=
  match list.seen.lookup flag with
  | some earlier =>
    let cause : Cause := if flag.isNone then .flagNegationRepeated else .flagDuplicate
    .error { cause, span, earlier := some earlier }
  | none =>
    let enabled := (list.seen.lookup none).isNone
    .ok {
      changes := list.changes ++ (flag.map fun flag => (flag, enabled)).toList
      seen := (flag, span) :: list.seen
      dangling := if flag.isNone then some span else none }

/-- Reads flags up to a colon or a closing parenthesis, which is left. -/
def readFlags : FlagList → Nat → Reading FlagChanges
  | _, 0 => do fail .flagUnfinished (← here)
  | list, count + 1 => do
    match ← next? with
    | none => fail .flagUnfinished (← here)
    | some ':' | some ')' =>
      match list.dangling with
      | some span => fail .flagDangling span
      | none => return list.changes
    | some char =>
      let span ← Reading.char
      let flag ← match char, Flag.ofChar? char with
        | '-', _ => pure none
        | _, some flag => pure (some flag)
        | _, none => fail .flagUnknown span
      let list ← list.add flag span
      forward 1
      readFlags list count

/-- Names begin with a letter or a low line. -/
def isNameStart (char : Char) : Bool := char = '_' || Alphabet.isLetter char

def isNamePart (char : Char) : Bool :=
  isNameStart char || char = '.' || char = '[' || char = ']' || Alphabet.isNumeral char

def nameLength : List Char → Nat
  | [] => 0
  | first :: rest => if isNameStart first then 1 + (rest.takeWhile isNamePart).length else 0

def readName : Reading Unit := do
  let cursor ← get
  let length := nameLength cursor.rest
  let name := String.ofList (cursor.rest.take length)
  forward length
  let span ← since cursor.position
  match ← next? with
  | none => fail .nameUnclosed (← here)
  | some '>' =>
    if length = 0 then fail .nameEmpty span
    match cursor.names.get? name with
    | some earlier => throw { cause := .nameDuplicate, span, earlier := some earlier }
    | none =>
      forward 1
      modify fun cursor => { cursor with names := cursor.names.insert name span }
  | some _ => fail .nameCharacter (← Reading.char)

def applyVerbose (changes : FlagChanges) : Reading Unit :=
  modify fun cursor =>
    { cursor with verbose := (changes.lookup .verbose).getD cursor.verbose }

def enter (nesting : Nesting) (span : Span) (captures : Bool) (changes : FlagChanges) :
    Reading Nesting := do
  let verbose := (← get).verbose
  applyVerbose changes
  let branches := OpenBranches.startingAt (← position)
  return ⟨branches, ⟨span, captures, changes, nesting.branches, verbose⟩ :: nesting.groups⟩

/-- Reads what begins with a parenthesis and a question mark: flags for the rest of the group
around, or a group that captures nothing. -/
def readFlagGroup (nesting : Nesting) (span mark : Span) : Reading Nesting := do
  if (← next?).isNone then fail .groupUnclosed span
  let changes ← readFlags {} ((← length) + 1)
  if (← next?) = some ')' then
    forward 1
    if changes.isEmpty then fail .repetitionMissing mark
    applyVerbose changes
    return nesting.push (.flags (← since span.start) changes)
  else
    forward 1
    nesting.enter span false changes

def readGroupStart (nesting : Nesting) : Reading Nesting := do
  let span ← Reading.char
  step
  let mark ← here
  for sign in ["?=", "?!", "?<=", "?<!"] do
    if ← accept sign then fail .lookAround (← since span.start)
  let named ← if ← accept "?P<" then pure true else accept "?<"
  if named then
    if (← next?).isNone then fail .nameUnclosed (← here)
    readName
    nesting.enter span true []
  else if ← accept "?" then nesting.readFlagGroup span mark
  else nesting.enter span true []

def readGroupEnd (nesting : Nesting) : Reading Nesting := do
  match nesting.groups with
  | [] => fail .groupUnopened (← Reading.char)
  | group :: groups =>
    let body := nesting.branches.close (← position)
    modify fun cursor => { cursor with verbose := group.verbose }
    forward 1
    let item := .group (← since group.span.start) group.captures group.changes body
    return ⟨group.outer.push item, groups⟩

def readBar (nesting : Nesting) : Reading Nesting := do
  let branches := nesting.branches.bar (← position)
  forward 1
  return { nesting with branches }

/-- The item that a repetition applies to, and the branches without it. -/
def repeatable (branches : OpenBranches) : Reading (Tree × OpenBranches) := do
  match branches.items with
  | [] | .flags .. :: _ => fail .repetitionMissing (← here)
  | item :: items => return (item, { branches with items })

def readMark : Reading Bool := do
  let marked := (← next?) = some '?'
  if marked then forward 1
  return marked

/-- Adds a repetition that ends at the cursor. -/
def pushRepetition (nesting : Nesting) (rest : OpenBranches) (item : Tree) (least : Nat)
    (most : Option Nat) (marked : Bool) : Reading Nesting := do
  let span ← since item.span.start
  return { nesting with branches := rest.push (.repetition span least most marked item) }

def readRepetition (nesting : Nesting) (least : Nat) (most : Option Nat) : Reading Nesting := do
  let (item, rest) ← repeatable nesting.branches
  forward 1
  let marked ← readMark
  nesting.pushRepetition rest item least most marked

def countLimit : Nat := 4294967296

/-- The number that decimal digits give, or the limit if it is not smaller. -/
def countOf (digits : List Char) : Nat :=
  digits.foldl (fun value digit => min countLimit (value * 10 + (digit.toNat - '0'.toNat))) 0

def readCount : Reading (Except Fault Nat) := do
  skipPlainBlank
  let start ← position
  let digits ← collect Char.isDigit
  let span ← since start
  skipPlainBlank
  let value := countOf digits
  if digits.isEmpty then return .error { cause := .countEmpty, span }
  else if value < countLimit then return .ok value
  else return .error { cause := .decimalTooLarge, span }

/-- Reads the bounds of a counted repetition, which stand behind a brace. -/
def readBounds (start : Nat) : Reading (Nat × Option Nat) := do
  let least ← readCount
  match ← next? with
  | none => fail .countUnclosed (← since start)
  | some ',' =>
    step
    match ← next? with
    | none => fail .countUnclosed (← since start)
    | some '\x7d' => return (← least, none)
    | some _ =>
      let least ← least
      let most ← ← readCount
      return (least, some most)
  | some _ =>
    let count ← least
    return (count, some count)

def readCounted (nesting : Nesting) : Reading Nesting := do
  let (item, rest) ← repeatable nesting.branches
  let start ← position
  step
  if (← next?).isNone then fail .countUnclosed (← since start)
  let (least, most) ← readBounds start
  if (← next?) != some '\x7d' then fail .countUnclosed (← since start)
  step
  let marked ← readMark
  if most.any (· < least) then fail .countOrder (← since start)
  nesting.pushRepetition rest item least most marked

/-- Reads one part, which takes at least one character. -/
def readPart (nesting : Nesting) (char : Char) : Reading Nesting := do
  match char with
  | '(' => nesting.readGroupStart
  | ')' => nesting.readGroupEnd
  | '|' => nesting.readBar
  | '[' => return nesting.push (← Bracket.read)
  | '?' => nesting.readRepetition 0 (some 1)
  | '*' => nesting.readRepetition 0 none
  | '+' => nesting.readRepetition 1 none
  | '\x7b' => nesting.readCounted
  | '\\' => return nesting.push (← Escape.read).toTree
  | _ =>
    let span ← Reading.char
    forward 1
    return nesting.push <| match char with
      | '.' => .dot span
      | '^' => .assertion span .lineStart
      | '$' => .assertion span .lineEnd
      | _ => .literal { span, char }

def readFrom : Nat → Nesting → Reading Tree
  | 0, nesting => return nesting.branches.close (← position)
  | count + 1, nesting => do
    skipBlank
    match ← next? with
    | some char => readFrom count (← nesting.readPart char)
    | none =>
      match nesting.groups with
      | [] => return nesting.branches.close (← position)
      | group :: _ => fail .groupUnclosed group.span

end Nesting

/-- Reads a pattern and refuses one that is nested too deep. -/
def Tree.ofText (text : String) : Except Fault Tree := do
  let start : Nesting := { branches := .startingAt 0 }
  let (tree, _) ← (start.readFrom (text.length + 1)).run (.ofText text)
  match tree.beyond nestLimit with
  | some span => throw { cause := .nestedTooDeep, span }
  | none => return tree

end ConstraintTree.Pattern
