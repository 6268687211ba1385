import ConstraintTree.Pattern.Tree
import ConstraintTree.Text.Runs
import Std.Data.HashMap

namespace ConstraintTree.Pattern

structure Cursor where
  position : Nat := 0
  rest : List Char
  /-- Number of characters of the whole pattern, and so of steps that reading can take. -/
  length : Nat
  verbose : Bool := false
  names : Std.HashMap String Span := {}

namespace Cursor

def ofText (text : String) : Cursor := { rest := text.toList, length := text.length }

def forward (cursor : Cursor) (count : Nat) : Cursor :=
  { cursor with position := cursor.position + count, rest := cursor.rest.drop count }

/-- Number of characters in blanks and comments, of which some have been counted. A comment runs to
the end of its line. -/
def blankLength (counted : Nat) (inComment : Bool) : List Char → Nat
  | [] => counted
  | char :: rest =>
    if inComment then blankLength (counted + 1) (char != '\n') rest
    else if char = '#' then blankLength (counted + 1) true rest
    else if Blank.contains char then blankLength (counted + 1) false rest
    else counted

def skipBlank (cursor : Cursor) : Cursor :=
  if cursor.verbose then cursor.forward (blankLength 0 false cursor.rest) else cursor

/-- Passes over a character and what is blank behind it. -/
def step (cursor : Cursor) : Cursor := (cursor.forward 1).skipBlank

def here (cursor : Cursor) : Span := ⟨cursor.position, cursor.position⟩

def char (cursor : Cursor) : Span := ⟨cursor.position, cursor.position + 1⟩

def since (cursor : Cursor) (start : Nat) : Span := ⟨start, cursor.position⟩

/-- The first character that is neither blank nor the mark of a comment. -/
def solid? (marked : Bool) : List Char → Option Char
  | [] => none
  | char :: rest =>
    if Blank.contains char then solid? marked rest
    else if char = '#' ∧ !marked then solid? true rest
    else some char

def second? (cursor : Cursor) : Option Char :=
  let behind := cursor.rest.tail
  if cursor.verbose then (solid? false behind).or behind.head? else behind.head?

/-- The accepted characters from the cursor on, at most so many, with what is blank behind each,
after those that have been taken, of which the last one comes first. -/
def collect (accepts : Char → Bool) (taken : List Char) (cursor : Cursor) :
    Nat → List Char × Cursor
  | 0 => (taken.reverse, cursor)
  | count + 1 =>
    match cursor.rest with
    | [] => (taken.reverse, cursor)
    | char :: _ =>
      if accepts char then collect accepts (char :: taken) cursor.step count
      else (taken.reverse, cursor)

end Cursor

abbrev Reading := StateT Cursor (Except Fault)

namespace Reading

def fail (cause : Cause) (span : Span) : Reading α := throw { cause, span }

def next? : Reading (Option Char) := return (← get).rest.head?

def length : Reading Nat := return (← get).length

def position : Reading Nat := return (← get).position

def here : Reading Span := return (← get).here

def char : Reading Span := return (← get).char

def since (start : Nat) : Reading Span := return (← get).since start

def forward (count : Nat) : Reading Unit := modify fun cursor => cursor.forward count

def step : Reading Unit := modify Cursor.step

def skipBlank : Reading Unit := modify Cursor.skipBlank

/-- Passes over blanks also where they count. -/
def skipPlainBlank : Reading Unit :=
  modify fun cursor => cursor.forward (cursor.rest.takeWhile Blank.contains).length

def collect (accepts : Char → Bool) : Reading (List Char) := do
  let cursor ← get
  let (chars, after) := cursor.collect accepts [] cursor.length
  set after
  return chars

def accept (text : String) : Reading Bool := do
  if text.toList.isPrefixOf (← get).rest then
    forward text.length
    return true
  else return false

end Reading
end ConstraintTree.Pattern
