import ConstraintTree.Pattern.Escape

namespace ConstraintTree.Pattern

structure OpenClass where
  span : Span
  negated : Bool
  /-- The operand in front of the last operator. -/
  left : Option (ClassSet × SetOperation) := none
  start : Nat
  /-- These items, the last one first. -/
  items : List ClassSet
  deriving Repr, Inhabited

namespace OpenClass

def push (level : OpenClass) (item : ClassSet) : OpenClass :=
  { level with items := item :: level.items }

def right (level : OpenClass) : ClassSet :=
  match level.items.reverse with
  | [] => .empty ⟨level.start, level.start⟩
  | [item] => item
  | first :: rest =>
    let last := rest.getLastD first
    .union ⟨first.span.start, last.span.stop⟩ (first :: rest)

/-- All that has been read. Operators group to the left. -/
def content (level : OpenClass) : ClassSet :=
  match level.left with
  | none => level.right
  | some (left, operation) =>
    .operation ⟨left.span.start, level.right.span.stop⟩ operation left level.right

def operate (level : OpenClass) (operation : SetOperation) (position : Nat) : OpenClass :=
  { level with left := some (level.content, operation), start := position, items := [] }

end OpenClass

namespace Bracket

open Reading

/-- Reads hyphens that stand for themselves at the beginning of a class, after those that have been
read. The last one comes first. -/
def readHyphens (start : Nat) (hyphens : List ClassSet) : Nat → Reading (List ClassSet)
  | 0 => return hyphens
  | count + 1 => do
    if (← next?) = some '-' then
      let span ← Reading.char
      step
      if (← next?).isNone then fail .classUnclosed ⟨start, start⟩
      readHyphens start (.literal { span, char := '-' } :: hyphens) count
    else return hyphens

/-- Reads an opening bracket and what belongs to it: a circumflex that negates the class, hyphens,
and a closing bracket that stands for itself because nothing else does. -/
def readStart : Reading OpenClass := do
  let start ← position
  step
  if (← next?).isNone then fail .classUnclosed (← since start)
  let negated := (← next?) = some '^'
  if negated then
    step
    if (← next?).isNone then fail .classUnclosed (← since start)
  let itemStart ← position
  let hyphens ← readHyphens start [] (← length)
  let level : OpenClass :=
    { span := ← since start, negated, start := itemStart, items := hyphens }
  if hyphens.isEmpty ∧ (← next?) = some ']' then
    let span ← Reading.char
    step
    if (← next?).isNone then fail .classUnclosed (← since start)
    return { level.push (.literal { span, char := ']' }) with span := ← since start }
  else return level

/-- Takes a class that is named between colons, if the brackets hold such a name. -/
def named? (cursor : Cursor) : Option (ClassSet × Cursor) :=
  match cursor.rest with
  | '[' :: ':' :: rest =>
    let negated := rest.head? = some '^'
    let content := if negated then rest.tail else rest
    let name := content.takeWhile (· != ':')
    match NamedClass.names.lookup (String.ofList name), content.drop name.length with
    | some kind, ':' :: ']' :: _ =>
      let after := cursor.forward (name.length + if negated then 5 else 4)
      some (.named (after.since cursor.position) kind negated, after)
    | _, _ => none
  | _ => none

def readAtom : Reading Atom := do
  match ← next? with
  | some '\\' => Escape.read
  | some char =>
    let span ← Reading.char
    forward 1
    return .literal { span, char }
  | none => fail .classUnclosed (← here)

/-- Reads an item or a range between two items. A hyphen in front of a closing bracket or of another
hyphen makes no range. -/
def readItem (level : OpenClass) : Reading ClassSet := do
  let first ← readAtom
  skipBlank
  if (← next?).isNone then fail .classUnclosed level.span
  let behind := (← get).second?
  if (← next?) != some '-' ∨ behind = some ']' ∨ behind = some '-' then return ← first.toItem
  step
  if (← next?).isNone then fail .classUnclosed level.span
  let last ← readAtom
  let span : Span := ⟨first.span.start, last.span.stop⟩
  let first ← first.toBound
  let last ← last.toBound
  if last.char < first.char then fail .classRangeOrder span
  return .range span first last

def readFrom : Nat → OpenClass → List OpenClass → Reading Tree
  | 0, level, _ => fail .classUnclosed level.span
  | count + 1, level, outer => do
    skipBlank
    match (← get).rest with
    | [] => fail .classUnclosed level.span
    | '[' :: _ =>
      match named? (← get) with
      | some (item, after) =>
        set after
        readFrom count (level.push item) outer
      | none => readFrom count (← readStart) (level :: outer)
    | ']' :: _ =>
      forward 1
      let span ← since level.span.start
      match outer with
      | [] => return .bracketed span level.negated level.content
      | parent :: further =>
        readFrom count (parent.push (.bracketed span level.negated level.content)) further
    | '&' :: '&' :: _ =>
      forward 2
      readFrom count (level.operate .intersection (← position)) outer
    | '-' :: '-' :: _ =>
      forward 2
      readFrom count (level.operate .difference (← position)) outer
    | '~' :: '~' :: _ =>
      forward 2
      readFrom count (level.operate .symmetricDifference (← position)) outer
    | _ => readFrom count (level.push (← readItem level)) outer

/-- Reads a class from its opening bracket on. Each step takes at least one character. -/
def read : Reading Tree := do
  let count ← length
  readFrom count (← readStart) []

end Bracket
end ConstraintTree.Pattern
