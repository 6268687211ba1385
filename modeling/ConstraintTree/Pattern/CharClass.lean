import ConstraintTree.Pattern.Tree
import ConstraintTree.Text.Runs

/-!
The characters that classes mean. Only bytes can be folded to both cases of their letters, so where
case is ignored a class of characters is refused, unless folding cannot change it.
-/
namespace ConstraintTree.Pattern

structure Modes where
  ignoreCase : Bool := false
  multiLine : Bool := false
  dotAll : Bool := false
  crlf : Bool := false
  /-- Repetitions take as little as they can, unless they are marked. -/
  swapGreed : Bool := false
  /-- Classes hold characters of all scripts, otherwise bytes. -/
  unicode : Bool := true
  deriving DecidableEq, Repr, Inhabited

namespace Modes

def change (modes : Modes) : Flag × Bool → Modes
  | (.ignoreCase, enabled) => { modes with ignoreCase := enabled }
  | (.multiLine, enabled) => { modes with multiLine := enabled }
  | (.dotAll, enabled) => { modes with dotAll := enabled }
  | (.crlf, enabled) => { modes with crlf := enabled }
  | (.unicode, enabled) => { modes with unicode := enabled }
  | (.swapGreed, enabled) => { modes with swapGreed := enabled }
  | (.verbose, _) => modes

def apply (modes : Modes) (changes : FlagChanges) : Modes := changes.foldl change modes

def last (modes : Modes) : Nat := if modes.unicode then 0x10ffff else 0xff

end Modes

/-- Code points, or bytes. -/
structure CharClass where
  /-- The members as runs in any order, which may overlap. -/
  scattered : List (Nat × Nat) := []
  /-- The class is known to hold both cases of its letters. -/
  folded : Bool := true
  deriving DecidableEq, Repr, Inhabited

namespace CharClass

def runs (members : CharClass) : Runs := Runs.ofList members.scattered

def isEmpty (members : CharClass) : Bool := members.scattered.isEmpty

def insert (members : CharClass) (first last : Nat) : CharClass :=
  { scattered := (first, last) :: members.scattered, folded := false }

/-- Of two equal classes the left one tells whether it is folded. -/
def union (left right : CharClass) : CharClass :=
  if right.isEmpty then left
  else {
    scattered := right.scattered ++ left.scattered
    folded := left.folded && (right.folded || !left.isEmpty && left.runs = right.runs) }

def intersection (left right : CharClass) : CharClass :=
  if left.isEmpty then left
  else if right.isEmpty then {}
  else {
    scattered := left.runs.intersection right.runs
    folded := left.folded && right.folded }

def difference (last : Nat) (left right : CharClass) : CharClass :=
  if left.isEmpty ∨ right.isEmpty then left
  else {
    scattered := left.runs.difference last right.runs
    folded := left.folded && right.folded }

def combine (last : Nat) (left right : CharClass) : SetOperation → CharClass
  | .intersection => left.intersection right
  | .difference => left.difference last right
  | .symmetricDifference => (left.union right).difference last (left.intersection right)

def negate (last : Nat) (members : CharClass) : CharClass :=
  if members.isEmpty then { scattered := [(0, last)] }
  else { members with scattered := members.runs.complement last }

def foldAscii (runs : Runs) : Runs :=
  let small := (runs.intersection [(0x41, 0x5a)]).map fun (first, last) => (first + 32, last + 32)
  let capital := (runs.intersection [(0x61, 0x7a)]).map fun (first, last) => (first - 32, last - 32)
  Runs.ofList (runs ++ small ++ capital)

def fold (modes : Modes) (span : Span) (members : CharClass) : Except Fault CharClass :=
  if !modes.ignoreCase ∨ members.folded then .ok members
  else if !modes.unicode then .ok { scattered := foldAscii members.runs }
  else if members.isEmpty then .ok {}
  else .error { cause := .caseUnknown, span }

def finish (modes : Modes) (span : Span) (negated : Bool) (members : CharClass) :
    Except Fault CharClass := do
  let folded ← members.fold modes span
  let final := if negated then folded.negate modes.last else folded
  if !modes.unicode ∧ !Runs.upTo 0x7f final.scattered then throw { cause := .characterTorn, span }
  return final

end CharClass

def NamedClass.runs : NamedClass → Runs
  | .alnum => [(0x30, 0x39), (0x41, 0x5a), (0x61, 0x7a)]
  | .alpha => [(0x41, 0x5a), (0x61, 0x7a)]
  | .ascii => [(0, 0x7f)]
  | .blank => [(0x9, 0x9), (0x20, 0x20)]
  | .cntrl => [(0, 0x1f), (0x7f, 0x7f)]
  | .digit => [(0x30, 0x39)]
  | .graph => [(0x21, 0x7e)]
  | .lower => [(0x61, 0x7a)]
  | .print => [(0x20, 0x7e)]
  | .punct => [(0x21, 0x2f), (0x3a, 0x40), (0x5b, 0x60), (0x7b, 0x7e)]
  | .space => [(0x9, 0xd), (0x20, 0x20)]
  | .upper => [(0x41, 0x5a)]
  | .word => [(0x30, 0x39), (0x41, 0x5a), (0x5f, 0x5f), (0x61, 0x7a)]
  | .xdigit => [(0x30, 0x39), (0x41, 0x46), (0x61, 0x66)]

def NamedClass.members (modes : Modes) (span : Span) (negated : Bool) (kind : NamedClass) :
    Except Fault CharClass :=
  CharClass.finish modes span negated
    { scattered := kind.runs, folded := false }

def Shorthand.asciiClass : Shorthand → NamedClass
  | .digit => .digit
  | .space => .space
  | .word => .word

/-- A shorthand, which is known for ASCII only and is not folded. -/
def Shorthand.members (modes : Modes) (span : Span) (negated : Bool) (kind : Shorthand) :
    Except Fault CharClass :=
  if modes.unicode then .error { cause := .shorthandUnknown, span }
  else
    CharClass.finish { modes with ignoreCase := false } span negated
      { scattered := kind.asciiClass.runs, folded := false }

/-- Names of properties are compared in small letters, without marks between their words and without
the word that some begin with. -/
def plainName (name : String) : List Char :=
  let chars := name.toList.map Char.toLower
  (if ['i', 's'].isPrefixOf chars then chars.drop 2 else chars).filter fun char =>
    char.toNat < 128 && char != ' ' && char != '_' && char != '-'

/-- No property is known. Names of a property alone that also abbreviate a category count as
categories. -/
def propertyFault (modes : Modes) (span : Span) (name : String) : Fault :=
  let categories := ["cf", "sc", "lc"].map String.toList
  if !modes.unicode then { cause := .characterNotAllowed, span }
  else if !name.contains ':' ∧ !name.contains '=' ∧ plainName name ∈ categories then
    { cause := .propertyValueUnknown, span }
  else { cause := .propertyUnknown, span }

def Literal.member (modes : Modes) (literal : Literal) : Except Fault Nat :=
  let point := literal.char.toNat
  if modes.unicode ∨ point ≤ 0x7f then .ok point
  else if literal.isByte then .error { cause := .characterTorn, span := literal.span }
  else .error { cause := .characterNotAllowed, span := literal.span }

mutual

def ClassSet.addTo (modes : Modes) (members : CharClass) : ClassSet → Except Fault CharClass
  | .empty _ => return members
  | .literal single => do
    let point ← single.member modes
    return members.insert point point
  | .range _ first last => do
    let first ← first.member modes
    let last ← last.member modes
    return members.insert first last
  | .named span kind negated => return members.union (← kind.members modes span negated)
  | .shorthand span kind negated => return members.union (← kind.members modes span negated)
  | .property span name => throw (propertyFault modes span name)
  | .bracketed span negated content => do
    let inner ← content.addTo modes {}
    return members.union (← inner.finish modes span negated)
  | .union _ items => ClassSet.addAllTo modes members items
  | .operation _ sort left right => do
    let leftMembers ← left.addTo modes {}
    let rightMembers ← right.addTo modes {}
    let rightMembers ← rightMembers.fold modes right.span
    let leftMembers ← leftMembers.fold modes left.span
    return members.union (leftMembers.combine modes.last rightMembers sort)

def ClassSet.addAllTo (modes : Modes) (members : CharClass) :
    List ClassSet → Except Fault CharClass
  | [] => return members
  | item :: rest => do ClassSet.addAllTo modes (← item.addTo modes members) rest

end

end ConstraintTree.Pattern
