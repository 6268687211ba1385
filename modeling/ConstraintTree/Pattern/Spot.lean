namespace ConstraintTree.Pattern

structure Spot where
  before : Option Char
  behind : Option Char
  deriving DecidableEq, Repr, Inhabited

/-- Conditions on a place. Words consist of ASCII letters, digits and low lines. -/
inductive Look where
  | textStart
  | textEnd
  | lineStart
  | lineEnd
  /-- Lines may also end in a carriage return, alone or in front of the line feed. -/
  | crlfStart
  | crlfEnd
  | wordBoundary
  | noWordBoundary
  | wordStart
  | wordEnd
  | wordStartHalf
  | wordEndHalf
  /-- Any condition on words of all scripts. No table of their characters is kept, so an expression
  that has one is never searched for. -/
  | anyScript
  deriving DecidableEq, Repr, Inhabited

def Look.all : List Look :=
  [.textStart, .textEnd, .lineStart, .lineEnd, .crlfStart, .crlfEnd, .wordBoundary, .noWordBoundary,
    .wordStart, .wordEnd, .wordStartHalf, .wordEndHalf, .anyScript]

namespace Spot

def isWordChar (char : Char) : Bool := char.isAlphanum || char = '_'

def wordBefore (spot : Spot) : Bool := spot.before.any isWordChar

def wordBehind (spot : Spot) : Bool := spot.behind.any isWordChar

def satisfies (spot : Spot) : Look → Bool
  | .textStart => spot.before.isNone
  | .textEnd => spot.behind.isNone
  | .lineStart => spot.before.all (· = '\n')
  | .lineEnd => spot.behind.all (· = '\n')
  | .crlfStart =>
    spot.before.all fun char => char = '\n' || (char = '\r' && spot.behind != some '\n')
  | .crlfEnd =>
    spot.behind.all fun char => char = '\r' || (char = '\n' && spot.before != some '\r')
  | .wordBoundary => spot.wordBefore != spot.wordBehind
  | .noWordBoundary => spot.wordBefore == spot.wordBehind
  | .wordStart => !spot.wordBefore && spot.wordBehind
  | .wordEnd => spot.wordBefore && !spot.wordBehind
  | .wordStartHalf => !spot.wordBefore
  | .wordEndHalf => !spot.wordBehind
  | .anyScript => false

end Spot

end ConstraintTree.Pattern
