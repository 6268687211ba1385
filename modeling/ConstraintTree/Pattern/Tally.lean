namespace ConstraintTree.Pattern

/-- Most bytes that a machine may take. -/
def sizeLimit : Nat := 10485760

/-- What a machine has so far. States are numbered from zero in the order in which they are added. -/
structure Tally where
  states : Nat := 0
  /-- Bytes for the ways out of the states. -/
  ways : Nat := 0
  deriving DecidableEq, Repr, Inhabited

namespace Tally

def stateSize : Nat := 32

def freeWay : Nat := 4

/-- Bytes for a way out of a state that tells bytes apart. -/
def byteWay : Nat := 8

def bytes (tally : Tally) : Nat := stateSize * tally.states + tally.ways

def isFull (tally : Tally) : Bool := sizeLimit < tally.bytes

def add (tally : Tally) (states : Nat) (ways : Nat := 0) : Tally :=
  { states := tally.states + states, ways := tally.ways + ways }

def fork (tally : Tally) : Tally := tally.add 1 (2 * freeWay)

/-- Adds the same part several times. Nothing more is added to a machine that is full. -/
def repeatedly (step : Tally → Tally) : Nat → Tally → Tally
  | 0, tally => tally
  | count + 1, tally => if tally.isFull then tally else repeatedly step count (step tally)

end Tally
end ConstraintTree.Pattern
