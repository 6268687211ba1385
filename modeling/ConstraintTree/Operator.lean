namespace ConstraintTree

abbrev Precedence := Nat

namespace Precedence

def disjunction : Precedence := 1
def conjunction : Precedence := 2
def negation : Precedence := 3
/-- Comparisons, ranges, membership and null tests. None of them can be chained. -/
def comparison : Precedence := 4
def additive : Precedence := 5
def multiplicative : Precedence := 6
def sign : Precedence := 7
/-- Leaves, calls and constructors, which never need parentheses. -/
def atom : Precedence := 255

end Precedence

inductive BinaryOp where
  | add | sub | mul | div | mod
  | eq | ne | lt | le | gt | ge
  | and | or
  | concat | like
  deriving DecidableEq, Repr, Inhabited

namespace BinaryOp

def precedence : BinaryOp → Precedence
  | .or => .disjunction
  | .and => .conjunction
  | .eq | .ne | .lt | .le | .gt | .ge | .like => .comparison
  | .add | .sub | .concat => .additive
  | .mul | .div | .mod => .multiplicative

/-- A comparison takes no other comparison as an operand without parentheses. -/
def isComparison (op : BinaryOp) : Bool := op.precedence == Precedence.comparison

/-- Loosest left operand that stands without parentheses: operators associate to the left, and
comparisons not at all. -/
def leftMinimum (op : BinaryOp) : Precedence :=
  if op.isComparison then op.precedence + 1 else op.precedence

def rightMinimum (op : BinaryOp) : Precedence := op.precedence + 1

end BinaryOp

inductive UnaryOp where
  | not
  | minus
  /-- Null tests stand after their operand. -/
  | isNull
  | isNotNull
  deriving DecidableEq, Repr, Inhabited

namespace UnaryOp

def precedence : UnaryOp → Precedence
  | .not => .negation
  | .minus => .sign
  | .isNull | .isNotNull => .comparison

/-- Loosest operand that stands without parentheses. Operators in front of their operand nest, and
null tests do not chain. -/
def operandMinimum : UnaryOp → Precedence
  | .not => .negation
  | .minus => .sign
  | .isNull | .isNotNull => Precedence.comparison + 1

end UnaryOp

inductive Quantifier where
  | universal
  | existential
  deriving DecidableEq, Repr, Inhabited

/-- The connectives that join any number of predicates. -/
inductive Junction where
  | and
  | or
  deriving DecidableEq, Repr, Inhabited

end ConstraintTree
