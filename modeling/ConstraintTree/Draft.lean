import ConstraintTree.Rendering

/-!
Drafts collect the parts of a tree in any order. A draft can be turned into a tree at any time, gaps
included, or strictly, when nothing that the node itself requires is missing.
-/
namespace ConstraintTree

structure BetweenDraft where
  test : Option Expr := none
  lower : Option Expr := none
  upper : Option Expr := none
  negated : Bool := false
  deriving Repr, Inhabited

namespace BetweenDraft

/-- One way to change a draft. A part that is set again is replaced. -/
inductive Edit where
  | test (operand : Expr)
  | lower (operand : Expr)
  | upper (operand : Expr)
  | negated (value : Bool)
  deriving Repr, Inhabited

def apply (draft : BetweenDraft) : Edit → BetweenDraft
  | .test operand => { draft with test := some operand }
  | .lower operand => { draft with lower := some operand }
  | .upper operand => { draft with upper := some operand }
  | .negated value => { draft with negated := value }

def build (draft : BetweenDraft) : Expr :=
  .between draft.test draft.lower draft.upper draft.negated

/-- The operands that were never set, in the order of the text. -/
def missing (draft : BetweenDraft) : List Gap :=
  (if draft.test.isNone then [.betweenTest] else []) ++
    (if draft.lower.isNone then [.betweenBegin] else []) ++
    (if draft.upper.isNone then [.betweenEnd] else [])

def buildStrict (draft : BetweenDraft) : Except TreeError Expr :=
  TreeError.unlessMissing draft.missing draft.build

end BetweenDraft

structure QuantificationDraft where
  quantifier : Quantifier
  bound : Option String := none
  condition : Option Predicate := none
  deriving Repr, Inhabited

namespace QuantificationDraft

inductive Edit where
  | bound (name : String)
  | condition (body : Predicate)
  deriving Repr, Inhabited

def apply (draft : QuantificationDraft) : Edit → QuantificationDraft
  | .bound name => { draft with bound := some name }
  | .condition body => { draft with condition := some body }

def build (draft : QuantificationDraft) : Predicate :=
  .quantification draft.quantifier draft.bound draft.condition

/-- The parts that were never set, in the order of the text. -/
def missing (draft : QuantificationDraft) : List Gap :=
  (if draft.bound.isNone then [.quantifiedVariable] else []) ++
    (if draft.condition.isNone then [.quantifiedCondition] else [])

def buildStrict (draft : QuantificationDraft) : Except TreeError Predicate :=
  TreeError.unlessMissing draft.missing draft.build

end QuantificationDraft

structure DimArrayDraft where
  elements : List DimElement := []
  deriving DecidableEq, Repr, Inhabited

namespace DimArrayDraft

def add (draft : DimArrayDraft) (more : List DimElement) : DimArrayDraft :=
  { elements := draft.elements ++ more }

def build (draft : DimArrayDraft) : Expr := .dimArray draft.elements

/-- An empty array lacks its elements; otherwise every element with a number that SQL cannot spell
is one gap. -/
def missing (draft : DimArrayDraft) : List Gap :=
  if draft.elements.isEmpty then [.dimArrayElements]
  else (draft.elements.filter (!·.isFinite)).map fun _ => .finiteNumber

def buildStrict (draft : DimArrayDraft) : Except TreeError Expr :=
  TreeError.unlessMissing draft.missing draft.build

end DimArrayDraft

/-- A complete array of dimensions, or the gaps of the one that the elements would make. -/
def Expr.dimArrayStrict (elements : List DimElement) : Except TreeError Expr :=
  (DimArrayDraft.add {} elements).buildStrict

end ConstraintTree
