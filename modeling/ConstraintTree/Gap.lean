/-!
A gap is a required part of a tree that was never supplied, or was supplied in a form that text
cannot spell. Rendering writes the gap's placeholder in its place.
-/
namespace ConstraintTree

inductive Gap where
  | betweenTest
  | betweenBegin
  | betweenEnd
  | dimArrayElements
  | inListItems
  | quantifiedVariable
  | quantifiedCondition
  | connectiveOperands
  /-- An infinity or not-a-number in a numeric literal or a dimension. -/
  | finiteNumber
  deriving DecidableEq, Repr, Inhabited

namespace Gap

def all : List Gap :=
  [.betweenTest, .betweenBegin, .betweenEnd, .dimArrayElements, .inListItems,
    .quantifiedVariable, .quantifiedCondition, .connectiveOperands, .finiteNumber]

/-- Written where the missing part would stand. -/
def placeholder : Gap → String
  | .betweenTest => "<test expression is null>"
  | .betweenBegin => "<begin expression is null>"
  | .betweenEnd => "<end expression is null>"
  | .dimArrayElements => "<elements are empty>"
  | .inListItems => "<list is empty>"
  | .quantifiedVariable => "<variable is null>"
  | .quantifiedCondition => "<condition is null>"
  | .connectiveOperands => "<operands are empty>"
  | .finiteNumber => "<number is not finite>"

def description : Gap → String
  | .betweenTest => "BETWEEN test expression"
  | .betweenBegin => "BETWEEN lower bound"
  | .betweenEnd => "BETWEEN upper bound"
  | .dimArrayElements => "SDO_DIM_ARRAY elements"
  | .inListItems => "IN list items"
  | .quantifiedVariable => "quantified variable"
  | .quantifiedCondition => "quantification condition"
  | .connectiveOperands => "connective operands"
  | .finiteNumber => "finite numeric value"

/-- Used in log records. -/
def name : Gap → String
  | .betweenTest => "BetweenTest"
  | .betweenBegin => "BetweenBegin"
  | .betweenEnd => "BetweenEnd"
  | .dimArrayElements => "DimArrayElements"
  | .inListItems => "InListItems"
  | .quantifiedVariable => "QuantifiedVariable"
  | .quantifiedCondition => "QuantifiedCondition"
  | .connectiveOperands => "ConnectiveOperands"
  | .finiteNumber => "FiniteNumber"

def listing (gaps : List Gap) : String :=
  "[" ++ ", ".intercalate (gaps.map name) ++ "]"

end Gap
end ConstraintTree
