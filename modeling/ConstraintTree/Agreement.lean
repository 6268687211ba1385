import ConstraintTree.Predicate

/-!
Agreement is equality of trees that compares numbers by value: the two zeros agree, and a tree that
holds a not-a-number does not even agree with itself.
-/
namespace ConstraintTree

def Literal.agrees : Literal → Literal → Bool
  | .number left, .number right => left.agrees right
  | left, right => left == right

def DimElement.agrees (left right : DimElement) : Bool :=
  left.name == right.name && left.lower.agrees right.lower && left.upper.agrees right.upper &&
    left.tolerance.agrees right.tolerance

def DimElement.allAgree : List DimElement → List DimElement → Bool
  | [], [] => true
  | left :: lefts, right :: rights => left.agrees right && allAgree lefts rights
  | _, _ => false

namespace Expr

mutual

def agrees : Expr → Expr → Bool
  | .column left, .column right => left == right
  | .literal left, .literal right => left.agrees right
  | .binary op left right, .binary op' left' right' =>
    op == op' && agrees left left' && agrees right right'
  | .unary op operand, .unary op' operand' => op == op' && agrees operand operand'
  | .call name args, .call name' args' => name == name' && allAgree args args'
  | .between test lower upper negated, .between test' lower' upper' negated' =>
    operandsAgree test test' && operandsAgree lower lower' && operandsAgree upper upper' &&
      negated == negated'
  | .inList tested choices negated, .inList tested' choices' negated' =>
    agrees tested tested' && allAgree choices choices' && negated == negated'
  | .dimArray elements, .dimArray elements' => DimElement.allAgree elements elements'
  | _, _ => false

def allAgree : List Expr → List Expr → Bool
  | [], [] => true
  | left :: lefts, right :: rights => agrees left right && allAgree lefts rights
  | _, _ => false

def operandsAgree : Option Expr → Option Expr → Bool
  | some left, some right => agrees left right
  | none, none => true
  | _, _ => false

end

end Expr

namespace Predicate

mutual

def agrees : Predicate → Predicate → Bool
  | .quantification quantifier bound condition, .quantification quantifier' bound' condition' =>
    quantifier == quantifier' && bound == bound' && conditionsAgree condition condition'
  | .atom name args, .atom name' args' => name == name' && Expr.allAgree args args'
  | .negation operand, .negation operand' => agrees operand operand'
  | .junction op operands, .junction op' operands' => op == op' && allAgree operands operands'
  | _, _ => false

def allAgree : List Predicate → List Predicate → Bool
  | [], [] => true
  | left :: lefts, right :: rights => agrees left right && allAgree lefts rights
  | _, _ => false

def conditionsAgree : Option Predicate → Option Predicate → Bool
  | some left, some right => agrees left right
  | none, none => true
  | _, _ => false

end

end Predicate

namespace Item

def agrees : Item → Item → Bool
  | .expression left, .expression right => left.agrees right
  | .predicate left, .predicate right => left.agrees right
  | _, _ => false

def allAgree : List Item → List Item → Bool
  | [], [] => true
  | left :: lefts, right :: rights => left.agrees right && allAgree lefts rights
  | _, _ => false

end Item
end ConstraintTree
