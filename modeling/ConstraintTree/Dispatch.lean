import ConstraintTree.Predicate

/-!
How trees are handed to visitors. A visitor has one method for each construct, and a tree calls the
method of its outermost construct with the parts of that. Nodes never walk their own children: a
visitor that wants to go on has the children accept it.
-/
namespace ConstraintTree

structure ExprMethods (ω : Type) where
  column : (reference : Column) → ω
  literal : (value : Literal) → ω
  binary : (op : BinaryOp) → (left right : Expr) → ω
  unary : (op : UnaryOp) → (operand : Expr) → ω
  call : (name : String) → (args : List Expr) → ω
  between : (test lower upper : Option Expr) → (negated : Bool) → ω
  inList : (tested : Expr) → (choices : List Expr) → (negated : Bool) → ω
  dimArray : (elements : List DimElement) → ω

structure PredicateMethods (ω : Type) where
  quantification : (quantifier : Quantifier) → (bound : Option String) →
    (condition : Option Predicate) → ω
  atom : (name : String) → (args : List Expr) → ω
  negation : (operand : Predicate) → ω
  junction : (op : Junction) → (operands : List Predicate) → ω

structure Methods (ω : Type) where
  expr : ExprMethods ω
  predicate : PredicateMethods ω

def Expr.accept (methods : ExprMethods ω) : Expr → ω
  | .column reference => methods.column reference
  | .literal value => methods.literal value
  | .binary op left right => methods.binary op left right
  | .unary op operand => methods.unary op operand
  | .call name args => methods.call name args
  | .between test lower upper negated => methods.between test lower upper negated
  | .inList tested choices negated => methods.inList tested choices negated
  | .dimArray elements => methods.dimArray elements

def Predicate.accept (methods : PredicateMethods ω) : Predicate → ω
  | .quantification quantifier bound condition => methods.quantification quantifier bound condition
  | .atom name args => methods.atom name args
  | .negation operand => methods.negation operand
  | .junction op operands => methods.junction op operands

def Item.accept (methods : Methods ω) : Item → ω
  | .expression tree => tree.accept methods.expr
  | .predicate tree => tree.accept methods.predicate

/-- A node by itself, before it is made a tree: the parts of one construct. Columns and literals have no
nodes of their own. -/
inductive Node where
  | binary (op : BinaryOp) (left right : Expr)
  | unary (op : UnaryOp) (operand : Expr)
  | call (name : String) (args : List Expr)
  | between (test lower upper : Option Expr) (negated : Bool)
  | inList (tested : Expr) (choices : List Expr) (negated : Bool)
  | dimArray (elements : List DimElement)
  | quantification (quantifier : Quantifier) (bound : Option String) (condition : Option Predicate)
  | atom (name : String) (args : List Expr)
  | negation (operand : Predicate)
  | junction (op : Junction) (operands : List Predicate)
  deriving Repr, Inhabited

namespace Node

def item : Node → Item
  | .binary op left right => .expression (.binary op left right)
  | .unary op operand => .expression (.unary op operand)
  | .call name args => .expression (.call name args)
  | .between test lower upper negated => .expression (.between test lower upper negated)
  | .inList tested choices negated => .expression (.inList tested choices negated)
  | .dimArray elements => .expression (.dimArray elements)
  | .quantification quantifier bound condition =>
    .predicate (.quantification quantifier bound condition)
  | .atom name args => .predicate (.atom name args)
  | .negation operand => .predicate (.negation operand)
  | .junction op operands => .predicate (.junction op operands)

/-- A node calls the method of its construct without being made a tree first. -/
def accept (methods : Methods ω) : Node → ω
  | .binary op left right => methods.expr.binary op left right
  | .unary op operand => methods.expr.unary op operand
  | .call name args => methods.expr.call name args
  | .between test lower upper negated => methods.expr.between test lower upper negated
  | .inList tested choices negated => methods.expr.inList tested choices negated
  | .dimArray elements => methods.expr.dimArray elements
  | .quantification quantifier bound condition =>
    methods.predicate.quantification quantifier bound condition
  | .atom name args => methods.predicate.atom name args
  | .negation operand => methods.predicate.negation operand
  | .junction op operands => methods.predicate.junction op operands

theorem accept_item (methods : Methods ω) (node : Node) :
    node.item.accept methods = node.accept methods := by
  cases node <;> rfl

end Node
end ConstraintTree
