import ConstraintTree.Dispatch

/-!
Walks over trees. A walk meets a node before its children and the children in the order of their
fields, absent ones skipped; a node that the visitor rejects ends the walk on the spot.
-/
namespace ConstraintTree

inductive NodeKind where
  | expression (kind : ExprKind)
  | predicate (kind : PredicateKind)
  deriving DecidableEq, Repr, Inhabited

structure Visitor where
  rejects : NodeKind → Bool
  descends : Bool := true

/-- A walk keeps the kinds met so far and fails with the rejected kind. -/
abbrev Walk := EStateM NodeKind (List NodeKind)

namespace Visitor

/-- Meets one node, and then its children unless the visitor stays outside. -/
def meet (visitor : Visitor) (kind : NodeKind) (children : Walk Unit) : Walk Unit := do
  modify (· ++ [kind])
  if visitor.rejects kind then throw kind
  if visitor.descends then children

mutual

def walkExpr (visitor : Visitor) : Expr → Walk Unit
  | .column _ => visitor.meet (.expression .column) (pure ())
  | .literal _ => visitor.meet (.expression .literal) (pure ())
  | .binary _ left right => visitor.meet (.expression .binary) do
    walkExpr visitor left
    walkExpr visitor right
  | .unary _ operand => visitor.meet (.expression .unary) (walkExpr visitor operand)
  | .call _ args => visitor.meet (.expression .call) (walkExprs visitor args)
  | .between test lower upper _ => visitor.meet (.expression .between) do
    walkOperand visitor test
    walkOperand visitor lower
    walkOperand visitor upper
  | .inList tested choices _ => visitor.meet (.expression .inList) do
    walkExpr visitor tested
    walkExprs visitor choices
  | .dimArray _ => visitor.meet (.expression .dimArray) (pure ())

def walkExprs (visitor : Visitor) : List Expr → Walk Unit
  | [] => pure ()
  | head :: rest => do
    walkExpr visitor head
    walkExprs visitor rest

def walkOperand (visitor : Visitor) : Option Expr → Walk Unit
  | some operand => walkExpr visitor operand
  | none => pure ()

end

mutual

def walkPredicate (visitor : Visitor) : Predicate → Walk Unit
  | .quantification _ _ condition =>
    visitor.meet (.predicate .quantification) (walkCondition visitor condition)
  | .atom _ args => visitor.meet (.predicate .atom) (walkExprs visitor args)
  | .negation operand => visitor.meet (.predicate .negation) (walkPredicate visitor operand)
  | .junction _ operands => visitor.meet (.predicate .junction) (walkPredicates visitor operands)

def walkPredicates (visitor : Visitor) : List Predicate → Walk Unit
  | [] => pure ()
  | head :: rest => do
    walkPredicate visitor head
    walkPredicates visitor rest

def walkCondition (visitor : Visitor) : Option Predicate → Walk Unit
  | some condition => walkPredicate visitor condition
  | none => pure ()

end

def methods (visitor : Visitor) : Methods (Walk Unit) where
  expr := {
    column := fun reference => walkExpr visitor (.column reference)
    literal := fun value => walkExpr visitor (.literal value)
    binary := fun op left right => walkExpr visitor (.binary op left right)
    unary := fun op operand => walkExpr visitor (.unary op operand)
    call := fun name args => walkExpr visitor (.call name args)
    between := fun test lower upper negated =>
      walkExpr visitor (.between test lower upper negated)
    inList := fun tested choices negated => walkExpr visitor (.inList tested choices negated)
    dimArray := fun elements => walkExpr visitor (.dimArray elements) }
  predicate := {
    quantification := fun quantifier bound condition =>
      walkPredicate visitor (.quantification quantifier bound condition)
    atom := fun name args => walkPredicate visitor (.atom name args)
    negation := fun operand => walkPredicate visitor (.negation operand)
    junction := fun op operands => walkPredicate visitor (.junction op operands) }

/-- A walk begins with the root, which accepts the visitor. -/
def walk (visitor : Visitor) (item : Item) : Walk Unit := item.accept visitor.methods

end Visitor

/-- What a finished walk leaves: the kinds met, in order, and the rejected one if there was one. -/
structure Trail where
  seen : List NodeKind
  rejected : Option NodeKind
  deriving DecidableEq, Repr, Inhabited

def Item.trail (visitor : Visitor) (item : Item) : Trail :=
  match visitor.walk item [] with
  | .ok _ seen => { seen, rejected := none }
  | .error rejected seen => { seen, rejected := some rejected }

end ConstraintTree
