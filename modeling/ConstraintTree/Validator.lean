import ConstraintTree.Predicate
import ConstraintTree.TreeError

namespace ConstraintTree

structure Validator where
  /-- The noted gaps, the last one first. -/
  noted : List Gap := []
  deriving DecidableEq, Repr, Inhabited

namespace Validator

/-- The noted gaps in the order in which they were met. -/
def missing (validator : Validator) : List Gap := validator.noted.reverse

def note (validator : Validator) (gap : Gap) : Validator := { noted := gap :: validator.noted }

@[simp] theorem missing_note (validator : Validator) (gap : Gap) :
    (validator.note gap).missing = validator.missing ++ [gap] := by
  simp [missing, note]

/-- Notes the gap when the given part is absent. -/
def noteUnless (present : Bool) (gap : Gap) (validator : Validator) : Validator :=
  if present then validator else validator.note gap

mutual

def visitExpr (validator : Validator) : Expr → Validator
  | .column _ => validator
  | .literal value => validator.noteUnless value.isFinite .finiteNumber
  | .binary _ left right => visitExpr (visitExpr validator left) right
  | .unary _ operand => visitExpr validator operand
  | .call _ args => visitExprs validator args
  | .between test lower upper _ =>
    visitOperand (visitOperand (visitOperand validator .betweenTest test) .betweenBegin lower)
      .betweenEnd upper
  | .inList tested choices _ =>
    visitExprs ((visitExpr validator tested).noteUnless (!choices.isEmpty) .inListItems) choices
  | .dimArray elements =>
    elements.foldl (fun validator element => validator.noteUnless element.isFinite .finiteNumber)
      (validator.noteUnless (!elements.isEmpty) .dimArrayElements)

def visitExprs (validator : Validator) : List Expr → Validator
  | [] => validator
  | head :: rest => visitExprs (visitExpr validator head) rest

/-- Visits an operand of a range test, or notes that it is missing. -/
def visitOperand (validator : Validator) (gap : Gap) : Option Expr → Validator
  | some operand => visitExpr validator operand
  | none => validator.note gap

end

mutual

def visitPredicate (validator : Validator) : Predicate → Validator
  | .quantification _ bound condition =>
    visitCondition (validator.noteUnless bound.isSome .quantifiedVariable) condition
  | .atom _ args => visitExprs validator args
  | .negation operand => visitPredicate validator operand
  | .junction _ operands =>
    visitPredicates (validator.noteUnless (!operands.isEmpty) .connectiveOperands) operands

def visitPredicates (validator : Validator) : List Predicate → Validator
  | [] => validator
  | head :: rest => visitPredicates (visitPredicate validator head) rest

def visitCondition (validator : Validator) : Option Predicate → Validator
  | some condition => visitPredicate validator condition
  | none => validator.note .quantifiedCondition

end

def visit (validator : Validator) : Item → Validator
  | .expression tree => visitExpr validator tree
  | .predicate tree => visitPredicate validator tree

def visitAll (validator : Validator) (items : List Item) : Validator :=
  items.foldl visit validator

/-- Succeeds when nothing was missing in any tree visited so far. -/
def finish (validator : Validator) : Except TreeError Unit :=
  TreeError.unlessMissing validator.missing ()

end Validator

def Expr.validate (expr : Expr) : Except TreeError Unit := (Validator.visitExpr {} expr).finish

def Item.validate (item : Item) : Except TreeError Unit := (Validator.visit {} item).finish

end ConstraintTree
