import ConstraintTree.Expr

namespace ConstraintTree

structure ColumnCollector where
  columns : List Column := []
  deriving DecidableEq, Repr, Inhabited

namespace ColumnCollector

/-- Columns are the same when table and name are. -/
def note (collector : ColumnCollector) (column : Column) : ColumnCollector :=
  if column ∈ collector.columns then collector
  else { columns := collector.columns ++ [column] }

mutual

def visit (collector : ColumnCollector) : Expr → ColumnCollector
  | .column reference => collector.note reference
  | .literal _ => collector
  | .binary _ left right => visit (visit collector left) right
  | .unary _ operand => visit collector operand
  | .call _ args => visitEach collector args
  | .between test lower upper _ =>
    visitOperand (visitOperand (visitOperand collector test) lower) upper
  | .inList tested choices _ => visitEach (visit collector tested) choices
  | .dimArray _ => collector

def visitEach (collector : ColumnCollector) : List Expr → ColumnCollector
  | [] => collector
  | head :: rest => visitEach (visit collector head) rest

def visitOperand (collector : ColumnCollector) : Option Expr → ColumnCollector
  | some operand => visit collector operand
  | none => collector

end

end ColumnCollector

def Expr.columns (expr : Expr) : List Column := (ColumnCollector.visit {} expr).columns

end ConstraintTree
