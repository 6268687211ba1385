import ConstraintTree.Layout.Continuation
import ConstraintTree.TreeError

namespace ConstraintTree

/-- Text of a tree. Only a complete rendering is fit to be executed; an incomplete one carries a
placeholder for every gap and can be logged. -/
inductive Rendering where
  | complete (text : String)
  | incomplete (text : String) (missing : List Gap)
  deriving DecidableEq, Repr, Inhabited

namespace Rendering

/-- A rendering is complete exactly when nothing is missing. -/
def ofGaps (text : String) (missing : List Gap) : Rendering :=
  if missing.isEmpty then .complete text else .incomplete text missing

def ofLexemes (dialect : Dialect) (lexemes : List Lexeme) : Rendering :=
  ofGaps (Lexeme.text dialect lexemes) (Lexeme.gaps lexemes)

def text : Rendering → String
  | .complete text => text
  | .incomplete text _ => text

def isComplete : Rendering → Bool
  | .complete _ => true
  | .incomplete .. => false

def missing : Rendering → List Gap
  | .complete _ => []
  | .incomplete _ missing => missing

/-- The text of a complete rendering, or the gaps. -/
def toComplete : Rendering → Except TreeError String
  | .complete text => .ok text
  | .incomplete _ missing => .error (.incomplete missing)

@[simp] theorem text_ofGaps (text : String) (missing : List Gap) :
    (ofGaps text missing).text = text := by
  cases missing <;> rfl

@[simp] theorem missing_ofGaps (text : String) (missing : List Gap) :
    (ofGaps text missing).missing = missing := by
  cases missing <;> rfl

@[simp] theorem isComplete_ofGaps (text : String) (missing : List Gap) :
    (ofGaps text missing).isComplete = missing.isEmpty := by
  cases missing <;> rfl

end Rendering

def Expr.render (dialect : Dialect) (expr : Expr) : Rendering :=
  .ofLexemes dialect (expr.lexemesThen dialect [])

def Predicate.render (dialect : Dialect) (predicate : Predicate) : Rendering :=
  .ofLexemes dialect (predicate.lexemesThen dialect [])

def Item.render (dialect : Dialect) (item : Item) : Rendering :=
  .ofLexemes dialect (item.lexemesThen dialect [])

theorem Expr.render_eq (dialect : Dialect) (expr : Expr) :
    expr.render dialect = .ofLexemes dialect (expr.lexemes dialect) := by
  simp [Expr.render, Expr.lexemesThen_eq]

theorem Predicate.render_eq (dialect : Dialect) (predicate : Predicate) :
    predicate.render dialect = .ofLexemes dialect (predicate.lexemes dialect) := by
  simp [Predicate.render, Predicate.lexemesThen_eq]

theorem Item.render_eq (dialect : Dialect) (item : Item) :
    item.render dialect = .ofLexemes dialect (item.lexemes dialect) := by
  simp [Item.render, Item.lexemesThen_eq]

end ConstraintTree
