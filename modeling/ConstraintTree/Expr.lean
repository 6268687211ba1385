import ConstraintTree.Number.Binary64
import ConstraintTree.Operator

/-!
SQL expressions as trees. Operands of a range test may be absent, and lists may be empty: such a
tree is incomplete, but it can still be shown, walked and stored.
-/
namespace ConstraintTree

/-- A column, optionally qualified by a table name or alias. -/
structure Column where
  table : Option String := none
  name : String
  deriving DecidableEq, Repr, Inhabited

inductive Literal where
  | null
  | boolean (value : Bool)
  | integer (value : Int64)
  | number (value : Binary64)
  | text (content : String)
  deriving DecidableEq, Repr, Inhabited

/-- False only for infinities and not-a-number, which SQL cannot spell. -/
def Literal.isFinite : Literal → Bool
  | .number value => value.isFinite
  | _ => true

structure DimElement where
  name : String
  lower : Binary64
  upper : Binary64
  tolerance : Binary64
  deriving DecidableEq, Repr, Inhabited

def DimElement.isFinite (element : DimElement) : Bool :=
  element.lower.isFinite && element.upper.isFinite && element.tolerance.isFinite

inductive Expr where
  | column (reference : Column)
  | literal (value : Literal)
  | binary (op : BinaryOp) (left right : Expr)
  | unary (op : UnaryOp) (operand : Expr)
  | call (name : String) (args : List Expr)
  | between (test lower upper : Option Expr) (negated : Bool)
  | inList (tested : Expr) (choices : List Expr) (negated : Bool)
  | dimArray (elements : List DimElement)
  deriving Repr, Inhabited

/-- The outermost construct of an expression, in the order of its stored variants. -/
inductive ExprKind where
  | column | literal | binary | unary | call | between | inList | dimArray
  deriving DecidableEq, Repr, Inhabited

namespace Expr

def kind : Expr → ExprKind
  | .column .. => .column
  | .literal .. => .literal
  | .binary .. => .binary
  | .unary .. => .unary
  | .call .. => .call
  | .between .. => .between
  | .inList .. => .inList
  | .dimArray .. => .dimArray

def precedence : Expr → Precedence
  | .binary op .. => op.precedence
  | .unary op .. => op.precedence
  | .between .. | .inList .. => Precedence.comparison
  | .column .. | .literal .. | .call .. | .dimArray .. => Precedence.atom

/-- Induction over expressions; children in lists and optional ones are reached by membership. -/
@[elab_as_elim]
theorem induct {motive : Expr → Prop}
    (column : ∀ reference, motive (.column reference))
    (literal : ∀ value, motive (.literal value))
    (binary : ∀ op left right, motive left → motive right → motive (.binary op left right))
    (unary : ∀ op operand, motive operand → motive (.unary op operand))
    (call : ∀ name args, (∀ arg ∈ args, motive arg) → motive (.call name args))
    (between : ∀ test lower upper negated, (∀ operand ∈ test, motive operand) →
      (∀ operand ∈ lower, motive operand) → (∀ operand ∈ upper, motive operand) →
      motive (.between test lower upper negated))
    (inList : ∀ tested choices negated, motive tested → (∀ choice ∈ choices, motive choice) →
      motive (.inList tested choices negated))
    (dimArray : ∀ elements, motive (.dimArray elements)) (expr : Expr) : motive expr :=
  @Expr.rec motive (fun exprs => ∀ expr ∈ exprs, motive expr)
    (fun operand => ∀ expr ∈ operand, motive expr)
    column literal binary unary call between inList dimArray
    (fun _ member => absurd member List.not_mem_nil)
    (fun _ _ atHead inRest child member =>
      (List.mem_cons.mp member).elim (fun same => same ▸ atHead) (inRest child))
    (fun _ absent => nomatch absent)
    (fun _ present _ member => Option.mem_some.mp member ▸ present) expr

/-! Shorthands for building expressions. -/

def named (name : String) : Expr := .column { name }

def qualified (table name : String) : Expr := .column { table := some table, name }

protected def null : Expr := .literal .null

def boolean (value : Bool) : Expr := .literal (.boolean value)

def integer (value : Int64) : Expr := .literal (.integer value)

def number (value : Binary64) : Expr := .literal (.number value)

def text (content : String) : Expr := .literal (.text content)

protected def and (left right : Expr) : Expr := .binary .and left right

protected def or (left right : Expr) : Expr := .binary .or left right

protected def not (operand : Expr) : Expr := .unary .not operand

protected def eq (left right : Expr) : Expr := .binary .eq left right

protected def ne (left right : Expr) : Expr := .binary .ne left right

protected def lt (left right : Expr) : Expr := .binary .lt left right

protected def le (left right : Expr) : Expr := .binary .le left right

protected def gt (left right : Expr) : Expr := .binary .gt left right

protected def ge (left right : Expr) : Expr := .binary .ge left right

protected def add (left right : Expr) : Expr := .binary .add left right

protected def sub (left right : Expr) : Expr := .binary .sub left right

protected def mul (left right : Expr) : Expr := .binary .mul left right

protected def div (left right : Expr) : Expr := .binary .div left right

def isNull (operand : Expr) : Expr := .unary .isNull operand

def isNotNull (operand : Expr) : Expr := .unary .isNotNull operand

def range (test lower upper : Expr) : Expr := .between (some test) (some lower) (some upper) false

def notRange (test lower upper : Expr) : Expr := .between (some test) (some lower) (some upper) true

def oneOf (tested : Expr) (choices : List Expr) : Expr := .inList tested choices false

def noneOf (tested : Expr) (choices : List Expr) : Expr := .inList tested choices true

end Expr
end ConstraintTree
