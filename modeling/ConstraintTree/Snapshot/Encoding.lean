import ConstraintTree.Snapshot.Utf8
import ConstraintTree.Snapshot.Variant

/-!
Stored form of trees. Integers are little-endian and of fixed width; a variant is its position in
four bytes, a string or list its length in eight bytes before its content, an optional part one byte
that tells whether it follows. Fields stand in their order, without padding or terminator.
-/
namespace ConstraintTree

namespace Bytes

def ofVariant [DecidableEq α] [Listed α] (value : α) : Bytes := ofNat 4 (Listed.position value)

def ofLength (length : Nat) : Bytes := ofNat 8 length

def ofFlag (value : Bool) : Bytes := [if value then 1 else 0]

def ofText (text : String) : Bytes := ofLength (Utf8.encode text).length ++ Utf8.encode text

def ofOption (write : α → Bytes) : Option α → Bytes
  | some value => 1 :: write value
  | none => [0]

def ofList (write : α → Bytes) (values : List α) : Bytes :=
  ofLength values.length ++ values.flatMap write

def ofNumber (number : Binary64) : Bytes := ofNat 8 number.bits.toNat

end Bytes

def Column.encode (column : Column) : Bytes :=
  Bytes.ofOption Bytes.ofText column.table ++ Bytes.ofText column.name

def Literal.encode : Literal → Bytes
  | .null => Bytes.ofVariant LiteralKind.null
  | .boolean value => Bytes.ofVariant LiteralKind.boolean ++ Bytes.ofFlag value
  | .integer value => Bytes.ofVariant LiteralKind.integer ++ Bytes.ofNat 8 value.toUInt64.toNat
  | .number value => Bytes.ofVariant LiteralKind.number ++ Bytes.ofNumber value
  | .text content => Bytes.ofVariant LiteralKind.text ++ Bytes.ofText content

def DimElement.encode (element : DimElement) : Bytes :=
  Bytes.ofText element.name ++ Bytes.ofNumber element.lower ++ Bytes.ofNumber element.upper ++
    Bytes.ofNumber element.tolerance

namespace Expr

mutual

def encode : Expr → Bytes
  | .column reference => Bytes.ofVariant ExprKind.column ++ reference.encode
  | .literal value => Bytes.ofVariant ExprKind.literal ++ value.encode
  | .binary op left right =>
    Bytes.ofVariant ExprKind.binary ++ Bytes.ofVariant op ++ encode left ++ encode right
  | .unary op operand => Bytes.ofVariant ExprKind.unary ++ Bytes.ofVariant op ++ encode operand
  | .call name args =>
    Bytes.ofVariant ExprKind.call ++ Bytes.ofText name ++ Bytes.ofLength args.length ++
      encodeEach args
  | .between test lower upper negated =>
    Bytes.ofVariant ExprKind.between ++ encodeOperand test ++ encodeOperand lower ++
      encodeOperand upper ++ Bytes.ofFlag negated
  | .inList tested choices negated =>
    Bytes.ofVariant ExprKind.inList ++ encode tested ++ Bytes.ofLength choices.length ++
      encodeEach choices ++ Bytes.ofFlag negated
  | .dimArray elements =>
    Bytes.ofVariant ExprKind.dimArray ++ Bytes.ofList DimElement.encode elements

def encodeEach : List Expr → Bytes
  | [] => []
  | head :: rest => encode head ++ encodeEach rest

def encodeOperand : Option Expr → Bytes
  | some operand => 1 :: encode operand
  | none => [0]

end

theorem encodeEach_eq_flatMap (exprs : List Expr) : encodeEach exprs = exprs.flatMap encode := by
  induction exprs with
  | nil => rfl
  | cons head rest ih => simp [encodeEach, ih]

theorem encodeOperand_eq_ofOption (operand : Option Expr) :
    encodeOperand operand = Bytes.ofOption encode operand := by
  cases operand <;> rfl

end Expr

namespace Predicate

mutual

def encode : Predicate → Bytes
  | .quantification quantifier bound condition =>
    Bytes.ofVariant PredicateKind.quantification ++ Bytes.ofVariant quantifier ++
      Bytes.ofOption Bytes.ofText bound ++ encodeCondition condition
  | .atom name args =>
    Bytes.ofVariant PredicateKind.atom ++ Bytes.ofText name ++ Bytes.ofList Expr.encode args
  | .negation operand => Bytes.ofVariant PredicateKind.negation ++ encode operand
  | .junction op operands =>
    Bytes.ofVariant PredicateKind.junction ++ Bytes.ofVariant op ++
      Bytes.ofLength operands.length ++ encodeEach operands

def encodeEach : List Predicate → Bytes
  | [] => []
  | head :: rest => encode head ++ encodeEach rest

def encodeCondition : Option Predicate → Bytes
  | some condition => 1 :: encode condition
  | none => [0]

end

theorem encodeEach_eq_flatMap (predicates : List Predicate) :
    encodeEach predicates = predicates.flatMap encode := by
  induction predicates with
  | nil => rfl
  | cons head rest ih => simp [encodeEach, ih]

theorem encodeCondition_eq_ofOption (condition : Option Predicate) :
    encodeCondition condition = Bytes.ofOption encode condition := by
  cases condition <;> rfl

end Predicate

def Item.encode : Item → Bytes
  | .expression tree => Bytes.ofVariant ItemKind.expression ++ tree.encode
  | .predicate tree => Bytes.ofVariant ItemKind.predicate ++ tree.encode

/-- The only version of the stored form that is written and accepted. -/
def Snapshot.version : UInt32 := 1

/-- A list of trees that is stored as one unit, under the version of its stored form. -/
structure Snapshot where
  items : List Item
  formVersion : UInt32 := Snapshot.version
  deriving Repr, Inhabited

end ConstraintTree
