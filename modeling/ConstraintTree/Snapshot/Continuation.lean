import ConstraintTree.Snapshot.Encoding

namespace ConstraintTree

namespace Expr

mutual

/-- The bytes of an expression, then others. -/
def encodeThen : Expr → Bytes → Bytes
  | .column reference, rest => Bytes.ofVariant ExprKind.column ++ (reference.encode ++ rest)
  | .literal value, rest => Bytes.ofVariant ExprKind.literal ++ (value.encode ++ rest)
  | .binary op left right, rest =>
    Bytes.ofVariant ExprKind.binary ++
      (Bytes.ofVariant op ++ encodeThen left (encodeThen right rest))
  | .unary op operand, rest =>
    Bytes.ofVariant ExprKind.unary ++ (Bytes.ofVariant op ++ encodeThen operand rest)
  | .call name args, rest =>
    Bytes.ofVariant ExprKind.call ++
      (Bytes.ofText name ++ (Bytes.ofLength args.length ++ encodeEachThen args rest))
  | .between test lower upper negated, rest =>
    Bytes.ofVariant ExprKind.between ++
      encodeOperandThen test (encodeOperandThen lower (encodeOperandThen upper
        (Bytes.ofFlag negated ++ rest)))
  | .inList tested choices negated, rest =>
    Bytes.ofVariant ExprKind.inList ++
      encodeThen tested (Bytes.ofLength choices.length ++
        encodeEachThen choices (Bytes.ofFlag negated ++ rest))
  | .dimArray elements, rest =>
    Bytes.ofVariant ExprKind.dimArray ++ (Bytes.ofList DimElement.encode elements ++ rest)

def encodeEachThen : List Expr → Bytes → Bytes
  | [], rest => rest
  | head :: tail, rest => encodeThen head (encodeEachThen tail rest)

def encodeOperandThen : Option Expr → Bytes → Bytes
  | some operand, rest => 1 :: encodeThen operand rest
  | none, rest => 0 :: rest

end

/-- Expressions whose bytes are written in front of others. -/
def Stored (expr : Expr) : Prop := ∀ rest, encodeThen expr rest = encode expr ++ rest

theorem encodeEachThen_eq {exprs : List Expr} (stored : ∀ expr ∈ exprs, Stored expr)
    (rest : Bytes) : encodeEachThen exprs rest = encodeEach exprs ++ rest := by
  induction exprs with
  | nil => rfl
  | cons head tail ih =>
    have inTail := ih fun expr member => stored expr (List.mem_cons_of_mem _ member)
    simp [encodeEachThen, encodeEach, stored head List.mem_cons_self _, inTail]

theorem encodeOperandThen_eq {operand : Option Expr} (stored : ∀ expr ∈ operand, Stored expr)
    (rest : Bytes) : encodeOperandThen operand rest = encodeOperand operand ++ rest := by
  cases operand with
  | none => rfl
  | some expr => simp [encodeOperandThen, encodeOperand, stored expr rfl rest]

theorem encodeThen_eq (expr : Expr) (rest : Bytes) : encodeThen expr rest = encode expr ++ rest := by
  suffices stored : Stored expr from stored rest
  induction expr using Expr.induct with
  | column reference => intro rest; simp [encodeThen, encode]
  | literal value => intro rest; simp [encodeThen, encode]
  | binary op left right inLeft inRight =>
    intro rest
    simp [encodeThen, encode, inLeft _, inRight _]
  | unary op operand inOperand => intro rest; simp [encodeThen, encode, inOperand _]
  | call name args inArgs => intro rest; simp [encodeThen, encode, encodeEachThen_eq inArgs]
  | between test lower upper negated inTest inLower inUpper =>
    intro rest
    simp [encodeThen, encode, encodeOperandThen_eq inTest, encodeOperandThen_eq inLower,
      encodeOperandThen_eq inUpper]
  | inList tested choices negated inTested inChoices =>
    intro rest
    simp [encodeThen, encode, inTested _, encodeEachThen_eq inChoices]
  | dimArray elements => intro rest; simp [encodeThen, encode]

end Expr

namespace Predicate

mutual

def encodeThen : Predicate → Bytes → Bytes
  | .quantification quantifier bound condition, rest =>
    Bytes.ofVariant PredicateKind.quantification ++
      (Bytes.ofVariant quantifier ++
        (Bytes.ofOption Bytes.ofText bound ++ encodeConditionThen condition rest))
  | .atom name args, rest =>
    Bytes.ofVariant PredicateKind.atom ++
      (Bytes.ofText name ++ (Bytes.ofLength args.length ++ Expr.encodeEachThen args rest))
  | .negation operand, rest =>
    Bytes.ofVariant PredicateKind.negation ++ encodeThen operand rest
  | .junction op operands, rest =>
    Bytes.ofVariant PredicateKind.junction ++
      (Bytes.ofVariant op ++
        (Bytes.ofLength operands.length ++ encodeEachThen operands rest))

def encodeEachThen : List Predicate → Bytes → Bytes
  | [], rest => rest
  | head :: tail, rest => encodeThen head (encodeEachThen tail rest)

def encodeConditionThen : Option Predicate → Bytes → Bytes
  | some condition, rest => 1 :: encodeThen condition rest
  | none, rest => 0 :: rest

end

def Stored (predicate : Predicate) : Prop :=
  ∀ rest, encodeThen predicate rest = encode predicate ++ rest

theorem encodeEachThen_eq {predicates : List Predicate}
    (stored : ∀ predicate ∈ predicates, Stored predicate) (rest : Bytes) :
    encodeEachThen predicates rest = encodeEach predicates ++ rest := by
  induction predicates with
  | nil => rfl
  | cons head tail ih =>
    have inTail := ih fun predicate member => stored predicate (List.mem_cons_of_mem _ member)
    simp [encodeEachThen, encodeEach, stored head List.mem_cons_self _, inTail]

theorem encodeThen_eq (predicate : Predicate) (rest : Bytes) :
    encodeThen predicate rest = encode predicate ++ rest := by
  suffices stored : Stored predicate from stored rest
  induction predicate using Predicate.induct with
  | quantification quantifier bound condition inCondition =>
    intro rest
    cases condition with
    | none => simp [encodeThen, encode, encodeConditionThen, encodeCondition]
    | some body =>
      simp [encodeThen, encode, encodeConditionThen, encodeCondition, inCondition body rfl rest]
  | atom name args =>
    intro rest
    simp [encodeThen, encode, Bytes.ofList, ← Expr.encodeEach_eq_flatMap,
      Expr.encodeEachThen_eq fun expr _ => Expr.encodeThen_eq expr]
  | negation operand inOperand => intro rest; simp [encodeThen, encode, inOperand _]
  | junction op operands inOperands =>
    intro rest
    simp [encodeThen, encode, encodeEachThen_eq inOperands]

end Predicate

def Item.encodeThen : Item → Bytes → Bytes
  | .expression tree, rest => Bytes.ofVariant ItemKind.expression ++ tree.encodeThen rest
  | .predicate tree, rest => Bytes.ofVariant ItemKind.predicate ++ tree.encodeThen rest

theorem Item.encodeThen_eq (item : Item) (rest : Bytes) :
    item.encodeThen rest = item.encode ++ rest := by
  cases item with
  | expression tree => simp [encodeThen, encode, Expr.encodeThen_eq]
  | predicate tree => simp [encodeThen, encode, Predicate.encodeThen_eq]

namespace Snapshot

def bytes (snapshot : Snapshot) : Bytes :=
  Bytes.ofNat 4 snapshot.formVersion.toNat ++
    (Bytes.ofLength snapshot.items.length ++ snapshot.items.foldr Item.encodeThen [])

theorem bytes_eq (snapshot : Snapshot) :
    snapshot.bytes =
      Bytes.ofNat 4 snapshot.formVersion.toNat ++ Bytes.ofList Item.encode snapshot.items := by
  have joined (items : List Item) : items.foldr Item.encodeThen [] = items.flatMap Item.encode := by
    induction items with
    | nil => rfl
    | cons head tail ih => simp [ih, Item.encodeThen_eq]
  simp [bytes, Bytes.ofList, joined]

/-- A snapshot without items is refused, since none would ever be read back. -/
def encode (snapshot : Snapshot) : Except TreeError Bytes :=
  if snapshot.items.isEmpty then .error .emptySnapshot else .ok snapshot.bytes

end Snapshot
end ConstraintTree
