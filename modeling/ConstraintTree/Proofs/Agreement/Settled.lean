import ConstraintTree.Proofs.Layout.Leaves
import ConstraintTree.Proofs.Number.Value

namespace ConstraintTree

/-- The number with positive zero in the place of negative zero. -/
def Binary64.settled (number : Binary64) : Binary64 :=
  if number = negativeZero then ⟨0⟩ else number

def Literal.settled : Literal → Literal
  | .number value => .number value.settled
  | literal => literal

def DimElement.settled (element : DimElement) : DimElement where
  name := element.name
  lower := element.lower.settled
  upper := element.upper.settled
  tolerance := element.tolerance.settled

def Leaf.settled : Leaf → Leaf
  | .literal value => .literal value.settled
  | .dimension element => .dimension element.settled
  | leaf => leaf

namespace Expr

mutual

/-- The expression with settled numbers. -/
def settled : Expr → Expr
  | .column reference => .column reference
  | .literal value => .literal value.settled
  | .binary op left right => .binary op (settled left) (settled right)
  | .unary op operand => .unary op (settled operand)
  | .call name args => .call name (settledEach args)
  | .between test lower upper negated =>
    .between (settledOperand test) (settledOperand lower) (settledOperand upper) negated
  | .inList tested choices negated => .inList (settled tested) (settledEach choices) negated
  | .dimArray elements => .dimArray (elements.map DimElement.settled)

def settledEach : List Expr → List Expr
  | [] => []
  | head :: rest => settled head :: settledEach rest

def settledOperand : Option Expr → Option Expr
  | some operand => some (settled operand)
  | none => none

end

theorem settledEach_eq_map (exprs : List Expr) : settledEach exprs = exprs.map settled := by
  induction exprs with
  | nil => rfl
  | cons head rest ih => rw [settledEach, ih, List.map_cons]

theorem settledOperand_eq_map (operand : Option Expr) :
    settledOperand operand = operand.map settled := by
  cases operand <;> rfl

end Expr

namespace Predicate

mutual

def settled : Predicate → Predicate
  | .quantification quantifier bound condition =>
    .quantification quantifier bound (settledCondition condition)
  | .atom name args => .atom name (args.map Expr.settled)
  | .negation operand => .negation (settled operand)
  | .junction op operands => .junction op (settledEach operands)

def settledEach : List Predicate → List Predicate
  | [] => []
  | head :: rest => settled head :: settledEach rest

def settledCondition : Option Predicate → Option Predicate
  | some condition => some (settled condition)
  | none => none

end

theorem settledEach_eq_map (predicates : List Predicate) :
    settledEach predicates = predicates.map settled := by
  induction predicates with
  | nil => rfl
  | cons head rest ih => rw [settledEach, ih, List.map_cons]

theorem settledCondition_eq_map (condition : Option Predicate) :
    settledCondition condition = condition.map settled := by
  cases condition <;> rfl

end Predicate

def Item.settled : Item → Item
  | .expression tree => .expression tree.settled
  | .predicate tree => .predicate tree.settled

/-! Numbers of a tree. -/

def Leaf.numbers : Leaf → List Binary64
  | .literal (.number value) => [value]
  | .dimension element => [element.lower, element.upper, element.tolerance]
  | .column _ | .literal _ | .name _ | .missing _ => []

def Expr.numbers (expr : Expr) : List Binary64 := expr.leaves.flatMap Leaf.numbers

def Predicate.numbers (predicate : Predicate) : List Binary64 :=
  predicate.leaves.flatMap Leaf.numbers

/-- All numeric literals and all bounds and tolerances of dimensions. -/
def Item.numbers (item : Item) : List Binary64 := item.leaves.flatMap Leaf.numbers

namespace Expr

@[simp] theorem numbers_binary (op : BinaryOp) (left right : Expr) :
    (binary op left right).numbers = left.numbers ++ right.numbers := by
  simp [numbers, leaves]

@[simp] theorem numbers_unary (op : UnaryOp) (operand : Expr) :
    (unary op operand).numbers = operand.numbers := by
  simp [numbers, leaves]

private theorem numbers_leavesEach (exprs : List Expr) :
    (leavesEach exprs).flatMap Leaf.numbers = exprs.flatMap numbers := by
  rw [leavesEach_eq_flatMap, List.flatMap_assoc]
  rfl

@[simp] theorem numbers_call (name : String) (args : List Expr) :
    (call name args).numbers = args.flatMap numbers := by
  rw [numbers, leaves, List.flatMap_cons, numbers_leavesEach]
  rfl

private theorem numbers_leavesOr (absent : Gap) (operand : Option Expr) :
    (leavesOr absent operand).flatMap Leaf.numbers = operand.toList.flatMap numbers := by
  cases operand <;> simp [leavesOr, numbers, Leaf.numbers]

@[simp] theorem numbers_between (test lower upper : Option Expr) (negated : Bool) :
    (between test lower upper negated).numbers = test.toList.flatMap numbers ++
      lower.toList.flatMap numbers ++ upper.toList.flatMap numbers := by
  rw [numbers, leaves, List.flatMap_append, List.flatMap_append]
  simp only [numbers_leavesOr]

@[simp] theorem numbers_inList (tested : Expr) (choices : List Expr) (negated : Bool) :
    (inList tested choices negated).numbers = tested.numbers ++ choices.flatMap numbers := by
  rw [numbers, leaves, List.flatMap_append]
  cases choices with
  | nil => rfl
  | cons head rest =>
    rw [if_neg (by simp), numbers_leavesEach]
    rfl

@[simp] theorem numbers_dimArray (elements : List DimElement) :
    (dimArray elements).numbers =
      elements.flatMap fun element => (Leaf.dimension element).numbers := by
  rw [numbers, leaves]
  cases elements <;> simp [Leaf.numbers, List.flatMap_map]

end Expr

namespace Predicate

@[simp] theorem numbers_quantification (quantifier : Quantifier) (bound : Option String)
    (condition : Option Predicate) :
    (quantification quantifier bound condition).numbers = condition.toList.flatMap numbers := by
  cases bound <;> cases condition <;> simp [numbers, leaves, leavesOrCondition, Leaf.numbers]

@[simp] theorem numbers_atom (name : String) (args : List Expr) :
    (atom name args).numbers = args.flatMap Expr.numbers := by
  rw [numbers, leaves, List.flatMap_cons, List.flatMap_assoc]
  rfl

@[simp] theorem numbers_negation (operand : Predicate) :
    (negation operand).numbers = operand.numbers := by
  simp [numbers, leaves]

@[simp] theorem numbers_junction (op : Junction) (operands : List Predicate) :
    (junction op operands).numbers = operands.flatMap numbers := by
  rw [numbers, leaves]
  cases operands with
  | nil => rfl
  | cons head rest =>
    rw [if_neg (by simp), leavesEach_eq_flatMap, List.flatMap_assoc]
    rfl

end Predicate

/-! The leaves of settled trees. -/

namespace Expr

private theorem leavesEach_settled {exprs : List Expr}
    (same : ∀ expr ∈ exprs, expr.settled.leaves = expr.leaves.map Leaf.settled) :
    leavesEach (settledEach exprs) = (leavesEach exprs).map Leaf.settled := by
  rw [leavesEach_eq_flatMap, leavesEach_eq_flatMap, settledEach_eq_map, List.flatMap_map,
    List.map_flatMap, List.flatMap_def, List.flatMap_def, List.map_congr_left same]

theorem leavesOr_settled {operand : Option Expr}
    (same : ∀ expr ∈ operand, expr.settled.leaves = expr.leaves.map Leaf.settled) (absent : Gap) :
    leavesOr absent (settledOperand operand) = (leavesOr absent operand).map Leaf.settled := by
  cases operand with
  | none => rfl
  | some expr => exact same expr rfl

theorem leaves_settled (expr : Expr) : expr.settled.leaves = expr.leaves.map Leaf.settled := by
  induction expr using Expr.induct with
  | column | literal => rfl
  | binary op left right inLeft inRight => simp [settled, leaves, inLeft, inRight]
  | unary op operand inOperand => simp [settled, leaves, inOperand]
  | call name args inArgs => simp [settled, leaves, leavesEach_settled inArgs, Leaf.settled]
  | between test lower upper negated inTest inLower inUpper =>
    simp [settled, leaves, leavesOr_settled inTest, leavesOr_settled inLower, leavesOr_settled inUpper]
  | inList tested choices negated inTested inChoices =>
    have empty : (settledEach choices).isEmpty = choices.isEmpty := by
      rw [settledEach_eq_map, List.isEmpty_map]
    rw [settled, leaves, leaves, inTested, leavesEach_settled inChoices, empty, List.map_append]
    split <;> rfl
  | dimArray elements =>
    rw [settled, leaves, leaves, List.isEmpty_map]
    split
    · rfl
    · simp [Leaf.settled]

end Expr

namespace Predicate

private theorem leavesEach_settled {predicates : List Predicate}
    (same : ∀ predicate ∈ predicates, predicate.settled.leaves = predicate.leaves.map Leaf.settled) :
    leavesEach (settledEach predicates) = (leavesEach predicates).map Leaf.settled := by
  rw [leavesEach_eq_flatMap, leavesEach_eq_flatMap, settledEach_eq_map, List.flatMap_map,
    List.map_flatMap, List.flatMap_def, List.flatMap_def, List.map_congr_left same]

private theorem leavesOrCondition_settled {condition : Option Predicate}
    (same : ∀ body ∈ condition, body.settled.leaves = body.leaves.map Leaf.settled) :
    leavesOrCondition (settledCondition condition) =
      (leavesOrCondition condition).map Leaf.settled := by
  cases condition with
  | none => rfl
  | some body => exact same body rfl

theorem leaves_settled (predicate : Predicate) :
    predicate.settled.leaves = predicate.leaves.map Leaf.settled := by
  induction predicate using Predicate.induct with
  | quantification quantifier bound condition inCondition =>
    cases bound <;>
      simp [settled, leaves, leavesOrCondition_settled inCondition, Leaf.settled]
  | atom name args =>
    have each := Expr.leavesEach_settled fun arg (_ : arg ∈ args) => arg.leaves_settled
    rw [Expr.leavesEach_eq_flatMap, Expr.leavesEach_eq_flatMap, Expr.settledEach_eq_map] at each
    rw [settled, leaves, leaves, each]
    rfl
  | negation operand inOperand => simp [settled, leaves, inOperand]
  | junction op operands inOperands =>
    have empty : (settledEach operands).isEmpty = operands.isEmpty := by
      rw [settledEach_eq_map, List.isEmpty_map]
    rw [settled, leaves, leaves, leavesEach_settled inOperands, empty]
    split <;> rfl

end Predicate

theorem Item.leaves_settled (item : Item) : item.settled.leaves = item.leaves.map Leaf.settled := by
  cases item with
  | expression tree => exact tree.leaves_settled
  | predicate tree => exact tree.leaves_settled

/-! Trees that are settled already. -/

theorem Binary64.settled_of_ne {number : Binary64} (other : number ≠ negativeZero) :
    number.settled = number := if_neg other

theorem map_settled {settled : α → α} {values : List α}
    (each : ∀ value ∈ values, .negativeZero ∉ numbers value → settled value = value)
    (positive : Binary64.negativeZero ∉ values.flatMap numbers) : values.map settled = values := by
  induction values with
  | nil => rfl
  | cons head rest ih =>
    rw [List.flatMap_cons, List.mem_append, not_or] at positive
    rw [List.map_cons, each head List.mem_cons_self positive.1,
      ih (fun value member => each value (List.mem_cons_of_mem _ member)) positive.2]

theorem map_settled_option {settled : α → α} {operand : Option α}
    (inside : ∀ value ∈ operand, .negativeZero ∉ numbers value → settled value = value)
    (positive : Binary64.negativeZero ∉ operand.toList.flatMap numbers) :
    operand.map settled = operand := by
  cases operand with
  | none => rfl
  | some value => rw [Option.map_some, inside value rfl (by simpa using positive)]

theorem Literal.settled_of_positive {literal : Literal}
    (positive : .negativeZero ∉ (Leaf.literal literal).numbers) : literal.settled = literal := by
  cases literal with
  | number value =>
    have other : value ≠ .negativeZero := by simpa [Leaf.numbers, eq_comm] using positive
    rw [settled, Binary64.settled_of_ne other]
  | null | boolean | integer | text => rfl

theorem DimElement.settled_of_positive {element : DimElement}
    (positive : .negativeZero ∉ (Leaf.dimension element).numbers) : element.settled = element := by
  simp only [Leaf.numbers, List.mem_cons, List.not_mem_nil, or_false, not_or] at positive
  obtain ⟨lower, upper, tolerance⟩ := positive
  rw [settled, Binary64.settled_of_ne (Ne.symm lower), Binary64.settled_of_ne (Ne.symm upper),
    Binary64.settled_of_ne (Ne.symm tolerance)]

/-- Without negative zeros an expression is settled. -/
theorem Expr.settled_of_positive {expr : Expr} (positive : .negativeZero ∉ expr.numbers) :
    expr.settled = expr := by
  induction expr using Expr.induct with
  | column reference => rfl
  | literal value => rw [settled, value.settled_of_positive (by simpa [numbers, leaves] using positive)]
  | binary op left right inLeft inRight =>
    rw [numbers_binary, List.mem_append, not_or] at positive
    rw [settled, inLeft positive.1, inRight positive.2]
  | unary op operand inOperand =>
    rw [numbers_unary] at positive
    rw [settled, inOperand positive]
  | call name args inArgs =>
    rw [numbers_call] at positive
    rw [settled, settledEach_eq_map, map_settled inArgs positive]
  | between test lower upper negated inTest inLower inUpper =>
    rw [numbers_between, List.mem_append, List.mem_append, not_or, not_or] at positive
    obtain ⟨⟨first, second⟩, third⟩ := positive
    rw [settled, settledOperand_eq_map, settledOperand_eq_map, settledOperand_eq_map,
      map_settled_option inTest first, map_settled_option inLower second,
      map_settled_option inUpper third]
  | inList tested choices negated inTested inChoices =>
    rw [numbers_inList, List.mem_append, not_or] at positive
    rw [settled, settledEach_eq_map, inTested positive.1, map_settled inChoices positive.2]
  | dimArray elements =>
    rw [numbers_dimArray] at positive
    rw [settled, map_settled (fun element _ => element.settled_of_positive) positive]

theorem Predicate.settled_of_positive {predicate : Predicate} (positive : .negativeZero ∉ predicate.numbers) :
    predicate.settled = predicate := by
  induction predicate using Predicate.induct with
  | quantification quantifier bound condition inCondition =>
    rw [numbers_quantification] at positive
    rw [settled, settledCondition_eq_map, map_settled_option inCondition positive]
  | atom name args =>
    rw [numbers_atom] at positive
    rw [settled, map_settled (fun _ _ => Expr.settled_of_positive) positive]
  | negation operand inOperand =>
    rw [numbers_negation] at positive
    rw [settled, inOperand positive]
  | junction op operands inOperands =>
    rw [numbers_junction] at positive
    rw [settled, settledEach_eq_map, map_settled inOperands positive]

theorem Item.settled_of_positive {item : Item} (positive : .negativeZero ∉ item.numbers) :
    item.settled = item := by
  cases item with
  | expression tree => rw [settled, Expr.settled_of_positive positive]
  | predicate tree => rw [settled, Predicate.settled_of_positive positive]

end ConstraintTree
