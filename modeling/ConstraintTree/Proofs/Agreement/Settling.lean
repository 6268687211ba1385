import ConstraintTree.Agreement
import ConstraintTree.Proofs.Agreement.Settled

/-!
What agreement of trees amounts to: two trees agree exactly if they are the same once settled and the
first holds no not-a-number.
-/
namespace ConstraintTree

/-- Numbers that agree with themselves. -/
def Comparable (numbers : List Binary64) : Prop := ∀ number ∈ numbers, number.isNaN = false

@[simp] theorem comparable_nil : Comparable [] := by simp [Comparable]

@[simp] theorem comparable_cons {head : Binary64} {rest : List Binary64} :
    Comparable (head :: rest) ↔ head.isNaN = false ∧ Comparable rest := by simp [Comparable]

@[simp] theorem comparable_append {first second : List Binary64} :
    Comparable (first ++ second) ↔ Comparable first ∧ Comparable second := by
  simp [Comparable, or_imp, forall_and]

/-- Values agree with exactly those that are the same once settled, if all numbers are comparable. -/
def Settles (agrees : α → α → Bool) (settled : α → α) (numbers : α → List Binary64) (value : α) :
    Prop :=
  ∀ other, agrees value other = true ↔ settled value = settled other ∧ Comparable (numbers value)

namespace Binary64

theorem settled_eq_iff {left right : Binary64} :
    left.settled = right.settled ↔ left = right ∨ left.isZero = true ∧ right.isZero = true := by
  have zeros : ∀ number : Binary64, number.isZero = true → number.settled = ⟨0⟩ := by
    intro number zero
    rcases isZero_cases zero with rfl | rfl <;> rfl
  constructor
  · intro same
    rw [settled, settled] at same
    split at same
    · next negative =>
      right
      split at same
      · next negative' => exact ⟨negative ▸ rfl, negative' ▸ rfl⟩
      · exact ⟨negative ▸ rfl, same ▸ rfl⟩
    · split at same
      · next negative' => exact .inr ⟨same ▸ rfl, negative' ▸ rfl⟩
      · exact .inl same
  · rintro (rfl | ⟨zero, zero'⟩)
    · rfl
    · rw [zeros left zero, zeros right zero']

theorem isNaN_settled (number : Binary64) : number.settled.isNaN = number.isNaN := by
  rw [settled]
  split
  · next negative =>
    subst negative
    rfl
  · rfl

theorem settles (number : Binary64) : Settles agrees settled (fun number => [number]) number := by
  intro other
  simp only [agrees_iff_value, value_eq_iff, ← settled_eq_iff, comparable_cons, comparable_nil,
    and_true]
  constructor
  · exact fun ⟨isNumber, _, same⟩ => ⟨same, isNumber⟩
  · rintro ⟨same, isNumber⟩
    have isNumber' : other.isNaN = false := by
      rw [← isNaN_settled, ← same, isNaN_settled, isNumber]
    exact ⟨isNumber, isNumber', same⟩

end Binary64

/-! How agreement of trees is put together. -/

/-- Lists agree if they are of one length and their members agree one by one. -/
structure Memberwise (agrees : α → α → Bool) (all : List α → List α → Bool) : Prop where
  neither : all [] [] = true
  fewer : ∀ head rest, all [] (head :: rest) = false
  more : ∀ head rest, all (head :: rest) [] = false
  next : ∀ left lefts right rights,
    all (left :: lefts) (right :: rights) = (agrees left right && all lefts rights)

theorem Settles.list {agrees : α → α → Bool} {all : List α → List α → Bool}
    (memberwise : Memberwise agrees all) {values : List α}
    (each : ∀ value ∈ values, Settles agrees settled numbers value) :
    Settles all (List.map settled) (List.flatMap numbers) values := by
  intro others
  induction values generalizing others with
  | nil =>
    cases others with
    | nil => simp [memberwise.neither]
    | cons right rights => simp [memberwise.fewer]
  | cons left lefts ih =>
    cases others with
    | nil => simp [memberwise.more]
    | cons right rights =>
      have inRest := ih (fun value member => each value (List.mem_cons_of_mem _ member)) rights
      have atHead := each left List.mem_cons_self right
      rw [memberwise.next, Bool.and_eq_true, atHead, inRest]
      simp [and_assoc, and_left_comm]

/-- Optional parts agree if both are there and agree, or neither is there. -/
structure Optionwise (agrees : α → α → Bool) (both : Option α → Option α → Bool) : Prop where
  neither : both none none = true
  fewer : ∀ right, both none (some right) = false
  more : ∀ left, both (some left) none = false
  present : ∀ left right, both (some left) (some right) = agrees left right

theorem Settles.option {agrees : α → α → Bool} {both : Option α → Option α → Bool}
    (optionwise : Optionwise agrees both) {operand : Option α}
    (inside : ∀ value ∈ operand, Settles agrees settled numbers value) :
    Settles both (Option.map settled) (fun operand => operand.toList.flatMap numbers) operand := by
  intro other
  cases operand with
  | none => cases other <;> simp [optionwise.neither, optionwise.fewer]
  | some left =>
    cases other with
    | none => simp [optionwise.more]
    | some right => simp [optionwise.present, inside left rfl right]

theorem Literal.settles (literal : Literal) :
    Settles agrees settled (fun literal => (Leaf.literal literal).numbers) literal := by
  intro other
  cases literal with
  | number value =>
    cases other with
    | number other => simpa [agrees, settled, Leaf.numbers] using value.settles other
    | null | boolean | integer | text => simp [agrees, settled]
  | null | boolean | integer | text =>
    cases other <;> simp [agrees, settled, Leaf.numbers]

theorem DimElement.settles (element : DimElement) :
    Settles agrees settled (fun element => (Leaf.dimension element).numbers) element := by
  intro other
  simp only [agrees, Bool.and_eq_true, beq_iff_eq, element.lower.settles other.lower,
    element.upper.settles other.upper, element.tolerance.settles other.tolerance, settled,
    DimElement.mk.injEq, Leaf.numbers, comparable_cons, comparable_nil, and_true]
  constructor
  · rintro ⟨⟨⟨name, lower, finite⟩, upper, finite'⟩, tolerance, finite''⟩
    exact ⟨⟨name, lower, upper, tolerance⟩, finite, finite', finite''⟩
  · rintro ⟨⟨name, lower, upper, tolerance⟩, finite, finite', finite''⟩
    exact ⟨⟨⟨name, lower, finite⟩, upper, finite'⟩, tolerance, finite''⟩

theorem DimElement.memberwise : Memberwise agrees allAgree :=
  ⟨rfl, fun _ _ => rfl, fun _ _ => rfl, fun _ _ _ _ => rfl⟩

namespace Expr

theorem memberwise : Memberwise agrees allAgree :=
  ⟨rfl, fun _ _ => rfl, fun _ _ => rfl, fun _ _ _ _ => rfl⟩

theorem optionwise : Optionwise agrees operandsAgree :=
  ⟨rfl, fun _ => rfl, fun _ => rfl, fun _ _ => rfl⟩

theorem settles (expr : Expr) : Settles agrees settled numbers expr := by
  induction expr using Expr.induct with
  | column reference =>
    intro other
    cases other <;> simp [agrees, settled, numbers, leaves, Leaf.numbers]
  | literal value =>
    intro other
    cases other with
    | literal other => simpa [agrees, settled, numbers, leaves] using value.settles other
    | column | binary | unary | call | between | inList | dimArray => simp [agrees, settled]
  | binary op left right inLeft inRight =>
    intro other
    cases other with
    | binary op' left' right' =>
      simp [agrees, settled, inLeft left', inRight right', and_assoc, and_left_comm]
    | column | literal | unary | call | between | inList | dimArray => simp [agrees, settled]
  | unary op operand inOperand =>
    intro other
    cases other with
    | unary op' operand' => simp [agrees, settled, inOperand operand', and_assoc]
    | column | literal | binary | call | between | inList | dimArray => simp [agrees, settled]
  | call name args inArgs =>
    intro other
    cases other with
    | call name' args' =>
      simp [agrees, settled, settledEach_eq_map, Settles.list memberwise inArgs args', and_assoc]
    | column | literal | binary | unary | between | inList | dimArray => simp [agrees, settled]
  | between test lower upper negated inTest inLower inUpper =>
    intro other
    cases other with
    | between test' lower' upper' negated' =>
      simp [agrees, settled, settledOperand_eq_map, Settles.option optionwise inTest test',
        Settles.option optionwise inLower lower', Settles.option optionwise inUpper upper', and_assoc,
        and_left_comm, and_comm]
    | column | literal | binary | unary | call | inList | dimArray => simp [agrees, settled]
  | inList tested choices negated inTested inChoices =>
    intro other
    cases other with
    | inList tested' choices' negated' =>
      simp [agrees, settled, settledEach_eq_map, inTested tested',
        Settles.list memberwise inChoices choices', and_assoc, and_left_comm, and_comm]
    | column | literal | binary | unary | call | between | dimArray => simp [agrees, settled]
  | dimArray elements =>
    intro other
    cases other with
    | dimArray elements' =>
      simp [agrees, settled,
        Settles.list DimElement.memberwise (fun element _ => element.settles) elements']
    | column | literal | binary | unary | call | between | inList => simp [agrees, settled]

end Expr

namespace Predicate

theorem memberwise : Memberwise agrees allAgree :=
  ⟨rfl, fun _ _ => rfl, fun _ _ => rfl, fun _ _ _ _ => rfl⟩

theorem optionwise : Optionwise agrees conditionsAgree :=
  ⟨rfl, fun _ => rfl, fun _ => rfl, fun _ _ => rfl⟩

theorem settles (predicate : Predicate) : Settles agrees settled numbers predicate := by
  induction predicate using Predicate.induct with
  | quantification quantifier bound condition inCondition =>
    intro other
    cases other with
    | quantification quantifier' bound' condition' =>
      simp [agrees, settled, settledCondition_eq_map,
        Settles.option optionwise inCondition condition', and_assoc]
    | atom | negation | junction => simp [agrees, settled]
  | atom name args =>
    intro other
    cases other with
    | atom name' args' =>
      simp [agrees, settled, Settles.list Expr.memberwise (fun arg _ => arg.settles) args', and_assoc]
    | quantification | negation | junction => simp [agrees, settled]
  | negation operand inOperand =>
    intro other
    cases other with
    | negation operand' => simp [agrees, settled, inOperand operand']
    | quantification | atom | junction => simp [agrees, settled]
  | junction op operands inOperands =>
    intro other
    cases other with
    | junction op' operands' =>
      simp [agrees, settled, settledEach_eq_map, Settles.list memberwise inOperands operands', and_assoc]
    | quantification | atom | negation => simp [agrees, settled]

end Predicate

theorem Item.settles (item : Item) : Settles agrees settled numbers item := by
  intro other
  cases item with
  | expression tree =>
    cases other with
    | expression other =>
      rw [agrees, tree.settles other, settled, settled, Item.expression.injEq]
      rfl
    | predicate other => simp [agrees, settled]
  | predicate tree =>
    cases other with
    | expression other => simp [agrees, settled]
    | predicate other =>
      rw [agrees, tree.settles other, settled, settled, Item.predicate.injEq]
      rfl

end ConstraintTree
