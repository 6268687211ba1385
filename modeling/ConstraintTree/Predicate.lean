import ConstraintTree.Expr

namespace ConstraintTree

inductive Predicate where
  | quantification (quantifier : Quantifier) (bound : Option String) (condition : Option Predicate)
  | atom (name : String) (args : List Expr)
  | negation (operand : Predicate)
  | junction (op : Junction) (operands : List Predicate)
  deriving Repr, Inhabited

/-- The outermost construct of a predicate, in the order of its stored variants. -/
inductive PredicateKind where
  | quantification | atom | negation | junction
  deriving DecidableEq, Repr, Inhabited

namespace Predicate

def kind : Predicate → PredicateKind
  | .quantification .. => .quantification
  | .atom .. => .atom
  | .negation .. => .negation
  | .junction .. => .junction

/-- Induction over predicates; operands and an optional condition are reached by membership. -/
@[elab_as_elim]
theorem induct {motive : Predicate → Prop}
    (quantification : ∀ quantifier bound condition, (∀ body ∈ condition, motive body) →
      motive (.quantification quantifier bound condition))
    (atom : ∀ name args, motive (.atom name args))
    (negation : ∀ operand, motive operand → motive (.negation operand))
    (junction : ∀ op operands, (∀ operand ∈ operands, motive operand) →
      motive (.junction op operands)) (predicate : Predicate) : motive predicate :=
  @Predicate.rec motive (fun condition => ∀ body ∈ condition, motive body)
    (fun predicates => ∀ predicate ∈ predicates, motive predicate)
    quantification atom negation junction
    (fun _ absent => nomatch absent)
    (fun _ present _ member => Option.mem_some.mp member ▸ present)
    (fun _ member => absurd member List.not_mem_nil)
    (fun _ _ atHead inRest child member =>
      (List.mem_cons.mp member).elim (fun same => same ▸ atHead) (inRest child)) predicate

/-! Shorthands for building predicates. -/

def forAll (bound : String) (condition : Predicate) : Predicate :=
  .quantification .universal (some bound) (some condition)

def thereIs (bound : String) (condition : Predicate) : Predicate :=
  .quantification .existential (some bound) (some condition)

def all (operands : List Predicate) : Predicate := .junction .and operands

def any (operands : List Predicate) : Predicate := .junction .or operands

end Predicate

/-- A tree of either sort. Snapshots hold lists of items. -/
inductive Item where
  | expression (tree : Expr)
  | predicate (tree : Predicate)
  deriving Repr, Inhabited

def Item.sort : Item → String
  | .expression _ => "expression"
  | .predicate _ => "predicate"

end ConstraintTree
