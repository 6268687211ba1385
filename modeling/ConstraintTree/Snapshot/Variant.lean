import ConstraintTree.Predicate

namespace ConstraintTree

/-- A type whose values can be listed, each exactly once. -/
class Listed (α : Type) where
  values : List α
  nodup : values.Nodup
  complete : ∀ value, value ∈ values

namespace Listed

variable {α : Type} [DecidableEq α] [Listed α]

def position (value : α) : Nat := (values : List α).idxOf value

theorem position_lt (value : α) : position value < (values : List α).length :=
  List.idxOf_lt_length_of_mem (complete value)

theorem getElem?_position (value : α) : (values : List α)[position value]? = some value :=
  List.getElem?_eq_some_iff.mpr ⟨position_lt value, List.getElem_idxOf (position_lt value)⟩

theorem position_of_getElem? {index : Nat} {value : α}
    (found : (values : List α)[index]? = some value) : position value = index := by
  obtain ⟨bound, same⟩ := List.getElem?_eq_some_iff.mp found
  rw [← same]
  exact nodup.idxOf_getElem index bound

end Listed

instance : Listed BinaryOp where
  values := [.add, .sub, .mul, .div, .mod, .eq, .ne, .lt, .le, .gt, .ge, .and, .or, .concat, .like]
  nodup := by decide
  complete := by intro value; cases value <;> decide

instance : Listed UnaryOp where
  values := [.not, .minus, .isNull, .isNotNull]
  nodup := by decide
  complete := by intro value; cases value <;> decide

instance : Listed Quantifier where
  values := [.universal, .existential]
  nodup := by decide
  complete := by intro value; cases value <;> decide

instance : Listed Junction where
  values := [.and, .or]
  nodup := by decide
  complete := by intro value; cases value <;> decide

instance : Listed ExprKind where
  values := [.column, .literal, .binary, .unary, .call, .between, .inList, .dimArray]
  nodup := by decide
  complete := by intro value; cases value <;> decide

instance : Listed PredicateKind where
  values := [.quantification, .atom, .negation, .junction]
  nodup := by decide
  complete := by intro value; cases value <;> decide

/-- The constructor of a literal, in the order of its stored variants. -/
inductive LiteralKind where
  | null | boolean | integer | number | text
  deriving DecidableEq, Repr, Inhabited

instance : Listed LiteralKind where
  values := [.null, .boolean, .integer, .number, .text]
  nodup := by decide
  complete := by intro value; cases value <;> decide

/-- The sort of an item, in the order of its stored variants. -/
inductive ItemKind where
  | expression | predicate
  deriving DecidableEq, Repr, Inhabited

instance : Listed ItemKind where
  values := [.expression, .predicate]
  nodup := by decide
  complete := by intro value; cases value <;> decide

end ConstraintTree
