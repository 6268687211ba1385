import ConstraintTree.Snapshot.Encoding

/-!
How deep a tree nests, and which trees can be stored. Depth counts the child fields that are open at
once while the tree is read, so a field counts even where it holds nothing. The stored form of a tree
is long enough for its depth: each level takes at least the four bytes of a variant.
-/
namespace ConstraintTree

/-- The greatest depth in a list, and nothing for an empty one. -/
def deepest (depth : α → Nat) (values : List α) : Nat :=
  values.foldr (fun value below => max (depth value) below) 0

@[simp] theorem deepest_nil (depth : α → Nat) : deepest depth [] = 0 := rfl

@[simp] theorem deepest_cons (depth : α → Nat) (head : α) (rest : List α) :
    deepest depth (head :: rest) = max (depth head) (deepest depth rest) := rfl

@[simp] theorem deepest_zero (values : List α) : deepest (fun _ => 0) values = 0 := by
  induction values with
  | nil => rfl
  | cons head rest ih => simp [ih]

theorem deepest_le_iff {depth : α → Nat} {values : List α} {bound : Nat} :
    deepest depth values ≤ bound ↔ ∀ value ∈ values, depth value ≤ bound := by
  induction values with
  | nil => simp
  | cons head rest ih => simp only [deepest_cons, Nat.max_le, ih, List.forall_mem_cons]

theorem depth_le_deepest (depth : α → Nat) {values : List α} {value : α} (member : value ∈ values) :
    depth value ≤ deepest depth values :=
  deepest_le_iff.mp (Nat.le_refl _) value member

namespace Expr

mutual

/-- The most child fields that are open at once while the expression is read. -/
def depth : Expr → Nat
  | .column _ | .literal _ | .dimArray _ => 0
  | .binary _ left right => max (depth left) (depth right) + 1
  | .unary _ operand => depth operand + 1
  | .call _ args => depthEach args + 1
  | .between test lower upper _ =>
    max (depthOperand test) (max (depthOperand lower) (depthOperand upper)) + 1
  | .inList tested choices _ => max (depth tested) (depthEach choices) + 1

def depthEach : List Expr → Nat
  | [] => 0
  | head :: rest => max (depth head) (depthEach rest)

def depthOperand : Option Expr → Nat
  | some operand => depth operand
  | none => 0

end

theorem depthEach_eq (exprs : List Expr) : depthEach exprs = deepest depth exprs := by
  induction exprs with
  | nil => rfl
  | cons head rest ih => simp [depthEach, ih]

theorem depthOperand_eq (operand : Option Expr) :
    depthOperand operand = (operand.map depth).getD 0 := by
  cases operand <;> rfl

end Expr

namespace Predicate

mutual

def depth : Predicate → Nat
  | .quantification _ _ condition => depthCondition condition + 1
  | .atom _ args => deepest Expr.depth args + 1
  | .negation operand => depth operand + 1
  | .junction _ operands => depthEach operands + 1

def depthEach : List Predicate → Nat
  | [] => 0
  | head :: rest => max (depth head) (depthEach rest)

def depthCondition : Option Predicate → Nat
  | some condition => depth condition
  | none => 0

end

theorem depthEach_eq (predicates : List Predicate) :
    depthEach predicates = deepest depth predicates := by
  induction predicates with
  | nil => rfl
  | cons head rest ih => simp [depthEach, ih]

theorem depthCondition_eq (condition : Option Predicate) :
    depthCondition condition = (condition.map depth).getD 0 := by
  cases condition <;> rfl

end Predicate

def Item.depth : Item → Nat
  | .expression tree => tree.depth
  | .predicate tree => tree.depth

/-! The stored form counts the bytes of a text and the members of a list in eight bytes. -/

/-- A length that eight bytes hold. -/
def Countable (length : Nat) : Prop := length < UInt64.size

instance (length : Nat) : Decidable (Countable length) :=
  inferInstanceAs (Decidable (length < UInt64.size))

/-- A text whose bytes eight bytes can count. -/
def Utf8.Countable (text : String) : Prop := ConstraintTree.Countable (encode text).length

instance (text : String) : Decidable (Utf8.Countable text) :=
  inferInstanceAs (Decidable (Countable (Utf8.encode text).length))

/-- Only texts can make a literal too long. -/
def Literal.Storable : Literal → Prop
  | .text content => Utf8.Countable content
  | .null | .boolean _ | .integer _ | .number _ => True

structure Column.Storable (column : Column) : Prop where
  owned : ∀ table ∈ column.table, Utf8.Countable table
  named : Utf8.Countable column.name

/-- Expressions of which all texts and lists can be counted. -/
inductive Expr.Storable : Expr → Prop where
  | column (storable : reference.Storable) : Storable (.column reference)
  | literal (storable : value.Storable) : Storable (.literal value)
  | binary (op : BinaryOp) (left : Storable leftExpr) (right : Storable rightExpr) :
      Storable (.binary op leftExpr rightExpr)
  | unary (op : UnaryOp) (operand : Storable expr) : Storable (.unary op expr)
  | call (named : Utf8.Countable name) (few : Countable args.length)
      (each : ∀ arg ∈ args, Storable arg) : Storable (.call name args)
  | between (negated : Bool) (test : ∀ expr ∈ tested, Storable expr)
      (lower : ∀ expr ∈ low, Storable expr) (upper : ∀ expr ∈ high, Storable expr) :
      Storable (.between tested low high negated)
  | inList (negated : Bool) (operand : Storable tested) (few : Countable choices.length)
      (each : ∀ choice ∈ choices, Storable choice) : Storable (.inList tested choices negated)
  | dimArray (few : Countable elements.length)
      (each : ∀ element ∈ elements, Utf8.Countable element.name) : Storable (.dimArray elements)

inductive Predicate.Storable : Predicate → Prop where
  | quantification (quantifier : Quantifier) (named : ∀ name ∈ bound, Utf8.Countable name)
      (body : ∀ predicate ∈ condition, Storable predicate) :
      Storable (.quantification quantifier bound condition)
  | atom (named : Utf8.Countable name) (few : Countable args.length)
      (each : ∀ arg ∈ args, arg.Storable) : Storable (.atom name args)
  | negation (operand : Storable predicate) : Storable (.negation predicate)
  | junction (op : Junction) (few : Countable operands.length)
      (each : ∀ operand ∈ operands, Storable operand) : Storable (.junction op operands)

def Item.Storable : Item → Prop
  | .expression tree => tree.Storable
  | .predicate tree => tree.Storable

/-! Every level of a tree takes at least four bytes. -/

@[simp] theorem Bytes.length_ofVariant [DecidableEq α] [Listed α] (value : α) :
    (Bytes.ofVariant value).length = 4 := Bytes.length_ofNat 4 _

@[simp] theorem Bytes.length_ofLength (length : Nat) : (Bytes.ofLength length).length = 8 :=
  Bytes.length_ofNat 8 _

/-- A list whose members are long enough for their depth is so too. -/
theorem deepest_le_length {depth : α → Nat} {write : α → Bytes} {values : List α}
    (each : ∀ value ∈ values, 4 * (depth value + 1) ≤ (write value).length) :
    4 * deepest depth values ≤ (values.flatMap write).length := by
  induction values with
  | nil => simp
  | cons head rest ih =>
    have atHead := each head List.mem_cons_self
    have inRest := ih fun value member => each value (List.mem_cons_of_mem _ member)
    simp only [deepest_cons, List.flatMap_cons, List.length_append]
    omega

namespace Expr

theorem depthOperand_le_length {operand : Option Expr}
    (bound : ∀ expr ∈ operand, 4 * (expr.depth + 1) ≤ expr.encode.length) :
    4 * depthOperand operand + 1 ≤ (encodeOperand operand).length := by
  cases operand with
  | none => simp [depthOperand, encodeOperand]
  | some expr =>
    have inside := bound expr rfl
    simp only [depthOperand, encodeOperand, List.length_cons]
    omega

theorem depth_le_length (expr : Expr) : 4 * (expr.depth + 1) ≤ expr.encode.length := by
  induction expr using Expr.induct with
  | column | literal | dimArray => simp [depth, encode]
  | binary op left right inLeft inRight =>
    simp only [depth, encode, List.length_append, Bytes.length_ofVariant]
    omega
  | unary op operand inOperand =>
    simp only [depth, encode, List.length_append, Bytes.length_ofVariant]
    omega
  | call name args inArgs =>
    have listed := deepest_le_length inArgs
    simp only [depth, encode, depthEach_eq, encodeEach_eq_flatMap, List.length_append,
      Bytes.length_ofVariant, Bytes.length_ofLength]
    omega
  | between test lower upper negated inTest inLower inUpper =>
    have first := depthOperand_le_length inTest
    have second := depthOperand_le_length inLower
    have third := depthOperand_le_length inUpper
    simp only [depth, encode, List.length_append, Bytes.length_ofVariant, Bytes.ofFlag,
      List.length_singleton]
    omega
  | inList tested choices negated inTested inChoices =>
    have listed := deepest_le_length inChoices
    simp only [depth, encode, depthEach_eq, encodeEach_eq_flatMap, List.length_append,
      Bytes.length_ofVariant, Bytes.length_ofLength]
    omega

end Expr

namespace Predicate

theorem depth_le_length (predicate : Predicate) :
    4 * (predicate.depth + 1) ≤ predicate.encode.length := by
  induction predicate using Predicate.induct with
  | quantification quantifier bound condition inCondition =>
    cases condition with
    | none =>
      simp only [depth, depthCondition, encode, List.length_append, Bytes.length_ofVariant]
      omega
    | some body =>
      have inside := inCondition body rfl
      simp only [depth, depthCondition, encode, encodeCondition, List.length_append,
        Bytes.length_ofVariant, List.length_cons]
      omega
  | atom name args =>
    have listed := deepest_le_length fun arg (_ : arg ∈ args) => arg.depth_le_length
    simp only [depth, encode, Bytes.ofList, List.length_append, Bytes.length_ofVariant,
      Bytes.length_ofLength]
    omega
  | negation operand inOperand =>
    simp only [depth, encode, List.length_append, Bytes.length_ofVariant]
    omega
  | junction op operands inOperands =>
    have listed := deepest_le_length inOperands
    simp only [depth, encode, depthEach_eq, encodeEach_eq_flatMap, List.length_append,
      Bytes.length_ofVariant, Bytes.length_ofLength]
    omega

end Predicate

theorem Item.depth_le_length (item : Item) : 4 * (item.depth + 1) ≤ item.encode.length := by
  cases item with
  | expression tree =>
    have inside := tree.depth_le_length
    simp only [depth, encode, List.length_append]
    omega
  | predicate tree =>
    have inside := tree.depth_le_length
    simp only [depth, encode, List.length_append]
    omega

end ConstraintTree
