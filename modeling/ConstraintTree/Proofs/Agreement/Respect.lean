import ConstraintTree.Proofs.Agreement.Settling
import ConstraintTree.Proofs.ColumnWalk
import ConstraintTree.Proofs.GapWalk
import ConstraintTree.Proofs.Snapshot.PrefixFree

namespace ConstraintTree

/-! What does not change when a tree is settled. -/

namespace Expr

theorem depthOperand_settled {operand : Option Expr}
    (same : ∀ expr ∈ operand, expr.settled.depth = expr.depth) :
    depthOperand (settledOperand operand) = depthOperand operand := by
  cases operand with
  | none => rfl
  | some expr => exact same expr rfl

theorem depthEach_settled {exprs : List Expr} (same : ∀ expr ∈ exprs, expr.settled.depth = expr.depth) :
    depthEach (settledEach exprs) = depthEach exprs := by
  induction exprs with
  | nil => rfl
  | cons head rest ih =>
    have inRest := ih fun expr member => same expr (List.mem_cons_of_mem _ member)
    rw [settledEach, depthEach, depthEach, same head List.mem_cons_self, inRest]

theorem depth_settled (expr : Expr) : expr.settled.depth = expr.depth := by
  induction expr using Expr.induct with
  | column | literal | dimArray => rfl
  | binary op left right inLeft inRight => simp [settled, depth, inLeft, inRight]
  | unary op operand inOperand => simp [settled, depth, inOperand]
  | call name args inArgs => simp [settled, depth, depthEach_settled inArgs]
  | between test lower upper negated inTest inLower inUpper =>
    simp [settled, depth, depthOperand_settled inTest, depthOperand_settled inLower,
      depthOperand_settled inUpper]
  | inList tested choices negated inTested inChoices =>
    simp [settled, depth, inTested, depthEach_settled inChoices]

end Expr

namespace Predicate

theorem depthEach_settled {predicates : List Predicate}
    (same : ∀ predicate ∈ predicates, predicate.settled.depth = predicate.depth) :
    depthEach (settledEach predicates) = depthEach predicates := by
  induction predicates with
  | nil => rfl
  | cons head rest ih =>
    have inRest := ih fun predicate member => same predicate (List.mem_cons_of_mem _ member)
    rw [settledEach, depthEach, depthEach, same head List.mem_cons_self, inRest]

theorem depth_settled (predicate : Predicate) : predicate.settled.depth = predicate.depth := by
  induction predicate using Predicate.induct with
  | quantification quantifier bound condition inCondition =>
    cases condition with
    | none => rfl
    | some body => simp [settled, settledCondition, depth, depthCondition, inCondition body rfl]
  | atom name args =>
    have each := Expr.depthEach_settled fun arg (_ : arg ∈ args) => arg.depth_settled
    rw [Expr.depthEach_eq, Expr.depthEach_eq, Expr.settledEach_eq_map] at each
    rw [settled, depth, depth, each]
  | negation operand inOperand => simp [settled, depth, inOperand]
  | junction op operands inOperands => simp [settled, depth, depthEach_settled inOperands]

end Predicate

namespace Item

theorem depth_settled (item : Item) : item.settled.depth = item.depth := by
  cases item with
  | expression tree => exact tree.depth_settled
  | predicate tree => exact tree.depth_settled

end Item

theorem Binary64.isFinite_settled (number : Binary64) : number.settled.isFinite = number.isFinite := by
  rw [settled]
  split
  · next negative =>
    subst negative
    rfl
  · rfl

theorem Literal.isFinite_settled (literal : Literal) :
    literal.settled.isFinite = literal.isFinite := by
  cases literal with
  | number value => exact value.isFinite_settled
  | null | boolean | integer | text => rfl

theorem DimElement.isFinite_settled (element : DimElement) :
    element.settled.isFinite = element.isFinite := by
  simp only [isFinite, settled, Binary64.isFinite_settled]

theorem Leaf.gaps_settled (leaf : Leaf) : leaf.settled.gaps = leaf.gaps := by
  cases leaf with
  | literal value => rw [settled, gaps, gaps, Literal.gaps, Literal.gaps, value.isFinite_settled]
  | dimension element =>
    rw [settled, gaps, gaps, DimElement.gaps, DimElement.gaps, element.isFinite_settled]
  | column | name | missing => rfl

private theorem Leaf.column?_settled (leaf : Leaf) : leaf.settled.column? = leaf.column? := by
  cases leaf <;> rfl

theorem Item.gaps_settled (item : Item) : item.settled.gaps = item.gaps := by
  rw [gaps_eq_leaves, gaps_eq_leaves, leaves_settled, List.flatMap_map]
  congr 1
  funext leaf
  exact leaf.gaps_settled

theorem Expr.columns_settled (expr : Expr) : expr.settled.columns = expr.columns := by
  have same : expr.settled.mentions = expr.mentions := by
    rw [mentions, mentions, leaves_settled, List.filterMap_map]
    congr 1
    funext leaf
    exact leaf.column?_settled
  rw [columns_eq, columns_eq, same]

private theorem Leaf.numbers_settled (leaf : Leaf) :
    leaf.settled.numbers = leaf.numbers.map .settled := by
  cases leaf with
  | literal value => cases value <;> rfl
  | column | name | dimension | missing => rfl

theorem Item.comparable_settled (item : Item) :
    Comparable item.settled.numbers ↔ Comparable item.numbers := by
  have settledEach : item.settled.numbers = item.numbers.map .settled := by
    rw [numbers, numbers, leaves_settled, List.flatMap_map, List.map_flatMap]
    congr 1
    funext leaf
    exact leaf.numbers_settled
  simp [settledEach, Comparable, Binary64.isNaN_settled]

/-! Agreement of whole trees. -/

namespace Item

/-- What agreement of trees is: they are the same when every negative zero is taken for zero, and hold no
not-a-number. -/
theorem agrees_iff {first second : Item} :
    first.agrees second = true ↔ first.settled = second.settled ∧ Comparable first.numbers :=
  first.settles second

theorem agrees_symm {first second : Item} (agree : first.agrees second = true) :
    second.agrees first = true := by
  obtain ⟨same, comparable⟩ := agrees_iff.mp agree
  have comparable' : Comparable second.numbers := by
    rwa [← comparable_settled, ← same, comparable_settled]
  exact agrees_iff.mpr ⟨same.symm, comparable'⟩

theorem agrees_trans {first second third : Item} (agree : first.agrees second = true)
    (agree' : second.agrees third = true) : first.agrees third = true := by
  obtain ⟨same, comparable⟩ := agrees_iff.mp agree
  obtain ⟨same', -⟩ := agrees_iff.mp agree'
  exact agrees_iff.mpr ⟨same.trans same', comparable⟩

theorem gaps_of_agrees {first second : Item} (agree : first.agrees second = true) :
    first.gaps = second.gaps := by
  rw [← first.gaps_settled, (agrees_iff.mp agree).1, second.gaps_settled]

theorem depth_of_agrees {first second : Item} (agree : first.agrees second = true) :
    first.depth = second.depth := by
  rw [← first.depth_settled, (agrees_iff.mp agree).1, second.depth_settled]

/-- Without negative zeros agreement is identity. -/
theorem eq_of_agrees {first second : Item} (agree : first.agrees second = true)
    (positive : .negativeZero ∉ first.numbers) (positive' : .negativeZero ∉ second.numbers) :
    first = second := by
  rw [← settled_of_positive positive, (agrees_iff.mp agree).1, settled_of_positive positive']

end Item

theorem Expr.columns_of_agrees {left right : Expr}
    (agree : (Item.expression left).agrees (.expression right) = true) :
    left.columns = right.columns := by
  have same : left.settled = right.settled := Item.expression.inj (Item.agrees_iff.mp agree).1
  rw [← left.columns_settled, same, right.columns_settled]

namespace Snapshot

/-- Whether a stored snapshot is read back, and the reason if it is not, depends on how deep its items
nest and on nothing else. -/
theorem decode_of_depths {first second : Snapshot} (current : first.formVersion = version)
    (current' : second.formVersion = version) (writable : Writable first) (writable' : Writable second)
    (same : first.items.map Item.depth = second.items.map Item.depth) :
    (decode first.bytes).map (fun _ => ()) = (decode second.bytes).map fun _ => () := by
  have deep_iff (items : List Item) : (∃ item ∈ items, maxNesting < item.depth) ↔
      ∃ depth ∈ items.map Item.depth, maxNesting < depth := by
    constructor
    · rintro ⟨item, member, excess⟩
      exact ⟨_, List.mem_map_of_mem member, excess⟩
    · rintro ⟨_, member, excess⟩
      obtain ⟨item, present, rfl⟩ := List.mem_map.mp member
      exact ⟨item, present, excess⟩
  have shallow_of (items : List Item) (shallow : ¬∃ item ∈ items, maxNesting < item.depth) :
      ∀ item ∈ items, item.depth ≤ maxNesting :=
    fun item member => Nat.not_lt.mp fun excess => shallow ⟨item, member, excess⟩
  by_cases deep : ∃ item ∈ first.items, maxNesting < item.depth
  · have deep' : ∃ item ∈ second.items, maxNesting < item.depth := by
      rwa [deep_iff, ← same, ← deep_iff]
    have refused := decode_deep first current writable.few writable.storable [] deep
    have refused' := decode_deep second current' writable'.few writable'.storable [] deep'
    rw [List.append_nil] at refused refused'
    rw [refused, refused']
  · have shallow' : ¬∃ item ∈ second.items, maxNesting < item.depth := by
      rwa [deep_iff, ← same, ← deep_iff]
    have read := decode_shallow first current writable.few writable.storable [] writable.nonempty
      (shallow_of _ deep)
    have read' := decode_shallow second current' writable'.few writable'.storable []
      writable'.nonempty (shallow_of _ shallow')
    rw [List.append_nil] at read read'
    rw [read, read']
    rfl

end Snapshot

/-- Agreement compares trees part by part and numbers by value. It is symmetric and transitive, and a
tree agrees with itself unless it holds a not-a-number. Trees that agree have the same gaps, the same
columns and the same depth, so that a snapshot is read back with either of them in its place or with
neither; and without negative zeros they have the same text in every dialect and the same stored form. -/
theorem Item.agreement :
    (∀ left right : Binary64, left.agrees right = true ↔
      left.isNaN = false ∧ right.isNaN = false ∧ left.value = right.value) ∧
    (∀ first second : Item, first.agrees second = true → second.agrees first = true) ∧
    (∀ first second third : Item,
      first.agrees second = true → second.agrees third = true → first.agrees third = true) ∧
    (∀ item : Item, item.agrees item = true ↔ ∀ number ∈ item.numbers, number.isNaN = false) ∧
    ∀ first second : Item, first.agrees second = true →
      (∀ validator : Validator, (validator.visit first).missing = (validator.visit second).missing) ∧
      first.depth = second.depth ∧
      (∀ before after, Snapshot.Writable { items := before ++ first :: after } →
        Snapshot.Writable { items := before ++ second :: after } →
        ∃ written written', Snapshot.encode { items := before ++ first :: after } = .ok written ∧
          Snapshot.encode { items := before ++ second :: after } = .ok written' ∧
          (Snapshot.decode written).map (fun _ => ()) =
            (Snapshot.decode written').map fun _ => ()) ∧
      (∀ left right, first = .expression left → second = .expression right →
        left.columns = right.columns) ∧
      (.negativeZero ∉ first.numbers → .negativeZero ∉ second.numbers →
        (∀ dialect, first.render dialect = second.render dialect) ∧
        ∀ before after, Snapshot.encode { items := before ++ first :: after } =
          Snapshot.encode { items := before ++ second :: after }) := by
  refine ⟨fun _ _ => Binary64.agrees_iff_value, fun _ _ => agrees_symm, fun _ _ _ => agrees_trans,
    fun item => ?_, fun first second agree => ⟨fun validator => ?_, depth_of_agrees agree, ?_, ?_, ?_⟩⟩
  · rw [agrees_iff]
    exact and_iff_right rfl
  · rw [Validator.notes_visit, Validator.notes_visit, gaps_of_agrees agree]
  · intro before after writable writable'
    refine ⟨_, _, writable.encode_eq, writable'.encode_eq, ?_⟩
    refine Snapshot.decode_of_depths rfl rfl writable writable' ?_
    simp [depth_of_agrees agree]
  · rintro left right rfl rfl
    exact Expr.columns_of_agrees agree
  · intro positive positive'
    obtain rfl := eq_of_agrees agree positive positive'
    exact ⟨fun _ => rfl, fun _ _ => rfl⟩

/-- A sum with zero agrees with the same sum with negative zero, and is read back with it, though their
texts differ. -/
theorem Item.agreement_zeros :
    let sum (zero : Binary64) : Item := .expression (.binary .add (.named "x") (.number zero))
    let plain := sum ⟨0⟩
    let signed := sum .negativeZero
    plain.agrees signed = true ∧ signed.agrees plain = true ∧ signed.agrees signed = true ∧
      plain.depth = signed.depth ∧
      (∀ validator : Validator, (validator.visit plain).missing = (validator.visit signed).missing) ∧
      (∃ written written', Snapshot.encode { items := [plain] } = .ok written ∧
        Snapshot.encode { items := [signed] } = .ok written' ∧
        (Snapshot.decode written).map (fun _ => ()) = (Snapshot.decode written').map fun _ => ()) ∧
      (plain.render {}).text = "x + 0" ∧ (signed.render {}).text = "x + -0" := by
  intro sum plain signed
  obtain ⟨-, symmetric, transitive, -, respected⟩ := Item.agreement
  have agree : plain.agrees signed = true := by decide
  have agree' := symmetric plain signed agree
  have storable (zero : Binary64) : (sum zero).Storable :=
    .binary .add (.column ⟨nofun, by decide⟩) (.literal trivial)
  have writable (zero : Binary64) : Snapshot.Writable { items := [] ++ sum zero :: [] } := {
    nonempty := by simp
    few := (by decide : 1 < UInt64.size)
    storable := fun item member => List.mem_singleton.mp member ▸ storable zero }
  obtain ⟨missing, depth, readBack, -⟩ := respected plain signed agree
  exact ⟨agree, agree', transitive signed plain signed agree' agree, depth, missing,
    readBack [] [] (writable ⟨0⟩) (writable .negativeZero), by decide, by decide⟩

end ConstraintTree
