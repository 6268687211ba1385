import ConstraintTree.Proofs.Nodes

namespace ConstraintTree

/-- A walk that keeps notes and fails with the kind of a node. -/
abbrev Recording (β : Type) := EStateM NodeKind (List β)

/-- Notes the label of a node, fails if the node is of the rejected kind, and goes on otherwise. -/
def record (label : Item → β) (rejected : NodeKind) (node : Item) (goOn : Recording β Unit) :
    Recording β Unit := do
  modify (· ++ [label node])
  if node.kind = rejected then throw rejected
  goOn

/-- A visitor that records every node it is called on, and goes on by having the children accept it in
the order of their fields, absent ones skipped, until one of them fails. -/
structure Methods.Records (methods : Methods (Recording β Unit)) (label : Item → β)
    (rejected : NodeKind) : Prop where
  column : ∀ reference, methods.expr.column reference =
    record label rejected (.expression (.column reference)) (pure ())
  literal : ∀ value, methods.expr.literal value =
    record label rejected (.expression (.literal value)) (pure ())
  binary : ∀ op left right, methods.expr.binary op left right =
    record label rejected (.expression (.binary op left right)) do
      left.accept methods.expr
      right.accept methods.expr
  unary : ∀ op operand, methods.expr.unary op operand =
    record label rejected (.expression (.unary op operand)) (operand.accept methods.expr)
  call : ∀ name args, methods.expr.call name args =
    record label rejected (.expression (.call name args)) (forM args (Expr.accept methods.expr))
  between : ∀ test lower upper negated, methods.expr.between test lower upper negated =
    record label rejected (.expression (.between test lower upper negated)) do
      forM test (Expr.accept methods.expr)
      forM lower (Expr.accept methods.expr)
      forM upper (Expr.accept methods.expr)
  inList : ∀ tested choices negated, methods.expr.inList tested choices negated =
    record label rejected (.expression (.inList tested choices negated)) do
      tested.accept methods.expr
      forM choices (Expr.accept methods.expr)
  dimArray : ∀ elements, methods.expr.dimArray elements =
    record label rejected (.expression (.dimArray elements)) (pure ())
  quantification : ∀ quantifier bound condition,
    methods.predicate.quantification quantifier bound condition =
      record label rejected (.predicate (.quantification quantifier bound condition))
        (forM condition (Predicate.accept methods.predicate))
  atom : ∀ name args, methods.predicate.atom name args =
    record label rejected (.predicate (.atom name args)) (forM args (Expr.accept methods.expr))
  negation : ∀ operand, methods.predicate.negation operand =
    record label rejected (.predicate (.negation operand)) (operand.accept methods.predicate)
  junction : ∀ op operands, methods.predicate.junction op operands =
    record label rejected (.predicate (.junction op operands))
      (forM operands (Predicate.accept methods.predicate))

/-! Walks over lists. -/

private theorem record_goOn (label : Item → β) (rejected : NodeKind) (node : Item)
    (goOn : Recording β Unit) :
    record label rejected node goOn =
      (do record label rejected node (pure ()); goOn) := by
  simp only [record, bind_assoc]
  congr 1
  funext _
  split <;> simp

/-- What each of the values is walked with is walked with one behind another. -/
theorem forM_flatMap {values : List α} {visit : α → Recording β Unit} {nodes : α → List γ}
    {step : γ → Recording β Unit} (each : ∀ value ∈ values, visit value = forM (nodes value) step) :
    forM values visit = forM (values.flatMap nodes) step := by
  induction values with
  | nil => rfl
  | cons head rest ih =>
    have inRest := ih fun value member => each value (List.mem_cons_of_mem _ member)
    rw [List.forM_cons, inRest, each head List.mem_cons_self, List.flatMap_cons, List.forM_append]

/-- A walk over a list of nodes records them up to the first one of the rejected kind, and all of them
if there is none. -/
theorem forM_record (label : Item → β) (rejected : NodeKind) (nodes : List Item) (before : List β) :
    forM nodes (fun node => record label rejected node (pure ())) before =
      if rejected ∈ nodes.map Item.kind then
        .error rejected
          (before ++ (nodes.take ((nodes.map Item.kind).idxOf rejected + 1)).map label)
      else .ok () (before ++ nodes.map label) := by
  induction nodes generalizing before with
  | nil =>
    simp only [List.map_nil, List.not_mem_nil, if_false, List.append_nil]
    rfl
  | cons node rest ih =>
    rw [List.forM_cons]
    by_cases here : node.kind = rejected
    · have failed : record label rejected node (pure ()) before =
          .error rejected (before ++ [label node]) := by
        rw [record, if_pos here]
        rfl
      change EStateM.bind _ _ before = _
      rw [EStateM.bind, failed]
      simp [here]
    · have noted : record label rejected node (pure ()) before = .ok () (before ++ [label node]) := by
        rw [record, if_neg here]
        rfl
      change EStateM.bind _ _ before = _
      rw [EStateM.bind, noted]
      dsimp only
      have apart : (node.kind == rejected) = false := by simpa using here
      rw [ih]
      simp [Ne.symm here, List.idxOf_cons, apart]

/-! A walk over a tree is one over the list of its nodes. -/

namespace Methods.Records

variable {methods : Methods (Recording β Unit)} {label : Item → β} {rejected : NodeKind}
  (records : methods.Records label rejected)

include records

theorem accept_eq (item : Item) :
    item.accept methods = record label rejected item (forM item.children (Item.accept methods)) := by
  cases item with
  | expression tree =>
    cases tree with
    | column reference => exact records.column reference
    | literal value => exact records.literal value
    | binary op left right =>
      refine (records.binary op left right).trans ?_
      simp [Item.children, Expr.children, Item.accept]
    | unary op operand =>
      refine (records.unary op operand).trans ?_
      simp [Item.children, Expr.children, Item.accept]
    | call name args =>
      refine (records.call name args).trans ?_
      simp [Item.children, Expr.children, Item.accept]
    | between test lower upper negated =>
      refine (records.between test lower upper negated).trans ?_
      cases test <;> cases lower <;> cases upper <;> simp [Item.children, Expr.children, Item.accept]
    | inList tested choices negated =>
      refine (records.inList tested choices negated).trans ?_
      simp [Item.children, Expr.children, Item.accept]
    | dimArray elements => exact records.dimArray elements
  | predicate tree =>
    cases tree with
    | quantification quantifier bound condition =>
      refine (records.quantification quantifier bound condition).trans ?_
      cases condition <;> simp [Item.children, Item.accept]
    | atom name args =>
      refine (records.atom name args).trans ?_
      simp [Item.children, Item.accept]
    | negation operand =>
      refine (records.negation operand).trans ?_
      simp [Item.children, Item.accept]
    | junction op operands =>
      refine (records.junction op operands).trans ?_
      simp [Item.children, Item.accept]

/-- The walk goes through the list of the nodes and makes one record at each. -/
theorem accept_eq_forM (item : Item) :
    item.accept methods = forM item.nodes fun node => record label rejected node (pure ()) := by
  induction item using Item.induct with
  | node item inChildren =>
    rw [records.accept_eq, record_goOn, forM_flatMap inChildren, Item.nodes_eq, List.forM_cons]

/-- The walk records the nodes up to the first one of the rejected kind. -/
theorem accept_eq_ite (item : Item) (before : List β) :
    item.accept methods before =
      if rejected ∈ item.kinds then
        .error rejected
          (before ++ (item.nodes.take (item.kinds.idxOf rejected + 1)).map label)
      else .ok () (before ++ item.nodes.map label) := by
  rw [records.accept_eq_forM, forM_record]
  rfl

end Methods.Records

/-! The walks of the library are such walks. -/

namespace Visitor

def rejecting (rejected : NodeKind) : Visitor where
  rejects kind := kind == rejected

theorem accept_expr (visitor : Visitor) (expr : Expr) :
    expr.accept visitor.methods.expr = visitor.walkExpr expr := by
  cases expr <;> rfl

theorem accept_predicate (visitor : Visitor) (predicate : Predicate) :
    predicate.accept visitor.methods.predicate = visitor.walkPredicate predicate := by
  cases predicate <;> rfl

theorem walkExprs_eq_forM (visitor : Visitor) (exprs : List Expr) :
    visitor.walkExprs exprs = forM exprs (Expr.accept visitor.methods.expr) := by
  induction exprs with
  | nil => rfl
  | cons head rest ih => rw [walkExprs, ih, List.forM_cons, accept_expr]

private theorem walkOperand_eq_forM (visitor : Visitor) (operand : Option Expr) :
    visitor.walkOperand operand = forM operand (Expr.accept visitor.methods.expr) := by
  cases operand with
  | none => rfl
  | some expr => rw [walkOperand, Option.forM_some, accept_expr]

private theorem walkPredicates_eq_forM (visitor : Visitor) (predicates : List Predicate) :
    visitor.walkPredicates predicates =
      forM predicates (Predicate.accept visitor.methods.predicate) := by
  induction predicates with
  | nil => rfl
  | cons head rest ih => rw [walkPredicates, ih, List.forM_cons, accept_predicate]

private theorem walkCondition_eq_forM (visitor : Visitor) (condition : Option Predicate) :
    visitor.walkCondition condition =
      forM condition (Predicate.accept visitor.methods.predicate) := by
  cases condition with
  | none => rfl
  | some body => rw [walkCondition, Option.forM_some, accept_predicate]

theorem meet_rejecting (rejected : NodeKind) (node : Item) (goOn : Walk Unit) :
    (rejecting rejected).meet node.kind goOn = record Item.kind rejected node goOn := by
  by_cases here : node.kind = rejected <;> simp [meet, rejecting, record, here]

/-- A visitor that rejects one kind of node records the kinds. -/
theorem records_rejecting (rejected : NodeKind) :
    (rejecting rejected).methods.Records Item.kind rejected where
  column reference := meet_rejecting rejected (.expression (.column reference)) _
  literal value := meet_rejecting rejected (.expression (.literal value)) _
  binary op left right := by
    rw [accept_expr, accept_expr, ← meet_rejecting]
    rfl
  unary op operand := by
    rw [accept_expr, ← meet_rejecting]
    rfl
  call name args := by
    rw [← walkExprs_eq_forM, ← meet_rejecting]
    rfl
  between test lower upper negated := by
    simp only [← walkOperand_eq_forM]
    rw [← meet_rejecting]
    rfl
  inList tested choices negated := by
    rw [accept_expr, ← walkExprs_eq_forM, ← meet_rejecting]
    rfl
  dimArray elements := meet_rejecting rejected (.expression (.dimArray elements)) _
  quantification quantifier bound condition := by
    rw [← walkCondition_eq_forM, ← meet_rejecting]
    rfl
  atom name args := by
    rw [← walkExprs_eq_forM, ← meet_rejecting]
    rfl
  negation operand := by
    rw [accept_predicate, ← meet_rejecting]
    rfl
  junction op operands := by
    rw [← walkPredicates_eq_forM, ← meet_rejecting]
    rfl

end Visitor

namespace Item

/-- The trail of such a walk ends with the first node of the rejected kind. -/
theorem trail_rejecting (rejected : NodeKind) (item : Item) :
    item.trail (.rejecting rejected) =
      { seen := item.kinds.take (item.kinds.idxOf rejected + 1)
        rejected := if rejected ∈ item.kinds then some rejected else none } := by
  have walked := (Visitor.records_rejecting rejected).accept_eq_ite item []
  by_cases present : rejected ∈ item.kinds
  · rw [if_pos present, List.map_take] at walked
    rw [trail, Visitor.walk, walked, if_pos present]
    rfl
  · have whole : item.kinds.take (item.kinds.idxOf rejected + 1) = item.kinds := by
      rw [List.idxOf_eq_length present]
      exact List.take_of_length_le (Nat.le_succ _)
    rw [if_neg present] at walked
    rw [trail, Visitor.walk, walked, if_neg present, whole]
    rfl

/-- A visitor that fails at one kind of node, and otherwise records the node and has its children accept
it, stops at the first node of that kind. It records the nodes of the tree in their order up to that
one, and all of them if there is none; it ends with the failure just if there is one. Every place of the
tree has its node once in this order. A walk that begins with the node of the root by itself goes the
same way, and so do the walks of the library, which record the kinds. -/
theorem accept_until_rejected {methods : Methods (Recording β Unit)} {label : Item → β}
    {rejected : NodeKind} (records : methods.Records label rejected) (item : Item)
    (before : List β) :
    (rejected ∈ item.kinds → item.accept methods before = .error rejected
      (before ++ (item.nodes.take (item.kinds.idxOf rejected + 1)).map label)) ∧
    (rejected ∉ item.kinds → item.accept methods before = .ok () (before ++ item.nodes.map label)) ∧
    (InOrder item.sites ∧
      ∀ address node, ⟨address, node⟩ ∈ item.sites ↔ item.at? address = some node) ∧
    (∀ node : Node, node.item = item → node.accept methods before = item.accept methods before) ∧
    item.trail (.rejecting rejected) =
      { seen := item.kinds.take (item.kinds.idxOf rejected + 1)
        rejected := if rejected ∈ item.kinds then some rejected else none } := by
  have walked := records.accept_eq_ite item before
  refine ⟨fun present => ?_, fun absent => ?_, ?_, ?_, item.trail_rejecting rejected⟩
  · rw [walked, if_pos present]
  · rw [walked, if_neg absent]
  · exact ⟨item.inOrder_sites, fun _ _ => mem_sites⟩
  · rintro node rfl
    rw [node.accept_item]

/-- A range test without a tested operand, as the first argument of a predicate under a quantifier. -/
def guardedRange : Item :=
  .predicate (.thereIs "x" (.atom "p"
    [.between none (some (.integer 1)) (some (.named "high")) false, .named "x"]))

/-- A visitor that rejects literals meets neither the other bound nor the second argument. -/
theorem accept_until_rejected_guarded :
    guardedRange.accept (Visitor.rejecting (.expression .literal)).methods [] =
        .error (.expression .literal) [.predicate .quantification, .predicate .atom,
          .expression .between, .expression .literal] ∧
      guardedRange.kinds = [.predicate .quantification, .predicate .atom, .expression .between,
        .expression .literal, .expression .column, .expression .column] := by
  have kinds : guardedRange.kinds = [.predicate .quantification, .predicate .atom,
    .expression .between, .expression .literal, .expression .column, .expression .column] := rfl
  have records := Visitor.records_rejecting (.expression .literal)
  obtain ⟨stopped, -⟩ := accept_until_rejected records guardedRange []
  refine ⟨(stopped (by simp [kinds])).trans ?_, kinds⟩
  rfl

end Item
end ConstraintTree
