import ConstraintTree.Proofs.Layout.Leaves
import ConstraintTree.Rendering
import ConstraintTree.Validator

namespace ConstraintTree

def Literal.gaps (literal : Literal) : List Gap :=
  if literal.isFinite then [] else [.finiteNumber]

/-- One gap stands for all numbers of a dimension. -/
def DimElement.gaps (element : DimElement) : List Gap :=
  if element.isFinite then [] else [.finiteNumber]

namespace Expr

mutual

/-- The gaps that a walk meets. An empty list is missed where its members would be. -/
def gaps : Expr → List Gap
  | .column _ => []
  | .literal value => value.gaps
  | .binary _ left right => gaps left ++ gaps right
  | .unary _ operand => gaps operand
  | .call _ args => gapsEach args
  | .between test lower upper _ =>
    gapsOr .betweenTest test ++ gapsOr .betweenBegin lower ++ gapsOr .betweenEnd upper
  | .inList tested choices _ =>
    gaps tested ++ (if choices.isEmpty then [.inListItems] else gapsEach choices)
  | .dimArray elements =>
    if elements.isEmpty then [.dimArrayElements] else elements.flatMap DimElement.gaps

def gapsEach : List Expr → List Gap
  | [] => []
  | head :: rest => gaps head ++ gapsEach rest

/-- The gaps of an operand, or the one that its absence leaves. -/
def gapsOr (absent : Gap) : Option Expr → List Gap
  | some operand => gaps operand
  | none => [absent]

end

theorem gapsEach_eq_flatMap (exprs : List Expr) : gapsEach exprs = exprs.flatMap gaps := by
  induction exprs with
  | nil => rfl
  | cons head rest ih => simp [gapsEach, ih]

example : (between none (some (inList (number ⟨0x7FF8000000000000⟩) [] true)) none false).gaps =
    [.betweenTest, .finiteNumber, .inListItems, .betweenEnd] := by decide

end Expr

namespace Predicate

mutual

def gaps : Predicate → List Gap
  | .quantification _ bound condition =>
    (if bound.isSome then [] else [.quantifiedVariable]) ++ gapsOrCondition condition
  | .atom _ args => args.flatMap Expr.gaps
  | .negation operand => gaps operand
  | .junction _ operands =>
    if operands.isEmpty then [.connectiveOperands] else gapsEach operands

def gapsEach : List Predicate → List Gap
  | [] => []
  | head :: rest => gaps head ++ gapsEach rest

def gapsOrCondition : Option Predicate → List Gap
  | some condition => gaps condition
  | none => [.quantifiedCondition]

end

theorem gapsEach_eq_flatMap (predicates : List Predicate) :
    gapsEach predicates = predicates.flatMap gaps := by
  induction predicates with
  | nil => rfl
  | cons head rest ih => simp [gapsEach, ih]

end Predicate

def Item.gaps : Item → List Gap
  | .expression tree => tree.gaps
  | .predicate tree => tree.gaps

/-! What a validator notes. -/

namespace Validator

theorem missing_noteUnless (validator : Validator) (present : Bool) (gap : Gap) :
    (validator.noteUnless present gap).missing =
      validator.missing ++ (if present then [] else [gap]) := by
  cases present <;> simp [noteUnless]

/-- A visitor notes the gaps of what it visits, behind all that is noted already. -/
def Notes (visit : Validator → α → Validator) (gaps : α → List Gap) (value : α) : Prop :=
  ∀ validator, (visit validator value).missing = validator.missing ++ gaps value

theorem Notes.fold {visit : Validator → α → Validator} {values : List α}
    (each : ∀ value ∈ values, Notes visit gaps value) (validator : Validator) :
    (values.foldl visit validator).missing = validator.missing ++ values.flatMap gaps := by
  induction values generalizing validator with
  | nil => simp
  | cons head rest ih =>
    have inRest := ih fun value member => each value (List.mem_cons_of_mem _ member)
    rw [List.foldl_cons, inRest, each head List.mem_cons_self]
    simp

theorem visitExprs_eq_foldl (validator : Validator) (exprs : List Expr) :
    validator.visitExprs exprs = exprs.foldl visitExpr validator := by
  induction exprs generalizing validator with
  | nil => rfl
  | cons head rest ih => rw [visitExprs, ih, List.foldl_cons]

private theorem visitPredicates_eq_foldl (validator : Validator) (predicates : List Predicate) :
    validator.visitPredicates predicates = predicates.foldl visitPredicate validator := by
  induction predicates generalizing validator with
  | nil => rfl
  | cons head rest ih => rw [visitPredicates, ih, List.foldl_cons]

theorem missing_visitOperand {operand : Option Expr}
    (notes : ∀ expr ∈ operand, Notes visitExpr Expr.gaps expr) (gap : Gap) (validator : Validator) :
    (validator.visitOperand gap operand).missing =
      validator.missing ++ Expr.gapsOr gap operand := by
  cases operand with
  | none => exact validator.missing_note gap
  | some expr => exact notes expr rfl validator

private theorem notes_dimElements (elements : List DimElement) (validator : Validator) :
    (elements.foldl (fun validator element => validator.noteUnless element.isFinite .finiteNumber)
      validator).missing = validator.missing ++ elements.flatMap DimElement.gaps :=
  Notes.fold (fun element _ validator => validator.missing_noteUnless element.isFinite _) validator

private theorem notes_visitExpr (expr : Expr) : Notes visitExpr Expr.gaps expr := by
  induction expr using Expr.induct with
  | column reference =>
    intro validator
    simp [visitExpr, Expr.gaps]
  | literal value =>
    intro validator
    exact validator.missing_noteUnless _ _
  | binary op left right inLeft inRight =>
    intro validator
    rw [visitExpr, inRight, inLeft, Expr.gaps, List.append_assoc]
  | unary op operand inOperand =>
    intro validator
    rw [visitExpr, inOperand, Expr.gaps]
  | call name args inArgs =>
    intro validator
    rw [visitExpr, visitExprs_eq_foldl, Notes.fold inArgs, Expr.gaps, Expr.gapsEach_eq_flatMap]
  | between test lower upper negated inTest inLower inUpper =>
    intro validator
    rw [visitExpr, missing_visitOperand inUpper, missing_visitOperand inLower,
      missing_visitOperand inTest, Expr.gaps]
    simp only [List.append_assoc]
  | inList tested choices negated inTested inChoices =>
    intro validator
    rw [visitExpr, visitExprs_eq_foldl, Notes.fold inChoices, missing_noteUnless, inTested,
      Expr.gaps, Expr.gapsEach_eq_flatMap]
    cases choices <;> simp
  | dimArray elements =>
    intro validator
    rw [visitExpr, notes_dimElements, missing_noteUnless, Expr.gaps]
    cases elements <;> simp

private theorem notes_visitPredicate (predicate : Predicate) :
    Notes visitPredicate Predicate.gaps predicate := by
  induction predicate using Predicate.induct with
  | quantification quantifier bound condition inCondition =>
    intro validator
    cases condition with
    | none =>
      rw [visitPredicate, visitCondition, missing_note, missing_noteUnless, Predicate.gaps,
        Predicate.gapsOrCondition, List.append_assoc]
    | some body =>
      rw [visitPredicate, visitCondition, inCondition body rfl, missing_noteUnless, Predicate.gaps,
        Predicate.gapsOrCondition, List.append_assoc]
  | atom name args =>
    intro validator
    rw [visitPredicate, visitExprs_eq_foldl, Notes.fold fun arg _ => notes_visitExpr arg,
      Predicate.gaps]
  | negation operand inOperand =>
    intro validator
    rw [visitPredicate, inOperand, Predicate.gaps]
  | junction op operands inOperands =>
    intro validator
    rw [visitPredicate, visitPredicates_eq_foldl, Notes.fold inOperands, missing_noteUnless,
      Predicate.gaps, Predicate.gapsEach_eq_flatMap]
    cases operands <;> simp

theorem notes_visit (item : Item) : Notes visit Item.gaps item := by
  cases item with
  | expression tree => exact notes_visitExpr tree
  | predicate tree => exact notes_visitPredicate tree

end Validator

/-! What a layout has gaps for. -/

def Leaf.gaps : Leaf → List Gap
  | .literal value => value.gaps
  | .dimension element => element.gaps
  | .missing gap => [gap]
  | .column _ | .name _ => []

theorem Leaf.gaps_lexemes (leaf : Leaf) : leaf.lexemes.filterMap Lexeme.gap? = leaf.gaps := by
  cases leaf with
  | column reference =>
    rw [lexemes, Column.lexemes]
    cases reference.table <;> rfl
  | literal value =>
    rw [lexemes, Literal.lexemes, gaps, Literal.gaps]
    split
    · cases value with
      | boolean value => cases value <;> rfl
      | null | integer | number | text => rfl
    · rfl
  | dimension element =>
    rw [lexemes, DimElement.lexemes, gaps, DimElement.gaps]
    split <;> rfl
  | name text => rfl
  | missing gap => rfl

namespace Expr

theorem gapsOr_eq_leaves {operand : Option Expr}
    (same : ∀ expr ∈ operand, expr.gaps = expr.leaves.flatMap Leaf.gaps) (absent : Gap) :
    gapsOr absent operand = (leavesOr absent operand).flatMap Leaf.gaps := by
  cases operand with
  | none => rfl
  | some expr => exact same expr rfl

/-- The gaps of an expression are those of its leaves. -/
theorem gaps_eq_leaves (expr : Expr) : expr.gaps = expr.leaves.flatMap Leaf.gaps := by
  induction expr using Expr.induct with
  | column | literal => simp [gaps, leaves, Leaf.gaps]
  | binary op left right inLeft inRight => rw [gaps, leaves, inLeft, inRight, List.flatMap_append]
  | unary op operand inOperand => rw [gaps, leaves, inOperand]
  | call name args inArgs =>
    rw [gaps, leaves, gapsEach_eq_flatMap, leavesEach_eq_flatMap, Leaf.flatMap_each inArgs]
    rfl
  | between test lower upper negated inTest inLower inUpper =>
    simp only [gaps, leaves, gapsOr_eq_leaves inTest, gapsOr_eq_leaves inLower,
      gapsOr_eq_leaves inUpper, List.flatMap_append]
  | inList tested choices negated inTested inChoices =>
    rw [gaps, leaves, List.flatMap_append, inTested]
    split
    · rfl
    · rw [gapsEach_eq_flatMap, leavesEach_eq_flatMap, Leaf.flatMap_each inChoices]
  | dimArray elements =>
    rw [gaps, leaves]
    split
    · rfl
    · rw [List.flatMap_map]
      rfl

end Expr

namespace Predicate

private theorem gapsOrCondition_eq_leaves {condition : Option Predicate}
    (same : ∀ body ∈ condition, body.gaps = body.leaves.flatMap Leaf.gaps) :
    gapsOrCondition condition = (leavesOrCondition condition).flatMap Leaf.gaps := by
  cases condition with
  | none => rfl
  | some body => exact same body rfl

theorem gaps_eq_leaves (predicate : Predicate) :
    predicate.gaps = predicate.leaves.flatMap Leaf.gaps := by
  induction predicate using Predicate.induct with
  | quantification quantifier bound condition inCondition =>
    cases bound <;> simp [gaps, leaves, gapsOrCondition_eq_leaves inCondition, Leaf.gaps]
  | atom name args =>
    rw [gaps, leaves, List.flatMap_cons, Leaf.flatMap_each fun arg _ => arg.gaps_eq_leaves]
    rfl
  | negation operand inOperand => rw [gaps, leaves, inOperand]
  | junction op operands inOperands =>
    rw [gaps, leaves]
    split
    · rfl
    · rw [gapsEach_eq_flatMap, leavesEach_eq_flatMap, Leaf.flatMap_each inOperands]

end Predicate

theorem Item.gaps_eq_leaves (item : Item) : item.gaps = item.leaves.flatMap Leaf.gaps := by
  cases item with
  | expression tree => exact tree.gaps_eq_leaves
  | predicate tree => exact tree.gaps_eq_leaves

/-- The layout of a tree has its gaps, in the order in which a walk meets them. -/
theorem Item.gaps_lexemes (dialect : Dialect) (item : Item) :
    Lexeme.gaps (item.lexemes dialect) = item.gaps := by
  have frames (lexeme : Lexeme) (frame : lexeme.isFrame = true) : lexeme.gap? = none := by
    cases lexeme with
    | space | opening | closing | comma | dot | bar | keyword | sign | spatial => rfl
    | name | integer | number | quoted | gap => cases frame
  rw [Lexeme.gaps, filterMap_lexemes frames, item.gaps_eq_leaves]
  congr 1
  funext leaf
  exact leaf.gaps_lexemes

/-- A rendering is made of a text and the gaps of the tree, in any dialect. -/
theorem Item.render_eq_ofGaps (dialect : Dialect) (item : Item) :
    item.render dialect = .ofGaps (Lexeme.text dialect (item.lexemes dialect)) item.gaps := by
  rw [render_eq, Rendering.ofLexemes, gaps_lexemes]

theorem Item.text_render (dialect : Dialect) (item : Item) :
    (item.render dialect).text = Lexeme.text dialect (item.lexemes dialect) := by
  rw [render_eq_ofGaps, Rendering.text_ofGaps]

theorem Item.missing_render (dialect : Dialect) (item : Item) :
    (item.render dialect).missing = item.gaps := by
  rw [render_eq_ofGaps, Rendering.missing_ofGaps]

theorem Item.isComplete_render (dialect : Dialect) (item : Item) :
    (item.render dialect).isComplete = item.gaps.isEmpty := by
  rw [render_eq_ofGaps, Rendering.isComplete_ofGaps]

theorem Item.validate_eq (item : Item) : item.validate = TreeError.unlessMissing item.gaps () := by
  rw [validate, Validator.finish, Validator.notes_visit]
  rfl

namespace TreeError

theorem unlessMissing_eq_ok_iff {missing : List Gap} {value found : α} :
    unlessMissing missing value = .ok found ↔ missing = [] ∧ value = found := by
  cases missing <;> simp [unlessMissing]

theorem unlessMissing_eq_error_iff {missing : List Gap} {value : α} {error : TreeError} :
    unlessMissing missing value = .error error ↔ missing ≠ [] ∧ .incomplete missing = error := by
  cases missing <;> simp [unlessMissing]

end TreeError

theorem Item.toComplete_render (dialect : Dialect) (item : Item) :
    (item.render dialect).toComplete =
      TreeError.unlessMissing item.gaps (Lexeme.text dialect (item.lexemes dialect)) := by
  rw [render_eq_ofGaps]
  cases item.gaps <;> rfl

namespace Validator

/-- A validator and the renderings agree on every row of trees, visited one after another and each
rendered in a dialect of its own: gap by gap, in order and with repeats, and both as the walk meets
them. So a validator is content exactly if all renderings are complete, and a single tree is refused
with the same gaps by both. -/
theorem finish_visitAll (rows : List (Item × Dialect)) :
    (visitAll {} (rows.map Prod.fst)).missing =
        rows.flatMap (fun row => (row.1.render row.2).missing) ∧
      (visitAll {} (rows.map Prod.fst)).missing = rows.flatMap (fun row => row.1.gaps) ∧
      ((visitAll {} (rows.map Prod.fst)).finish = .ok () ↔
        ∀ row ∈ rows, (row.1.render row.2).isComplete = true) ∧
      (visitAll {} (rows.map Prod.fst)).finish =
        TreeError.unlessMissing (rows.flatMap fun row => (row.1.render row.2).missing) () ∧
      ∀ (item : Item) (dialect : Dialect),
        (item.validate = .ok () ↔ ∃ text, (item.render dialect).toComplete = .ok text) ∧
        ∀ error, item.validate = .error error ↔ (item.render dialect).toComplete = .error error := by
  have walked : (visitAll {} (rows.map Prod.fst)).missing = rows.flatMap fun row => row.1.gaps := by
    rw [visitAll, Notes.fold fun item _ => notes_visit item, List.flatMap_map]
    rfl
  have rendered : rows.flatMap (fun row => (row.1.render row.2).missing) =
      rows.flatMap fun row => row.1.gaps := by
    simp only [Item.missing_render]
  refine ⟨walked.trans rendered.symm, walked, ?_, ?_, ?_⟩
  · rw [finish, walked, TreeError.unlessMissing_eq_ok_iff]
    simp [Item.isComplete_render]
  · rw [finish, walked, rendered]
  · intro item dialect
    rw [item.validate_eq, item.toComplete_render]
    refine ⟨?_, fun error => ?_⟩
    · simp [TreeError.unlessMissing_eq_ok_iff]
    · rw [TreeError.unlessMissing_eq_error_iff, TreeError.unlessMissing_eq_error_iff]

end Validator
end ConstraintTree
