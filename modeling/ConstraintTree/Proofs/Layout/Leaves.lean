import ConstraintTree.Layout.Continuation

namespace ConstraintTree

/-- A part of a tree without parts of its own. -/
inductive Leaf where
  | column (reference : Column)
  | literal (value : Literal)
  /-- The name of a function, a predicate or a variable. -/
  | name (text : String)
  | dimension (element : DimElement)
  /-- A part that is not there. -/
  | missing (gap : Gap)
  deriving DecidableEq, Repr

namespace Expr

mutual

/-- The leaves that a walk meets. An empty list is missed where its members would be. -/
def leaves : Expr → List Leaf
  | .column reference => [.column reference]
  | .literal value => [.literal value]
  | .binary _ left right => leaves left ++ leaves right
  | .unary _ operand => leaves operand
  | .call name args => .name name :: leavesEach args
  | .between test lower upper _ =>
    leavesOr .betweenTest test ++ leavesOr .betweenBegin lower ++ leavesOr .betweenEnd upper
  | .inList tested choices _ =>
    leaves tested ++ (if choices.isEmpty then [.missing .inListItems] else leavesEach choices)
  | .dimArray elements =>
    if elements.isEmpty then [.missing .dimArrayElements] else elements.map .dimension

def leavesEach : List Expr → List Leaf
  | [] => []
  | head :: rest => leaves head ++ leavesEach rest

/-- The leaves of an operand, or what its absence leaves. -/
def leavesOr (absent : Gap) : Option Expr → List Leaf
  | some operand => leaves operand
  | none => [.missing absent]

end

theorem leavesEach_eq_flatMap (exprs : List Expr) : leavesEach exprs = exprs.flatMap leaves := by
  induction exprs with
  | nil => rfl
  | cons head rest ih => simp [leavesEach, ih]

end Expr

namespace Predicate

mutual

def leaves : Predicate → List Leaf
  | .quantification _ bound condition =>
    (match bound with
      | some name => .name name
      | none => .missing .quantifiedVariable) :: leavesOrCondition condition
  | .atom name args => .name name :: args.flatMap Expr.leaves
  | .negation operand => leaves operand
  | .junction _ operands =>
    if operands.isEmpty then [.missing .connectiveOperands] else leavesEach operands

def leavesEach : List Predicate → List Leaf
  | [] => []
  | head :: rest => leaves head ++ leavesEach rest

def leavesOrCondition : Option Predicate → List Leaf
  | some condition => leaves condition
  | none => [.missing .quantifiedCondition]

end

theorem leavesEach_eq_flatMap (predicates : List Predicate) :
    leavesEach predicates = predicates.flatMap leaves := by
  induction predicates with
  | nil => rfl
  | cons head rest ih => simp [leavesEach, ih]

end Predicate

def Item.leaves : Item → List Leaf
  | .expression tree => tree.leaves
  | .predicate tree => tree.leaves

namespace Leaf

/-- The names that a leaf is written with. -/
def names : Leaf → List String
  | .column reference => reference.table.toList ++ [reference.name]
  | .name text => [text]
  | .literal _ | .dimension _ | .missing _ => []

/-- What stands between quotes where the leaf is written. A dimension with a number that cannot be
spelled is not written. -/
def contents : Leaf → List String
  | .literal (.text content) => [content]
  | .dimension element => if element.isFinite then [element.name] else []
  | .column _ | .literal _ | .name _ | .missing _ => []

def lexemes : Leaf → List Lexeme
  | .column reference => reference.lexemes
  | .literal value => value.lexemes
  | .name text => [.name text]
  | .dimension element => element.lexemes
  | .missing gap => [.gap gap]

end Leaf

/-- All names of columns, tables, functions, predicates and variables. -/
def Item.names (item : Item) : List String := item.leaves.flatMap Leaf.names

/-- All string literals and names of written dimensions, in the order of the walk. -/
def Item.contents (item : Item) : List String := item.leaves.flatMap Leaf.contents

/-! What a layout takes from the tree. -/

namespace Lexeme

/-- Lexemes that a layout puts around the leaves of the tree. -/
def isFrame : Lexeme → Bool
  | .space | .opening | .closing | .comma | .dot | .bar | .keyword _ | .sign _ | .spatial _ => true
  | .name _ | .integer _ | .number _ | .quoted _ | .gap _ => false

/-- What a row takes from the tree. -/
def substance (row : List Lexeme) : List Lexeme := row.filter fun lexeme => !lexeme.isFrame

@[simp] theorem substance_nil : substance [] = [] := rfl

@[simp] theorem substance_append (first second : List Lexeme) :
    substance (first ++ second) = substance first ++ substance second := List.filter_append ..

/-- The frame does not count. -/
theorem substance_cons (lexeme : Lexeme) (rest : List Lexeme) :
    substance (lexeme :: rest) =
      if lexeme.isFrame then substance rest else lexeme :: substance rest := by
  cases frame : lexeme.isFrame <;> simp [substance, frame]

@[simp] theorem substance_parenthesized (body : List Lexeme) :
    substance (parenthesized body) = substance body := by
  simp [parenthesized, substance_cons, isFrame]

@[simp] theorem substance_parenthesizedIf (needed : Bool) (body : List Lexeme) :
    substance (parenthesizedIf needed body) = substance body := by
  cases needed <;> simp [parenthesizedIf]

@[simp] theorem substance_negationMark (negated : Bool) : substance (negationMark negated) = [] := by
  cases negated <;> rfl

/-- What stands between bodies does not count, if it is all frame. -/
theorem substance_intercalate {separator : List Lexeme} (frame : substance separator = [])
    (bodies : List (List Lexeme)) :
    substance (separator.intercalate bodies) = bodies.flatMap substance := by
  cases bodies with
  | nil => rfl
  | cons head rest =>
    rw [Expr.intercalate_cons, substance_append, List.flatMap_cons]
    congr 1
    induction rest with
    | nil => rfl
    | cons next rest ih => simp [frame, ih]

@[simp] theorem substance_commaSeparated (bodies : List (List Lexeme)) :
    substance (commaSeparated bodies) = bodies.flatMap substance := substance_intercalate rfl bodies

/-- Whatever is picked from a row without its frame is picked from its substance. -/
theorem filterMap_substance {pick : Lexeme → Option β}
    (frames : ∀ lexeme, lexeme.isFrame = true → pick lexeme = none) (row : List Lexeme) :
    (substance row).filterMap pick = row.filterMap pick := by
  rw [substance, List.filterMap_filter]
  congr 1
  funext lexeme
  cases frame : lexeme.isFrame with
  | true => simp [frames lexeme frame]
  | false => rfl

end Lexeme

/-- What a leaf is written with, apart from the frame. -/
def Leaf.substance (leaf : Leaf) : List Lexeme := Lexeme.substance leaf.lexemes

/-- Values that each come from their leaves. -/
theorem Leaf.flatMap_each {known : α → List β} {leaves : α → List Leaf} {turn : Leaf → List β}
    {values : List α} (same : ∀ value ∈ values, known value = (leaves value).flatMap turn) :
    values.flatMap known = (values.flatMap leaves).flatMap turn := by
  induction values with
  | nil => rfl
  | cons head rest ih =>
    have inRest := ih fun value member => same value (List.mem_cons_of_mem _ member)
    rw [List.flatMap_cons, List.flatMap_cons, List.flatMap_append, inRest, same head List.mem_cons_self]

namespace Expr

private theorem substance_operator (op : BinaryOp) :
    Lexeme.substance [.space, op.lexeme, .space] = [] := by
  cases op <;> rfl

private theorem substance_unaryLexemes (dialect : Dialect) (operand : List Lexeme) (op : UnaryOp) :
    Lexeme.substance (unaryLexemes dialect operand op) = Lexeme.substance operand := by
  cases op <;> simp [unaryLexemes, Lexeme.substance_cons, Lexeme.isFrame]

theorem substance_lexemesOrGap {operand : Option Expr}
    (same : ∀ expr ∈ operand,
      Lexeme.substance (expr.lexemes dialect) = expr.leaves.flatMap Leaf.substance) (absent : Gap) :
    Lexeme.substance (lexemesOrGap dialect absent operand) =
      (leavesOr absent operand).flatMap Leaf.substance := by
  cases operand with
  | none => rfl
  | some expr => rw [lexemesOrGap, Lexeme.substance_parenthesizedIf, same expr rfl, leavesOr]

/-- The layout of an expression takes from it what its leaves are written with, in their order. -/
theorem substance_lexemes (dialect : Dialect) (expr : Expr) :
    Lexeme.substance (expr.lexemes dialect) = expr.leaves.flatMap Leaf.substance := by
  induction expr using Expr.induct with
  | column | literal => simp [lexemes, leaves, Leaf.substance, Leaf.lexemes]
  | binary op left right inLeft inRight =>
    simp only [lexemes, leaves, Lexeme.substance_append, Lexeme.substance_parenthesizedIf,
      substance_operator, inLeft, inRight, List.append_nil, List.flatMap_append]
  | unary op operand inOperand =>
    rw [lexemes, substance_unaryLexemes, Lexeme.substance_parenthesizedIf, inOperand, leaves]
  | call name args inArgs =>
    simp [lexemes, leaves, lexemesEach_eq_map, leavesEach_eq_flatMap, List.flatMap_map,
      Leaf.flatMap_each inArgs, Lexeme.substance_cons, Lexeme.isFrame, Leaf.substance, Leaf.lexemes]
  | between test lower upper negated inTest inLower inUpper =>
    simp [lexemes, leaves, substance_lexemesOrGap inTest, substance_lexemesOrGap inLower,
      substance_lexemesOrGap inUpper, Lexeme.substance_cons, Lexeme.isFrame]
  | inList tested choices negated inTested inChoices =>
    cases empty : choices.isEmpty with
    | true =>
      simp [lexemes, leaves, inTested, empty, Lexeme.substance_cons, Lexeme.isFrame, Leaf.substance,
        Leaf.lexemes]
    | false =>
      simp [lexemes, leaves, inTested, empty, lexemesEach_eq_map, leavesEach_eq_flatMap,
        List.flatMap_map, Leaf.flatMap_each inChoices, Lexeme.substance_cons, Lexeme.isFrame]
  | dimArray elements =>
    rw [lexemes, Lexeme.substance_cons, leaves]
    simp only [Lexeme.isFrame, ↓reduceIte, Lexeme.substance_parenthesized]
    split
    · rfl
    · rw [Lexeme.substance_commaSeparated, List.flatMap_map, List.flatMap_map]
      rfl

end Expr

namespace Predicate

theorem substance_lexemesOrGap {condition : Option Predicate}
    (same : ∀ body ∈ condition,
      Lexeme.substance (body.lexemes dialect) = body.leaves.flatMap Leaf.substance) :
    Lexeme.substance (lexemesOrGap dialect condition) =
      (leavesOrCondition condition).flatMap Leaf.substance := by
  cases condition with
  | none => rfl
  | some body => rw [lexemesOrGap, same body rfl, leavesOrCondition]

theorem substance_lexemes (dialect : Dialect) (predicate : Predicate) :
    Lexeme.substance (predicate.lexemes dialect) = predicate.leaves.flatMap Leaf.substance := by
  induction predicate using Predicate.induct with
  | quantification quantifier bound condition inCondition =>
    cases bound <;>
      simp [lexemes, leaves, variableLexemes, substance_lexemesOrGap inCondition,
        Lexeme.substance_cons, Lexeme.isFrame, Leaf.substance, Leaf.lexemes]
  | atom name args =>
    have listed : Lexeme.substance ([Lexeme.comma].intercalate (args.map (Expr.lexemes dialect))) =
        (args.flatMap Expr.leaves).flatMap Leaf.substance := by
      rw [Lexeme.substance_intercalate rfl, List.flatMap_map]
      exact Leaf.flatMap_each fun arg _ => arg.substance_lexemes dialect
    simp [lexemes, leaves, listed, Lexeme.substance_cons, Lexeme.isFrame, Leaf.substance, Leaf.lexemes]
  | negation operand inOperand => simp [lexemes, leaves, inOperand, Lexeme.substance_cons, Lexeme.isFrame]
  | junction op operands inOperands =>
    rw [lexemes, Lexeme.substance_parenthesized, leaves]
    split
    · rfl
    · rw [Lexeme.substance_intercalate rfl, lexemesEach_eq_map, leavesEach_eq_flatMap,
        List.flatMap_map]
      exact Leaf.flatMap_each inOperands

end Predicate

theorem Item.substance_lexemes (dialect : Dialect) (item : Item) :
    Lexeme.substance (item.lexemes dialect) = item.leaves.flatMap Leaf.substance := by
  cases item with
  | expression tree => exact tree.substance_lexemes dialect
  | predicate tree => exact tree.substance_lexemes dialect

/-- Whatever is picked from a layout without its frame is picked from the leaves of the tree. -/
theorem Item.filterMap_lexemes {pick : Lexeme → Option β}
    (frames : ∀ lexeme, lexeme.isFrame = true → pick lexeme = none) (dialect : Dialect)
    (item : Item) :
    (item.lexemes dialect).filterMap pick =
      item.leaves.flatMap fun leaf => leaf.lexemes.filterMap pick := by
  rw [← Lexeme.filterMap_substance frames, substance_lexemes, List.filterMap_flatMap]
  congr 1
  funext leaf
  exact Lexeme.filterMap_substance frames leaf.lexemes

namespace Lexeme

def name? : Lexeme → Option String
  | .name text => some text
  | _ => none

def quoted? : Lexeme → Option String
  | .quoted content => some content
  | _ => none

theorem quoted_of_quoted? {lexeme : Lexeme} (found : lexeme.quoted? = some content) :
    lexeme = .quoted content := by
  cases lexeme with
  | quoted text =>
    cases found
    rfl
  | space | opening | closing | comma | dot | bar | keyword | sign | spatial | name | integer | number
  | gap => cases found

end Lexeme

/-- The names in a layout are those of the tree. -/
theorem Item.filterMap_name (dialect : Dialect) (item : Item) :
    (item.lexemes dialect).filterMap Lexeme.name? = item.names := by
  have frames (lexeme : Lexeme) (frame : lexeme.isFrame = true) : lexeme.name? = none := by
    cases lexeme with
    | space | opening | closing | comma | dot | bar | keyword | sign | spatial => rfl
    | name | integer | number | quoted | gap => cases frame
  rw [filterMap_lexemes frames, names]
  congr 1
  funext leaf
  cases leaf with
  | column reference =>
    rw [Leaf.lexemes, Leaf.names, Column.lexemes]
    cases reference.table <;> rfl
  | literal value =>
    rw [Leaf.lexemes, Leaf.names, Literal.lexemes]
    split
    · cases value with
      | boolean value => cases value <;> rfl
      | null | integer | number | text => rfl
    · rfl
  | dimension element =>
    rw [Leaf.lexemes, Leaf.names, DimElement.lexemes]
    split <;> rfl
  | name text => rfl
  | missing gap => rfl

/-- The string literals in a layout are the string contents of the tree, in their order. -/
theorem Item.filterMap_quoted (dialect : Dialect) (item : Item) :
    (item.lexemes dialect).filterMap Lexeme.quoted? = item.contents := by
  have frames (lexeme : Lexeme) (frame : lexeme.isFrame = true) : lexeme.quoted? = none := by
    cases lexeme with
    | space | opening | closing | comma | dot | bar | keyword | sign | spatial => rfl
    | name | integer | number | quoted | gap => cases frame
  rw [filterMap_lexemes frames, contents]
  congr 1
  funext leaf
  cases leaf with
  | column reference =>
    rw [Leaf.lexemes, Leaf.contents, Column.lexemes]
    cases reference.table <;> rfl
  | literal value =>
    cases value with
    | boolean value => cases value <;> rfl
    | null | integer | text => rfl
    | number value =>
      rw [Leaf.lexemes, Literal.lexemes]
      split <;> rfl
  | dimension element =>
    rw [Leaf.lexemes, Leaf.contents, DimElement.lexemes]
    split <;> rfl
  | name text => rfl
  | missing gap => rfl

theorem Item.mem_names {item : Item} (present : .name text ∈ item.lexemes dialect) :
    text ∈ item.names := by
  rw [← item.filterMap_name dialect]
  exact List.mem_filterMap.mpr ⟨_, present, rfl⟩

theorem Item.mem_contents {item : Item} (present : .quoted content ∈ item.lexemes dialect) :
    content ∈ item.contents := by
  rw [← item.filterMap_quoted dialect]
  exact List.mem_filterMap.mpr ⟨_, present, rfl⟩

end ConstraintTree
