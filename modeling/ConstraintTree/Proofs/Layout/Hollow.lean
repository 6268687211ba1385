import ConstraintTree.Proofs.GapWalk
import ConstraintTree.Proofs.Layout.Spacing

namespace ConstraintTree

def Literal.hollow : Literal → Literal
  | .text _ => .text ""
  | literal => literal

def DimElement.hollow (element : DimElement) : DimElement := { element with name := "" }

namespace Expr

mutual

/-- The expression with empty string literals and nameless dimensions. -/
def hollow : Expr → Expr
  | .column reference => .column reference
  | .literal value => .literal value.hollow
  | .binary op left right => .binary op (hollow left) (hollow right)
  | .unary op operand => .unary op (hollow operand)
  | .call name args => .call name (hollowEach args)
  | .between test lower upper negated =>
    .between (hollowOperand test) (hollowOperand lower) (hollowOperand upper) negated
  | .inList tested choices negated => .inList (hollow tested) (hollowEach choices) negated
  | .dimArray elements => .dimArray (elements.map DimElement.hollow)

def hollowEach : List Expr → List Expr
  | [] => []
  | head :: rest => hollow head :: hollowEach rest

def hollowOperand : Option Expr → Option Expr
  | some operand => some (hollow operand)
  | none => none

end

theorem hollowEach_eq_map (exprs : List Expr) : hollowEach exprs = exprs.map hollow := by
  induction exprs with
  | nil => rfl
  | cons head rest ih => rw [hollowEach, ih, List.map_cons]

end Expr

namespace Predicate

mutual

def hollow : Predicate → Predicate
  | .quantification quantifier bound condition =>
    .quantification quantifier bound (hollowCondition condition)
  | .atom name args => .atom name (args.map Expr.hollow)
  | .negation operand => .negation (hollow operand)
  | .junction op operands => .junction op (hollowEach operands)

def hollowEach : List Predicate → List Predicate
  | [] => []
  | head :: rest => hollow head :: hollowEach rest

def hollowCondition : Option Predicate → Option Predicate
  | some condition => some (hollow condition)
  | none => none

end

theorem hollowEach_eq_map (predicates : List Predicate) :
    hollowEach predicates = predicates.map hollow := by
  induction predicates with
  | nil => rfl
  | cons head rest ih => rw [hollowEach, ih, List.map_cons]

end Predicate

def Item.hollow : Item → Item
  | .expression tree => .expression tree.hollow
  | .predicate tree => .predicate tree.hollow

/-! Layouts of hollow trees. -/

namespace Lexeme

def hollow : Lexeme → Lexeme
  | .quoted _ => .quoted ""
  | lexeme => lexeme

def hollowRow (row : List Lexeme) : List Lexeme := row.map hollow

@[simp] theorem hollowRow_append (first second : List Lexeme) :
    hollowRow (first ++ second) = hollowRow first ++ hollowRow second := List.map_append

@[simp] theorem hollowRow_parenthesized (body : List Lexeme) :
    hollowRow (parenthesized body) = parenthesized (hollowRow body) := by
  simp [hollowRow, parenthesized, hollow]

@[simp] theorem hollowRow_parenthesizedIf (needed : Bool) (body : List Lexeme) :
    hollowRow (parenthesizedIf needed body) = parenthesizedIf needed (hollowRow body) := by
  cases needed with
  | false => rfl
  | true => exact hollowRow_parenthesized body

@[simp] theorem hollowRow_negationMark (negated : Bool) :
    hollowRow (negationMark negated) = negationMark negated := by
  cases negated <;> rfl

private theorem hollowRow_intercalate (separator : List Lexeme) (bodies : List (List Lexeme)) :
    hollowRow (separator.intercalate bodies) =
      (hollowRow separator).intercalate (bodies.map hollowRow) := by
  have turn : hollowRow = List.flatMap fun lexeme => [lexeme.hollow] :=
    funext fun _ => List.map_eq_flatMap
  rw [turn]
  exact flatMap_intercalate _ separator bodies

@[simp] theorem hollowRow_commaSeparated (bodies : List (List Lexeme)) :
    hollowRow (commaSeparated bodies) = commaSeparated (bodies.map hollowRow) :=
  hollowRow_intercalate _ bodies

/-- Layouts that empty what the values empty. -/
theorem hollowRow_each {layout : α → List Lexeme} {empty : α → α} {values : List α}
    (same : ∀ value ∈ values, layout (empty value) = hollowRow (layout value)) :
    (values.map empty).map layout = (values.map layout).map hollowRow := by
  rw [List.map_map, List.map_map]
  exact List.map_congr_left same

/-- Which character a text begins with does not depend on the contents of its strings. -/
theorem startsWith_hollowRow (dialect : Dialect) (char : Char) (row : List Lexeme) :
    startsWith dialect char (hollowRow row) = startsWith dialect char row := by
  induction row with
  | nil => rfl
  | cons head rest ih =>
    cases head with
    | quoted content => simp [hollowRow, hollow, startsWith, spelling, quote]
    | space | opening | closing | comma | dot | bar | keyword | sign | spatial | name | integer | number
    | gap =>
      change startsWith dialect char (_ :: hollowRow rest) = _
      rw [startsWith, startsWith, ih]
      rfl

private theorem gaps_hollowRow (row : List Lexeme) : gaps (hollowRow row) = gaps row := by
  have same (lexeme : Lexeme) : lexeme.hollow.gap? = lexeme.gap? := by
    cases lexeme <;> rfl
  rw [gaps, hollowRow, List.filterMap_map, gaps]
  congr 1
  funext lexeme
  exact same lexeme

end Lexeme

open Lexeme (hollowRow)

private theorem Column.hollowRow_lexemes (column : Column) :
    hollowRow column.lexemes = column.lexemes := by
  rw [lexemes]
  cases column.table <;> rfl

theorem Literal.lexemes_hollow (literal : Literal) :
    literal.hollow.lexemes = hollowRow literal.lexemes := by
  cases literal with
  | number value =>
    have same : (Literal.number value).hollow = .number value := rfl
    rw [same, lexemes]
    split <;> rfl
  | boolean value => cases value <;> rfl
  | null | integer | text => rfl

theorem DimElement.lexemes_hollow (element : DimElement) :
    element.hollow.lexemes = hollowRow element.lexemes := by
  have same : element.hollow.isFinite = element.isFinite := rfl
  rw [lexemes, lexemes, same]
  split <;> rfl

namespace Expr

theorem precedence_hollow (expr : Expr) : expr.hollow.precedence = expr.precedence := by
  cases expr <;> simp only [hollow, precedence]

private theorem hollowRow_unaryLexemes (dialect : Dialect) (operand : List Lexeme) (op : UnaryOp) :
    hollowRow (unaryLexemes dialect operand op) =
      unaryLexemes dialect (hollowRow operand) op := by
  cases op with
  | minus =>
    rw [unaryLexemes, unaryLexemes, Lexeme.startsWith_hollowRow,
      ← Lexeme.hollowRow_parenthesizedIf]
    rfl
  | not => rfl
  | isNull | isNotNull =>
    rw [unaryLexemes, unaryLexemes, Lexeme.hollowRow_append]
    rfl

theorem lexemesOrGap_hollow {operand : Option Expr}
    (same : ∀ expr ∈ operand, expr.hollow.lexemes dialect = hollowRow (expr.lexemes dialect))
    (absent : Gap) :
    lexemesOrGap dialect absent (hollowOperand operand) =
      hollowRow (lexemesOrGap dialect absent operand) := by
  cases operand with
  | none => rfl
  | some expr =>
    rw [hollowOperand, lexemesOrGap, lexemesOrGap, precedence_hollow, same expr rfl,
      Lexeme.hollowRow_parenthesizedIf]

private theorem commaSeparated_hollow {exprs : List Expr}
    (same : ∀ expr ∈ exprs, expr.hollow.lexemes dialect = hollowRow (expr.lexemes dialect)) :
    Lexeme.commaSeparated (lexemesEach dialect (hollowEach exprs)) =
      hollowRow (Lexeme.commaSeparated (lexemesEach dialect exprs)) := by
  rw [lexemesEach_eq_map, lexemesEach_eq_map, hollowEach_eq_map, Lexeme.hollowRow_each same,
    Lexeme.hollowRow_commaSeparated]

/-- The layout of a hollow expression is the hollow layout. -/
theorem lexemes_hollow (dialect : Dialect) (expr : Expr) :
    expr.hollow.lexemes dialect = hollowRow (expr.lexemes dialect) := by
  induction expr using Expr.induct with
  | column reference =>
    rw [hollow, lexemes, reference.hollowRow_lexemes]
  | literal value =>
    rw [hollow, lexemes, lexemes, value.lexemes_hollow]
  | binary op left right inLeft inRight =>
    have operator : hollowRow [.space, op.lexeme, .space] = [.space, op.lexeme, .space] := by
      cases op <;> rfl
    simp only [hollow, lexemes, precedence_hollow, inLeft, inRight, Lexeme.hollowRow_append,
      Lexeme.hollowRow_parenthesizedIf, operator]
  | unary op operand inOperand =>
    rw [hollow, lexemes, lexemes, precedence_hollow, inOperand, hollowRow_unaryLexemes,
      Lexeme.hollowRow_parenthesizedIf]
  | call name args inArgs =>
    rw [hollow, lexemes, lexemes, commaSeparated_hollow inArgs, ← Lexeme.hollowRow_parenthesized]
    rfl
  | between test lower upper negated inTest inLower inUpper =>
    simp only [hollow, lexemes, lexemesOrGap_hollow inTest, lexemesOrGap_hollow inLower,
      lexemesOrGap_hollow inUpper, Lexeme.hollowRow_append]
    cases negated <;> rfl
  | inList tested choices negated inTested inChoices =>
    have empty : (hollowEach choices).isEmpty = choices.isEmpty := by
      rw [hollowEach_eq_map, List.isEmpty_map]
    have listed : (if choices.isEmpty then [Lexeme.gap .inListItems]
          else Lexeme.commaSeparated (lexemesEach dialect (hollowEach choices))) =
        hollowRow (if choices.isEmpty then [Lexeme.gap .inListItems]
          else Lexeme.commaSeparated (lexemesEach dialect choices)) := by
      rw [commaSeparated_hollow inChoices]
      split <;> rfl
    simp only [hollow, lexemes, precedence_hollow, inTested, empty, listed, Lexeme.hollowRow_append,
      Lexeme.hollowRow_parenthesizedIf, Lexeme.hollowRow_parenthesized]
    cases negated <;> rfl
  | dimArray elements =>
    have each : (elements.map DimElement.hollow).map DimElement.lexemes =
        (elements.map DimElement.lexemes).map hollowRow :=
      Lexeme.hollowRow_each fun element _ => element.lexemes_hollow
    rw [hollow, lexemes, lexemes, List.isEmpty_map, each, ← Lexeme.hollowRow_commaSeparated]
    split
    · rfl
    · change _ = Lexeme.spatial .dimArray :: hollowRow (Lexeme.parenthesized _)
      rw [Lexeme.hollowRow_parenthesized]

end Expr

namespace Predicate

private theorem hollowRow_variableLexemes (bound : Option String) :
    hollowRow (variableLexemes bound) = variableLexemes bound := by
  cases bound <;> rfl

theorem lexemesOrGap_hollow {condition : Option Predicate}
    (same : ∀ body ∈ condition, body.hollow.lexemes dialect = hollowRow (body.lexemes dialect)) :
    lexemesOrGap dialect (hollowCondition condition) =
      hollowRow (lexemesOrGap dialect condition) := by
  cases condition with
  | none => rfl
  | some body => rw [hollowCondition, lexemesOrGap, lexemesOrGap, same body rfl]

theorem lexemes_hollow (dialect : Dialect) (predicate : Predicate) :
    predicate.hollow.lexemes dialect = hollowRow (predicate.lexemes dialect) := by
  induction predicate using Predicate.induct with
  | quantification quantifier bound condition inCondition =>
    have inside : variableLexemes bound ++ [.space, .bar, .space] ++
          lexemesOrGap dialect (hollowCondition condition) =
        hollowRow (variableLexemes bound ++ [.space, .bar, .space] ++
          lexemesOrGap dialect condition) := by
      rw [lexemesOrGap_hollow inCondition, Lexeme.hollowRow_append, Lexeme.hollowRow_append,
        hollowRow_variableLexemes]
      rfl
    rw [hollow, lexemes, lexemes, inside, ← Lexeme.hollowRow_parenthesized]
    rfl
  | atom name args =>
    have each := Lexeme.hollowRow_each fun arg (_ : arg ∈ args) => arg.lexemes_hollow dialect
    have listed : [Lexeme.comma].intercalate ((args.map Expr.hollow).map (Expr.lexemes dialect)) =
        hollowRow ([Lexeme.comma].intercalate (args.map (Expr.lexemes dialect))) := by
      rw [each, Lexeme.hollowRow_intercalate]
      rfl
    rw [hollow, lexemes, lexemes, listed, ← Lexeme.hollowRow_parenthesized]
    rfl
  | negation operand inOperand =>
    rw [hollow, lexemes, lexemes, inOperand, ← Lexeme.hollowRow_parenthesized]
    rfl
  | junction op operands inOperands =>
    have empty : (hollowEach operands).isEmpty = operands.isEmpty := by
      rw [hollowEach_eq_map, List.isEmpty_map]
    rw [hollow, lexemes, lexemes, empty, Lexeme.hollowRow_parenthesized]
    congr 1
    split
    · rfl
    · rw [lexemesEach_eq_map, lexemesEach_eq_map, hollowEach_eq_map,
        Lexeme.hollowRow_each inOperands, Lexeme.hollowRow_intercalate]
      rfl

end Predicate

theorem Item.lexemes_hollow (dialect : Dialect) (item : Item) :
    item.hollow.lexemes dialect = hollowRow (item.lexemes dialect) := by
  cases item with
  | expression tree => exact tree.lexemes_hollow dialect
  | predicate tree => exact tree.lexemes_hollow dialect

/-- Trees that differ in the contents of strings only are laid out alike, and the same is missing. -/
theorem Item.lexemes_of_hollow {item other : Item} (same : other.hollow = item.hollow)
    (dialect : Dialect) :
    hollowRow (other.lexemes dialect) = hollowRow (item.lexemes dialect) ∧
      other.gaps = item.gaps := by
  have alike : hollowRow (other.lexemes dialect) = hollowRow (item.lexemes dialect) := by
    rw [← lexemes_hollow, ← lexemes_hollow, same]
  refine ⟨alike, ?_⟩
  rw [← other.gaps_lexemes dialect, ← item.gaps_lexemes dialect, ← Lexeme.gaps_hollowRow, alike,
    Lexeme.gaps_hollowRow]

end ConstraintTree
