import ConstraintTree.Lexeme
import ConstraintTree.Predicate

/-!
Trees laid out as lexemes. Operands are parenthesized exactly where they bind looser than their
place allows.
-/
namespace ConstraintTree

def Column.lexemes (column : Column) : List Lexeme :=
  match column.table with
  | some table => [.name table, .dot, .name column.name]
  | none => [.name column.name]

def Column.text (column : Column) : String := Lexeme.text {} column.lexemes

def Literal.lexeme : Literal → Lexeme
  | .null => .keyword .null
  | .boolean true => .keyword .true
  | .boolean false => .keyword .false
  | .integer value => .integer value
  | .number value => .number value
  | .text content => .quoted content

/-- Text of a literal, also of a number that SQL cannot spell. -/
def Literal.spelling (literal : Literal) : String := literal.lexeme.spelling {}

/-- A literal inside a tree. A number that SQL cannot spell is a gap there. -/
def Literal.lexemes (literal : Literal) : List Lexeme :=
  if literal.isFinite then [literal.lexeme] else [.gap .finiteNumber]

namespace DimElement

def constructorLexemes (element : DimElement) : List Lexeme :=
  .spatial .dimElement :: Lexeme.parenthesized (Lexeme.commaSeparated
    [[.quoted element.name], [.number element.lower], [.number element.upper],
      [.number element.tolerance]])

/-- Text of one dimension, also with numbers that SQL cannot spell. -/
def text (dialect : Dialect) (element : DimElement) : String :=
  Lexeme.text dialect element.constructorLexemes

/-- A dimension inside a tree: one gap stands for all of its numbers that SQL cannot spell. -/
def lexemes (element : DimElement) : List Lexeme :=
  if element.isFinite then element.constructorLexemes else [.gap .finiteNumber]

end DimElement

namespace Expr

/-- An operator around the lexemes of its operand. Two minus signs in a row would open a comment, so
after a minus an operand whose text begins with one is parenthesized. -/
def unaryLexemes (dialect : Dialect) (operand : List Lexeme) : UnaryOp → List Lexeme
  | .not => [.keyword .not, .space] ++ operand
  | .minus =>
    .sign .minus :: Lexeme.parenthesizedIf (Lexeme.startsWith dialect '-' operand) operand
  | .isNull => operand ++ [.space, .keyword .is, .space, .keyword .null]
  | .isNotNull => operand ++ [.space, .keyword .is, .space, .keyword .not, .space, .keyword .null]

/-- Loosest operand of a test that stands without parentheses. -/
def testMinimum : Precedence := Precedence.comparison + 1

mutual

def lexemes (dialect : Dialect) : Expr → List Lexeme
  | .column reference => reference.lexemes
  | .literal value => value.lexemes
  | .binary op left right =>
    Lexeme.parenthesizedIf (left.precedence < op.leftMinimum) (lexemes dialect left) ++
      [.space, op.lexeme, .space] ++
      Lexeme.parenthesizedIf (right.precedence < op.rightMinimum) (lexemes dialect right)
  | .unary op operand =>
    unaryLexemes dialect
      (Lexeme.parenthesizedIf (operand.precedence < op.operandMinimum) (lexemes dialect operand)) op
  | .call name args =>
    .name name :: Lexeme.parenthesized (Lexeme.commaSeparated (lexemesEach dialect args))
  | .between test lower upper negated =>
    lexemesOrGap dialect .betweenTest test ++ .space :: Lexeme.negationMark negated ++
      [.keyword .between, .space] ++ lexemesOrGap dialect .betweenBegin lower ++
      [.space, .keyword .and, .space] ++ lexemesOrGap dialect .betweenEnd upper
  | .inList tested choices negated =>
    Lexeme.parenthesizedIf (tested.precedence < testMinimum) (lexemes dialect tested) ++
      .space :: Lexeme.negationMark negated ++ [.keyword .in, .space] ++
      Lexeme.parenthesized (if choices.isEmpty then [.gap .inListItems]
        else Lexeme.commaSeparated (lexemesEach dialect choices))
  | .dimArray elements =>
    .spatial .dimArray :: Lexeme.parenthesized (if elements.isEmpty then [.gap .dimArrayElements]
      else Lexeme.commaSeparated (elements.map DimElement.lexemes))

def lexemesEach (dialect : Dialect) : List Expr → List (List Lexeme)
  | [] => []
  | head :: rest => lexemes dialect head :: lexemesEach dialect rest

/-- An operand of a range test, or the gap that it leaves. -/
def lexemesOrGap (dialect : Dialect) (missing : Gap) : Option Expr → List Lexeme
  | some operand =>
    Lexeme.parenthesizedIf (operand.precedence < testMinimum) (lexemes dialect operand)
  | none => [.gap missing]

end

theorem lexemesEach_eq_map (dialect : Dialect) (exprs : List Expr) :
    lexemesEach dialect exprs = exprs.map (lexemes dialect) := by
  induction exprs with
  | nil => rfl
  | cons head rest ih => simp [lexemesEach, ih]

end Expr

namespace Predicate

def variableLexemes : Option String → List Lexeme
  | some bound => [.name bound]
  | none => [.gap .quantifiedVariable]

mutual

def lexemes (dialect : Dialect) : Predicate → List Lexeme
  | .quantification quantifier bound condition =>
    .keyword quantifier.keyword :: .space :: Lexeme.parenthesized
      (variableLexemes bound ++ [.space, .bar, .space] ++ lexemesOrGap dialect condition)
  | .atom name args =>
    .name name :: Lexeme.parenthesized
      ([Lexeme.comma].intercalate (args.map (Expr.lexemes dialect)))
  | .negation operand =>
    .keyword .not :: .space :: Lexeme.parenthesized (lexemes dialect operand)
  | .junction op operands =>
    Lexeme.parenthesized (if operands.isEmpty then [.gap .connectiveOperands]
      else [Lexeme.space, .keyword op.keyword, .space].intercalate
        (lexemesEach dialect operands))

def lexemesEach (dialect : Dialect) : List Predicate → List (List Lexeme)
  | [] => []
  | head :: rest => lexemes dialect head :: lexemesEach dialect rest

/-- The condition of a quantification, or the gap that it leaves. -/
def lexemesOrGap (dialect : Dialect) : Option Predicate → List Lexeme
  | some condition => lexemes dialect condition
  | none => [.gap .quantifiedCondition]

end

theorem lexemesEach_eq_map (dialect : Dialect) (predicates : List Predicate) :
    lexemesEach dialect predicates = predicates.map (lexemes dialect) := by
  induction predicates with
  | nil => rfl
  | cons head rest ih => simp [lexemesEach, ih]

end Predicate

def Item.lexemes (dialect : Dialect) : Item → List Lexeme
  | .expression tree => tree.lexemes dialect
  | .predicate tree => tree.lexemes dialect

end ConstraintTree
