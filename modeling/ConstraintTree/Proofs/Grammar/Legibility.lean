import ConstraintTree.Layout.Continuation
import ConstraintTree.Proofs.Grammar.Scanning

namespace ConstraintTree

/-- Expressions that the grammar covers: all names are identifiers, nothing is missing, and there are
neither floating point numbers nor spatial values. -/
inductive Readable : Expr → Prop where
  | column (named : isIdentifier name) : Readable (.column { name })
  | qualified (owned : isIdentifier table) (named : isIdentifier name) :
      Readable (.column { table := some table, name })
  | null : Readable (.literal .null)
  | boolean (value : Bool) : Readable (.literal (.boolean value))
  | integer (value : Int64) : Readable (.literal (.integer value))
  | text (content : String) : Readable (.literal (.text content))
  | binary (op : BinaryOp) (left : Readable leftExpr) (right : Readable rightExpr) :
      Readable (.binary op leftExpr rightExpr)
  | unary (op : UnaryOp) (operand : Readable expr) : Readable (.unary op expr)
  | call (named : isIdentifier name) (each : ∀ arg ∈ args, Readable arg) :
      Readable (.call name args)
  | between (negated : Bool) (test : Readable tested) (lower : Readable low)
      (upper : Readable high) :
      Readable (.between (some tested) (some low) (some high) negated)
  | inList (negated : Bool) (operand : Readable tested) (nonempty : choices ≠ [])
      (each : ∀ choice ∈ choices, Readable choice) : Readable (.inList tested choices negated)

namespace Lexeme

/-- A lexeme that the scanner knows, once it can tell it from the rest. -/
def Scannable : Lexeme → Prop
  | .keyword word => word ∈ Keyword.reserved
  | .name text => isIdentifier text
  | .bar | .spatial _ | .number _ | .gap _ => False
  | .space | .opening | .closing | .comma | .dot | .sign _ | .integer _ | .quoted _ => True

private theorem parted_of_endsBefore {lexeme : Lexeme} (known : lexeme.Scannable)
    (ends : lexeme.EndsBefore dialect rest) : lexeme.Parted dialect rest := by
  cases lexeme with
  | space | opening | closing | comma | dot => trivial
  | keyword | name => exact ⟨known, ends⟩
  | sign symbol => cases symbol <;> exact ends
  | integer | quoted => exact ends
  | bar | spatial | number | gap => exact known.elim

/-- A spaced row is legible if the scanner knows each of its lexemes. -/
theorem legible_of_spaced {row : List Lexeme} (spaced : Spaced dialect row)
    (known : ∀ lexeme ∈ row, lexeme.Scannable) : Legible dialect row := by
  induction row with
  | nil => trivial
  | cons lexeme rest ih =>
    have inRest := ih spaced.2 fun other member => known other (List.mem_cons_of_mem _ member)
    exact ⟨parted_of_endsBefore (known lexeme List.mem_cons_self) spaced.1, inRest⟩

/-- The scanner knows every lexeme of the row. -/
def Known (row : List Lexeme) : Prop := ∀ lexeme ∈ row, lexeme.Scannable

@[simp] theorem known_nil : Known [] := by simp [Known]

@[simp] theorem known_cons {lexeme : Lexeme} {rest : List Lexeme} :
    Known (lexeme :: rest) ↔ lexeme.Scannable ∧ Known rest := by simp [Known]

@[simp] theorem known_append {first second : List Lexeme} :
    Known (first ++ second) ↔ Known first ∧ Known second := by simp [Known, or_imp, forall_and]

@[simp] theorem known_parenthesized {body : List Lexeme} :
    Known (parenthesized body) ↔ Known body := by simp [parenthesized, Scannable]

@[simp] theorem known_parenthesizedIf {needed : Bool} {body : List Lexeme} :
    Known (parenthesizedIf needed body) ↔ Known body := by
  cases needed <;> simp [parenthesizedIf]

@[simp] theorem known_negationMark (negated : Bool) : Known (negationMark negated) := by
  cases negated <;> simp [negationMark, Scannable, Keyword.reserved]

theorem Known.separated {separator : List Lexeme} (known : Known separator)
    {bodies : List (List Lexeme)} (each : ∀ body ∈ bodies, Known body) :
    Known (separator.intercalate bodies) := by
  intro lexeme member
  rcases mem_intercalate member with between | ⟨body, present, within⟩
  · exact known lexeme between
  · exact each body present lexeme within

theorem Known.listed {bodies : List (List Lexeme)} (each : ∀ body ∈ bodies, Known body) :
    Known (commaSeparated bodies) := .separated (by simp [Scannable]) each

end Lexeme

namespace Expr

open Lexeme (Known)

private theorem known_operator (op : BinaryOp) : op.lexeme.Scannable := by
  cases op with
  | and | or | like => change _ ∈ Keyword.reserved; decide
  | add | sub | mul | div | mod | eq | ne | lt | le | gt | ge | concat => trivial

private theorem known_unaryLexemes {operand : List Lexeme} (known : Known operand) (dialect : Dialect)
    (op : UnaryOp) : Known (unaryLexemes dialect operand op) := by
  cases op <;> simp [unaryLexemes, known, Lexeme.Scannable, Keyword.reserved]

theorem known_lexemes (dialect : Dialect) (readable : Readable expr) :
    Known (expr.lexemes dialect) := by
  induction readable with
  | column named => simpa [lexemes, Column.lexemes, Lexeme.Scannable] using named
  | qualified owned named =>
    simpa [lexemes, Column.lexemes, Lexeme.Scannable] using ⟨owned, named⟩
  | null => simp [lexemes, Literal.lexemes, Literal.isFinite, Literal.lexeme, Lexeme.Scannable,
      Keyword.reserved]
  | boolean value =>
    cases value <;> simp [lexemes, Literal.lexemes, Literal.isFinite, Literal.lexeme,
      Lexeme.Scannable, Keyword.reserved]
  | integer value => simp [lexemes, Literal.lexemes, Literal.isFinite, Literal.lexeme,
      Lexeme.Scannable]
  | text content => simp [lexemes, Literal.lexemes, Literal.isFinite, Literal.lexeme,
      Lexeme.Scannable]
  | binary op left right inLeft inRight =>
    simpa [lexemes, inLeft, inRight, Lexeme.Scannable] using known_operator op
  | unary op operand inOperand =>
    rw [lexemes]
    exact known_unaryLexemes (by simpa using inOperand) dialect op
  | call named each inEach =>
    have listed := Lexeme.Known.listed (List.forall_mem_map.mpr inEach)
    simpa [lexemes, lexemesEach_eq_map, Lexeme.Scannable] using ⟨named, listed⟩
  | between negated test lower upper inTest inLower inUpper =>
    simp [lexemes, lexemesOrGap, inTest, inLower, inUpper, Lexeme.Scannable, Keyword.reserved]
  | inList negated operand nonempty each inOperand inEach =>
    have listed := Lexeme.Known.listed (List.forall_mem_map.mpr inEach)
    simpa [lexemes, lexemesEach_eq_map, nonempty, inOperand, Lexeme.Scannable, Keyword.reserved]
      using listed

/-- The layout of a readable expression is legible. -/
theorem legible_lexemes (dialect : Dialect) (readable : Readable expr) :
    Lexeme.Legible dialect (expr.lexemes dialect) :=
  Lexeme.legible_of_spaced ((Item.expression expr).spaced_lexemes dialect)
    (known_lexemes dialect readable)

end Expr
end ConstraintTree
