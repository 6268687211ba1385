import ConstraintTree.Proofs.GapWalk
import ConstraintTree.Proofs.Layout.Spacing
import ConstraintTree.Proofs.Text.Replacement

/-!
What is left to the dialect. Inequality operators and spatial constructors are the idioms of a tree:
two dialects spell nothing else differently, and they lay a tree out alike unless they disagree on which
of its idioms begin with a minus.
-/
namespace ConstraintTree

/-- A part of a text whose spelling is left to the dialect. -/
inductive Idiom where
  | inequality
  | constructor (name : SpatialName)
  deriving DecidableEq, Repr

def Idiom.spelling (dialect : Dialect) : Idiom → String
  | .inequality => dialect.notEqual.spelling
  | .constructor name => dialect.qualify name.spelling

/-- An idiom in front of which a minus would stand before another one. -/
def Idiom.isSigned (dialect : Dialect) (idiom : Idiom) : Bool :=
  (idiom.spelling dialect).toList.head? == some '-'

theorem Idiom.isSigned_inequality (dialect : Dialect) : inequality.isSigned dialect = false := by
  cases style : dialect.notEqual <;> simp [isSigned, spelling, style, NotEqualStyle.spelling]

/-- Dialects that agree on which of the idioms begin with a minus. -/
def SameSigns (dialect other : Dialect) (idioms : List Idiom) : Prop :=
  ∀ idiom ∈ idioms, idiom.isSigned dialect = idiom.isSigned other

theorem SameSigns.append {first second : List Idiom}
    (same : SameSigns dialect other (first ++ second)) :
    SameSigns dialect other first ∧ SameSigns dialect other second :=
  List.forall_mem_append.mp same

/-- Values that are each laid out alike if their idioms allow it. -/
theorem SameSigns.map {known : α → List Idiom} {layout layout' : α → β} {values : List α}
    (same : SameSigns dialect other (values.flatMap known))
    (each : ∀ value ∈ values, SameSigns dialect other (known value) → layout value = layout' value) :
    values.map layout = values.map layout' := by
  refine List.map_congr_left fun value member => each value member fun idiom inside => ?_
  exact same idiom (List.mem_flatMap.mpr ⟨value, member, inside⟩)

private theorem Idiom.spelling_ne_nil (dialect : Dialect) (idiom : Idiom) :
    (idiom.spelling dialect).toList ≠ [] := by
  cases idiom with
  | inequality =>
    rw [spelling]
    cases dialect.notEqual <;> decide
  | constructor name =>
    rw [spelling, Dialect.qualify]
    cases dialect.schema <;> cases name <;> simp [SpatialName.spelling]

/-! The idioms of a tree, in the order of its text. -/

def BinaryOp.idioms (op : BinaryOp) : List Idiom := if op = .ne then [.inequality] else []

/-- A dimension with a number that cannot be spelled is not written. -/
def DimElement.idioms (element : DimElement) : List Idiom :=
  if element.isFinite then [.constructor .dimElement] else []

namespace Expr

mutual

def idioms : Expr → List Idiom
  | .column _ | .literal _ => []
  | .binary op left right => idioms left ++ op.idioms ++ idioms right
  | .unary _ operand => idioms operand
  | .call _ args => idiomsEach args
  | .between test lower upper _ =>
    idiomsOperand test ++ idiomsOperand lower ++ idiomsOperand upper
  | .inList tested choices _ => idioms tested ++ idiomsEach choices
  | .dimArray elements => .constructor .dimArray :: elements.flatMap DimElement.idioms

def idiomsEach : List Expr → List Idiom
  | [] => []
  | head :: rest => idioms head ++ idiomsEach rest

def idiomsOperand : Option Expr → List Idiom
  | some operand => idioms operand
  | none => []

end

theorem idiomsEach_eq_flatMap (exprs : List Expr) : idiomsEach exprs = exprs.flatMap idioms := by
  induction exprs with
  | nil => rfl
  | cons head rest ih => rw [idiomsEach, ih, List.flatMap_cons]

end Expr

namespace Predicate

mutual

def idioms : Predicate → List Idiom
  | .quantification _ _ condition => idiomsCondition condition
  | .atom _ args => args.flatMap Expr.idioms
  | .negation operand => idioms operand
  | .junction _ operands => idiomsEach operands

def idiomsEach : List Predicate → List Idiom
  | [] => []
  | head :: rest => idioms head ++ idiomsEach rest

def idiomsCondition : Option Predicate → List Idiom
  | some condition => idioms condition
  | none => []

end

theorem idiomsEach_eq_flatMap (predicates : List Predicate) :
    idiomsEach predicates = predicates.flatMap idioms := by
  induction predicates with
  | nil => rfl
  | cons head rest ih => rw [idiomsEach, ih, List.flatMap_cons]

end Predicate

def Item.idioms : Item → List Idiom
  | .expression tree => tree.idioms
  | .predicate tree => tree.idioms

/-! The idioms of a layout. -/

namespace Lexeme

def idiom? : Lexeme → Option Idiom
  | .sign .notEqual => some .inequality
  | .spatial constructor => some (.constructor constructor)
  | _ => none

theorem spelling_of_idiom? {lexeme : Lexeme} (found : lexeme.idiom? = some idiom)
    (dialect : Dialect) : lexeme.spelling dialect = idiom.spelling dialect := by
  cases lexeme with
  | sign symbol =>
    cases symbol with
    | notEqual =>
      cases found
      rfl
    | plus | minus | times | divide | modulo | equal | less | lessEqual | greater | greaterEqual
    | concat => cases found
  | spatial name =>
    cases found
    rfl
  | space | opening | closing | comma | dot | bar | keyword | name | integer | number | quoted | gap =>
    cases found

/-- All else is spelled alike in all dialects. -/
theorem spelling_plain {lexeme : Lexeme} (plain : lexeme.idiom? = none) (dialect other : Dialect) :
    lexeme.spelling dialect = lexeme.spelling other := by
  cases lexeme with
  | sign symbol =>
    cases symbol with
    | notEqual => cases plain
    | plus | minus | times | divide | modulo | equal | less | lessEqual | greater | greaterEqual
    | concat => rfl
  | spatial name => cases plain
  | space | opening | closing | comma | dot | bar | keyword | name | integer | number | quoted | gap =>
    rfl

def idioms (row : List Lexeme) : List Idiom := row.filterMap idiom?

@[simp] theorem idioms_nil : idioms [] = [] := rfl

@[simp] theorem idioms_append (first second : List Lexeme) :
    idioms (first ++ second) = idioms first ++ idioms second := List.filterMap_append

private theorem idioms_cons (lexeme : Lexeme) (rest : List Lexeme) :
    idioms (lexeme :: rest) = lexeme.idiom?.toList ++ idioms rest := by
  rw [idioms, List.filterMap_cons, ← idioms]
  cases lexeme.idiom? <;> rfl

@[simp] theorem idioms_parenthesized (body : List Lexeme) :
    idioms (parenthesized body) = idioms body := by
  simp [parenthesized, idioms_cons, idiom?]

@[simp] theorem idioms_parenthesizedIf (needed : Bool) (body : List Lexeme) :
    idioms (parenthesizedIf needed body) = idioms body := by
  cases needed <;> simp [parenthesizedIf]

@[simp] theorem idioms_negationMark (negated : Bool) : idioms (negationMark negated) = [] := by
  cases negated <;> rfl

private theorem idioms_intercalate {separator : List Lexeme} (plain : idioms separator = [])
    (bodies : List (List Lexeme)) :
    idioms (separator.intercalate bodies) = bodies.flatMap idioms := by
  cases bodies with
  | nil => rfl
  | cons head rest =>
    rw [Expr.intercalate_cons, idioms_append, List.flatMap_cons]
    congr 1
    induction rest with
    | nil => rfl
    | cons next rest ih => simp [plain, ih]

@[simp] theorem idioms_commaSeparated (bodies : List (List Lexeme)) :
    idioms (commaSeparated bodies) = bodies.flatMap idioms := idioms_intercalate rfl bodies

/-- Layouts that have the idioms of what they are layouts of. -/
theorem idioms_each {layout : α → List Lexeme} {known : α → List Idiom} {values : List α}
    (same : ∀ value ∈ values, idioms (layout value) = known value) :
    (values.map layout).flatMap idioms = values.flatMap known := by
  rw [List.flatMap_map, List.flatMap_def, List.flatMap_def, List.map_congr_left same]

/-- A row begins with a minus in both dialects or in neither, if they agree on its idioms. -/
theorem startsWith_of_sameSigns {row : List Lexeme} {dialect other : Dialect}
    (same : SameSigns dialect other (idioms row)) :
    startsWith dialect '-' row = startsWith other '-' row := by
  induction row with
  | nil => rfl
  | cons lexeme rest ih =>
    cases found : lexeme.idiom? with
    | none =>
      rw [idioms_cons, found, Option.toList_none, List.nil_append] at same
      rw [startsWith, startsWith, spelling_plain found dialect other, ih same]
    | some idiom =>
      rw [idioms_cons, found] at same
      have signs := same idiom List.mem_cons_self
      have nonempty := idiom.spelling_ne_nil dialect
      have nonempty' := idiom.spelling_ne_nil other
      rw [Idiom.isSigned, Idiom.isSigned] at signs
      rw [startsWith, startsWith, spelling_of_idiom? found, spelling_of_idiom? found]
      cases shown : (idiom.spelling dialect).toList with
      | nil => exact absurd shown nonempty
      | cons first more =>
        cases shown' : (idiom.spelling other).toList with
        | nil => exact absurd shown' nonempty'
        | cons first' more' => simpa [shown, shown'] using signs

/-- Rows without idioms of different spellings have the same characters. -/
theorem chars_of_idioms {row : List Lexeme} {dialect other : Dialect}
    (same : ∀ idiom ∈ idioms row, idiom.spelling dialect = idiom.spelling other) :
    chars dialect row = chars other row := by
  induction row with
  | nil => rfl
  | cons lexeme rest ih =>
    rw [idioms_cons] at same
    have inRest := ih fun idiom member => same idiom (List.mem_append_right _ member)
    rw [chars_cons, chars_cons, inRest]
    cases found : lexeme.idiom? with
    | none => rw [spelling_plain found dialect other]
    | some idiom =>
      rw [spelling_of_idiom? found, spelling_of_idiom? found, same idiom (by simp [found])]

/-- What is replaced in the text of a row, if it is known what is replaced in each lexeme in front of a
rest that it ends before. -/
theorem replaces_row {pattern replacement : List Char} {row : List Lexeme} {dialect other : Dialect}
    (spaced : Spaced dialect row)
    (each : ∀ lexeme ∈ row, ∀ rest result, lexeme.EndsBefore dialect rest →
      Replaces pattern replacement (chars dialect rest) result →
      Replaces pattern replacement ((lexeme.spelling dialect).toList ++ chars dialect rest)
        ((lexeme.spelling other).toList ++ result)) :
    Replaces pattern replacement (chars dialect row) (chars other row) := by
  induction row with
  | nil => exact .done
  | cons lexeme rest ih =>
    obtain ⟨ends, spaced⟩ := spaced
    have inRest := ih spaced fun next member => each next (List.mem_cons_of_mem _ member)
    exact each lexeme List.mem_cons_self rest _ ends inRest

end Lexeme

theorem Column.idioms_lexemes (column : Column) : Lexeme.idioms column.lexemes = [] := by
  rw [lexemes]
  cases column.table <;> rfl

theorem Literal.idioms_lexemes (literal : Literal) : Lexeme.idioms literal.lexemes = [] := by
  rw [lexemes]
  split
  · cases literal with
    | boolean value => cases value <;> rfl
    | null | integer | number | text => rfl
  · rfl

theorem DimElement.idioms_lexemes (element : DimElement) :
    Lexeme.idioms element.lexemes = element.idioms := by
  rw [lexemes, idioms]
  split <;> rfl

namespace Expr

private theorem idioms_operator (op : BinaryOp) :
    Lexeme.idioms [.space, op.lexeme, .space] = op.idioms := by
  cases op <;> rfl

private theorem idioms_unaryLexemes (dialect : Dialect) (operand : List Lexeme) (op : UnaryOp) :
    Lexeme.idioms (unaryLexemes dialect operand op) = Lexeme.idioms operand := by
  cases op <;> simp [unaryLexemes, Lexeme.idioms_cons, Lexeme.idiom?]

private theorem idioms_lexemesOrGap {operand : Option Expr}
    (same : ∀ expr ∈ operand, Lexeme.idioms (expr.lexemes dialect) = expr.idioms) (absent : Gap) :
    Lexeme.idioms (lexemesOrGap dialect absent operand) = idiomsOperand operand := by
  cases operand with
  | none => rfl
  | some expr => rw [lexemesOrGap, Lexeme.idioms_parenthesizedIf, same expr rfl, idiomsOperand]

/-- The layout of an expression has its idioms, in any dialect. -/
theorem idioms_lexemes (dialect : Dialect) (expr : Expr) :
    Lexeme.idioms (expr.lexemes dialect) = expr.idioms := by
  induction expr using Expr.induct with
  | column reference => rw [lexemes, reference.idioms_lexemes, idioms]
  | literal value => rw [lexemes, value.idioms_lexemes, idioms]
  | binary op left right inLeft inRight =>
    simp only [lexemes, idioms, Lexeme.idioms_append, Lexeme.idioms_parenthesizedIf, idioms_operator,
      inLeft, inRight]
  | unary op operand inOperand =>
    rw [lexemes, idioms_unaryLexemes, Lexeme.idioms_parenthesizedIf, inOperand, idioms]
  | call name args inArgs =>
    rw [lexemes, Lexeme.idioms_cons, Lexeme.idioms_parenthesized, Lexeme.idioms_commaSeparated,
      lexemesEach_eq_map, Lexeme.idioms_each inArgs, idioms, idiomsEach_eq_flatMap]
    rfl
  | between test lower upper negated inTest inLower inUpper =>
    simp [lexemes, idioms, idioms_lexemesOrGap inTest, idioms_lexemesOrGap inLower,
      idioms_lexemesOrGap inUpper, Lexeme.idioms_cons, Lexeme.idiom?]
  | inList tested choices negated inTested inChoices =>
    have listed : Lexeme.idioms (if choices.isEmpty then [.gap .inListItems]
        else Lexeme.commaSeparated (lexemesEach dialect choices)) = idiomsEach choices := by
      cases choices with
      | nil => rfl
      | cons head rest =>
        rw [if_neg (by simp), Lexeme.idioms_commaSeparated, lexemesEach_eq_map,
          Lexeme.idioms_each inChoices, idiomsEach_eq_flatMap]
    rw [lexemes, idioms]
    simp only [Lexeme.idioms_append, Lexeme.idioms_cons, Lexeme.idioms_parenthesizedIf,
      Lexeme.idioms_negationMark, Lexeme.idioms_parenthesized, inTested, listed]
    simp [Lexeme.idiom?]
  | dimArray elements =>
    rw [lexemes, Lexeme.idioms_cons, Lexeme.idioms_parenthesized, idioms]
    cases elements with
    | nil => rfl
    | cons head rest =>
      rw [if_neg (by simp), Lexeme.idioms_commaSeparated,
        Lexeme.idioms_each fun element _ => element.idioms_lexemes]
      rfl

theorem lexemesOrGap_of_sameSigns {operand : Option Expr}
    (alike : ∀ expr ∈ operand, SameSigns dialect other expr.idioms →
      expr.lexemes dialect = expr.lexemes other)
    (same : SameSigns dialect other (idiomsOperand operand)) (absent : Gap) :
    lexemesOrGap dialect absent operand = lexemesOrGap other absent operand := by
  cases operand with
  | none => rfl
  | some expr => rw [lexemesOrGap, lexemesOrGap, alike expr rfl same]

/-- Dialects that agree on which idioms of an expression begin with a minus lay it out alike. -/
theorem lexemes_of_sameSigns {dialect other : Dialect} {expr : Expr}
    (same : SameSigns dialect other expr.idioms) :
    expr.lexemes dialect = expr.lexemes other := by
  induction expr using Expr.induct with
  | column | literal | dimArray => rfl
  | binary op left right inLeft inRight =>
    rw [idioms] at same
    rw [lexemes, lexemes, inLeft same.append.1.append.1, inRight same.append.2]
  | unary op operand inOperand =>
    have alike := inOperand same
    have begins : Lexeme.startsWith dialect '-' (Lexeme.parenthesizedIf
          (operand.precedence < op.operandMinimum) (operand.lexemes other)) =
        Lexeme.startsWith other '-' (Lexeme.parenthesizedIf
          (operand.precedence < op.operandMinimum) (operand.lexemes other)) := by
      refine Lexeme.startsWith_of_sameSigns ?_
      rwa [Lexeme.idioms_parenthesizedIf, idioms_lexemes]
    rw [lexemes, lexemes, alike]
    cases op with
    | minus => rw [unaryLexemes, unaryLexemes, begins]
    | not | isNull | isNotNull => rfl
  | call name args inArgs =>
    rw [idioms, idiomsEach_eq_flatMap] at same
    rw [lexemes, lexemes, lexemesEach_eq_map, lexemesEach_eq_map, same.map inArgs]
  | between test lower upper negated inTest inLower inUpper =>
    rw [idioms] at same
    rw [lexemes, lexemes, lexemesOrGap_of_sameSigns inTest same.append.1.append.1,
      lexemesOrGap_of_sameSigns inLower same.append.1.append.2,
      lexemesOrGap_of_sameSigns inUpper same.append.2]
  | inList tested choices negated inTested inChoices =>
    rw [idioms, idiomsEach_eq_flatMap] at same
    rw [lexemes, lexemes, lexemesEach_eq_map, lexemesEach_eq_map, inTested same.append.1,
      same.append.2.map inChoices]

end Expr

namespace Predicate

private theorem idioms_lexemesOrGap {condition : Option Predicate}
    (same : ∀ body ∈ condition, Lexeme.idioms (body.lexemes dialect) = body.idioms) :
    Lexeme.idioms (lexemesOrGap dialect condition) = idiomsCondition condition := by
  cases condition with
  | none => rfl
  | some body => rw [lexemesOrGap, same body rfl, idiomsCondition]

theorem idioms_lexemes (dialect : Dialect) (predicate : Predicate) :
    Lexeme.idioms (predicate.lexemes dialect) = predicate.idioms := by
  induction predicate using Predicate.induct with
  | quantification quantifier bound condition inCondition =>
    have plain : Lexeme.idioms (variableLexemes bound) = [] := by
      cases bound <;> rfl
    simp [lexemes, idioms, plain, idioms_lexemesOrGap inCondition, Lexeme.idioms_cons, Lexeme.idiom?]
  | atom name args =>
    rw [lexemes, Lexeme.idioms_cons, Lexeme.idioms_parenthesized, Lexeme.idioms_intercalate rfl,
      Lexeme.idioms_each fun arg _ => arg.idioms_lexemes dialect, idioms]
    rfl
  | negation operand inOperand =>
    simp [lexemes, idioms, inOperand, Lexeme.idioms_cons, Lexeme.idiom?]
  | junction op operands inOperands =>
    rw [lexemes, Lexeme.idioms_parenthesized, idioms]
    cases operands with
    | nil => rfl
    | cons head rest =>
      rw [if_neg (by simp), Lexeme.idioms_intercalate rfl, lexemesEach_eq_map,
        Lexeme.idioms_each inOperands, idiomsEach_eq_flatMap]

theorem lexemes_of_sameSigns {dialect other : Dialect} {predicate : Predicate}
    (same : SameSigns dialect other predicate.idioms) :
    predicate.lexemes dialect = predicate.lexemes other := by
  induction predicate using Predicate.induct with
  | quantification quantifier bound condition inCondition =>
    cases condition with
    | none => rfl
    | some body =>
      rw [lexemes, lexemes, lexemesOrGap, lexemesOrGap, inCondition body rfl same]
  | atom name args =>
    rw [lexemes, lexemes, SameSigns.map same fun arg _ => Expr.lexemes_of_sameSigns]
  | negation operand inOperand => rw [lexemes, lexemes, inOperand same]
  | junction op operands inOperands =>
    rw [idioms, idiomsEach_eq_flatMap] at same
    rw [lexemes, lexemes, lexemesEach_eq_map, lexemesEach_eq_map, same.map inOperands]

end Predicate

namespace Item

theorem idioms_lexemes (dialect : Dialect) (item : Item) :
    Lexeme.idioms (item.lexemes dialect) = item.idioms := by
  cases item with
  | expression tree => exact tree.idioms_lexemes dialect
  | predicate tree => exact tree.idioms_lexemes dialect

/-- Dialects that agree on which idioms of a tree begin with a minus lay it out alike. -/
theorem lexemes_of_sameSigns {dialect other : Dialect} {item : Item}
    (same : SameSigns dialect other item.idioms) : item.lexemes dialect = item.lexemes other := by
  cases item with
  | expression tree => exact Expr.lexemes_of_sameSigns same
  | predicate tree => exact Predicate.lexemes_of_sameSigns same

end Item
end ConstraintTree
