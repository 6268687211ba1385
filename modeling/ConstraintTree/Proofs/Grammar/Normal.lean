import ConstraintTree.Proofs.Grammar.ReadBack

/-!
Trees that no text tells apart. A minus in front of a positive integer literal is written like the
negative literal, and a junction of a single predicate is written without its connective. A normal tree
has the literal and the conjunction.
-/
namespace ConstraintTree

private theorem toInt_neg_of_pos {value : Int64} (positive : 0 < value.toInt) :
    (-value).toInt = -value.toInt := by
  have upper : value.toInt ≤ 2 ^ 63 - 1 := value.toInt_le
  rw [Int64.toInt_neg]
  exact Int.bmod_eq_of_le (by omega) (by omega)

namespace Expr

/-- The negative literal that an operator in front of a positive one makes. -/
def negated? : UnaryOp → Expr → Option Expr
  | .minus, .literal (.integer value) =>
    if 0 < value.toInt then some (.literal (.integer (-value))) else none
  | _, _ => none

mutual

/-- The expression with negative literals instead of minus signs in front of positive ones. -/
def normal : Expr → Expr
  | .column reference => .column reference
  | .literal value => .literal value
  | .binary op left right => .binary op (normal left) (normal right)
  | .unary op operand => (negated? op operand).getD (.unary op (normal operand))
  | .call name args => .call name (normalEach args)
  | .between test lower upper negated =>
    .between (normalOperand test) (normalOperand lower) (normalOperand upper) negated
  | .inList tested choices negated => .inList (normal tested) (normalEach choices) negated
  | .dimArray elements => .dimArray elements

def normalEach : List Expr → List Expr
  | [] => []
  | head :: rest => normal head :: normalEach rest

def normalOperand : Option Expr → Option Expr
  | some operand => some (normal operand)
  | none => none

end

theorem normalEach_eq_map (exprs : List Expr) : normalEach exprs = exprs.map normal := by
  induction exprs with
  | nil => rfl
  | cons head rest ih => rw [normalEach, ih, List.map_cons]

private theorem negated_cases {op : UnaryOp} {operand negative : Expr}
    (found : negated? op operand = some negative) :
    ∃ value, op = .minus ∧ operand = .literal (.integer value) ∧ 0 < value.toInt ∧
      negative = .literal (.integer (-value)) := by
  rw [negated?.eq_def] at found
  split at found
  · split at found
    · cases found
      exact ⟨_, rfl, rfl, ‹_›, rfl⟩
    · cases found
  · cases found

end Expr

namespace Predicate

mutual

/-- The predicate with normal arguments, and with conjunctions where a junction has one operand. -/
def normal : Predicate → Predicate
  | .quantification quantifier bound condition =>
    .quantification quantifier bound (normalCondition condition)
  | .atom name args => .atom name (args.map Expr.normal)
  | .negation operand => .negation (normal operand)
  | .junction op operands =>
    .junction (if operands.length = 1 then .and else op) (normalEach operands)

def normalEach : List Predicate → List Predicate
  | [] => []
  | head :: rest => normal head :: normalEach rest

def normalCondition : Option Predicate → Option Predicate
  | some condition => some (normal condition)
  | none => none

end

theorem normalEach_eq_map (predicates : List Predicate) :
    normalEach predicates = predicates.map normal := by
  induction predicates with
  | nil => rfl
  | cons head rest ih => rw [normalEach, ih, List.map_cons]

end Predicate

/-! The expression that a term says. -/

namespace Term

/-- The negative literal that an operator in front of a positive numeral makes. -/
def negated? : UnaryOp → Term → Option Expr
  | .minus, .integer magnitude =>
    if 0 < magnitude then some (.literal (.integer (Int64.ofInt (-magnitude)))) else none
  | _, _ => none

mutual

/-- The normal expression that says the term. -/
def expr : Term → Expr
  | .column reference => .column reference
  | .null => .literal .null
  | .boolean value => .literal (.boolean value)
  | .integer magnitude => .literal (.integer (Int64.ofNat magnitude))
  | .text content => .literal (.text content)
  | .binary op left right => .binary op (expr left) (expr right)
  | .unary op operand => (negated? op operand).getD (.unary op (expr operand))
  | .call name args => .call name (exprs args)
  | .between test lower upper negated =>
    .between (some (expr test)) (some (expr lower)) (some (expr upper)) negated
  | .inList tested choices negated => .inList (expr tested) (exprs choices) negated

def exprs : List Term → List Expr
  | [] => []
  | head :: rest => expr head :: exprs rest

end

private theorem exprs_eq_map (terms : List Term) : exprs terms = terms.map expr := by
  induction terms with
  | nil => rfl
  | cons head rest ih => rw [exprs, ih, List.map_cons]

end Term

namespace Expr

/-- A term makes a negative literal where its expression does. -/
theorem negated_term (op : UnaryOp) (operand : Expr) :
    Term.negated? op operand.term = negated? op operand := by
  cases op with
  | not | isNull | isNotNull => rfl
  | minus =>
    cases operand with
    | literal value =>
      cases value with
      | integer value =>
        by_cases negative : value.toInt < 0
        · have small : ¬0 < value.toInt := by omega
          simp [term, negative, Term.negated?, negated?, small]
        · have magnitude : (value.toInt.natAbs : Int) = value.toInt := by omega
          have positive : 0 < value.toInt.natAbs ↔ 0 < value.toInt := by omega
          have same : Int64.ofInt (-value.toInt) = -value := by
            rw [Int64.ofInt_neg, Int64.ofInt_toInt]
          simp only [term, if_neg negative, Term.negated?, negated?, positive, magnitude, same]
      | null | boolean | number | text => simp [term, Term.negated?, negated?]
    | column | binary | unary | call | between | inList | dimArray =>
      simp [term, Term.negated?, negated?]

theorem expr_terms {exprs : List Expr} (same : ∀ expr ∈ exprs, expr.term.expr = expr.normal) :
    Term.exprs (terms exprs) = normalEach exprs := by
  rw [Term.exprs_eq_map, terms_eq_map, normalEach_eq_map, List.map_map]
  exact List.map_congr_left same

/-- The term of a readable expression says its normal form. -/
theorem expr_term (readable : Readable expr) : expr.term.expr = expr.normal := by
  induction readable with
  | column | qualified | null | boolean | text => rfl
  | integer value =>
    have whole : Int64.ofInt value.toInt = value := value.ofInt_toInt
    by_cases negative : value.toInt < 0
    · have magnitude : -(value.toInt.natAbs : Int) = value.toInt := by omega
      have positive : 0 < value.toInt.natAbs := by omega
      rw [term, if_pos negative, Term.expr, Term.negated?, if_pos positive, magnitude, whole]
      rfl
    · have magnitude : (value.toInt.natAbs : Int) = value.toInt := by omega
      rw [term, if_neg negative, Term.expr, ← Int64.ofInt_eq_ofNat, magnitude, whole]
      rfl
  | binary op left right inLeft inRight => rw [term, Term.expr, inLeft, inRight, normal]
  | unary op operand inOperand => rw [term, Term.expr, negated_term, inOperand, normal]
  | call named each inEach => rw [term, Term.expr, expr_terms inEach, normal]
  | between negated test lower upper inTest inLower inUpper =>
    simp only [term, operandTerm, Term.expr, inTest, inLower, inUpper, normal, normalOperand]
  | inList negated operand nonempty each inOperand inEach =>
    rw [term, Term.expr, inOperand, expr_terms inEach, normal]

end Expr

/-! Normal trees have the same text. -/

namespace Lexeme

private theorem chars_parenthesizedIf (dialect : Dialect) (needed : Bool) (body : List Lexeme) :
    chars dialect (parenthesizedIf needed body) =
      if needed then '(' :: (chars dialect body ++ [')']) else chars dialect body := by
  cases needed with
  | false => rfl
  | true => simp [parenthesizedIf, parenthesized, spelling]

private theorem chars_intercalate (dialect : Dialect) (separator : List Lexeme)
    (bodies : List (List Lexeme)) :
    chars dialect (separator.intercalate bodies) =
      (chars dialect separator).intercalate (bodies.map (chars dialect)) :=
  flatMap_intercalate _ separator bodies

/-- Layouts that are spelled the same after a change of the values. -/
theorem chars_each {layout : α → List Lexeme} {change : α → α} {values : List α}
    (same : ∀ value ∈ values, chars dialect (layout (change value)) = chars dialect (layout value)) :
    ((values.map change).map layout).map (chars dialect) =
      (values.map layout).map (chars dialect) := by
  rw [List.map_map, List.map_map, List.map_map]
  exact List.map_congr_left same

end Lexeme

namespace Expr

open Lexeme (chars)

/-- No place tells a minus from a leaf. -/
theorem loose_normal (expr : Expr) {minimum : Precedence} (low : minimum ≤ 7) :
    expr.normal.precedence < minimum ↔ expr.precedence < minimum := by
  cases expr with
  | unary op operand =>
    rw [normal]
    cases found : negated? op operand with
    | none => rfl
    | some negative =>
      obtain ⟨value, rfl, rfl, -, rfl⟩ := negated_cases found
      have leaf : minimum ≤ Precedence.atom := Nat.le_trans low (by decide)
      exact iff_of_false (Nat.not_lt.mpr leaf) (Nat.not_lt.mpr low)
  | column | literal | binary | call | between | inList | dimArray => simp only [normal, precedence]

private theorem chars_operand {expr : Expr} {minimum : Precedence} (low : minimum ≤ 7)
    (same : chars dialect (expr.normal.lexemes dialect) = chars dialect (expr.lexemes dialect)) :
    chars dialect (Lexeme.parenthesizedIf (expr.normal.precedence < minimum)
        (expr.normal.lexemes dialect)) =
      chars dialect (Lexeme.parenthesizedIf (expr.precedence < minimum) (expr.lexemes dialect)) := by
  rw [Lexeme.chars_parenthesizedIf, Lexeme.chars_parenthesizedIf, same]
  simp only [loose_normal expr low]

private theorem chars_unaryLexemes {operand other : List Lexeme}
    (same : chars dialect operand = chars dialect other) (op : UnaryOp) :
    chars dialect (unaryLexemes dialect operand op) = chars dialect (unaryLexemes dialect other op) := by
  cases op with
  | minus =>
    rw [unaryLexemes, unaryLexemes, Lexeme.chars_cons, Lexeme.chars_cons, Lexeme.startsWith_eq,
      Lexeme.startsWith_eq, Lexeme.chars_parenthesizedIf, Lexeme.chars_parenthesizedIf, same]
  | not | isNull | isNotNull => simp [unaryLexemes, same]

private theorem chars_lexemesOrGap {operand : Option Expr}
    (same : ∀ expr ∈ operand,
      chars dialect (expr.normal.lexemes dialect) = chars dialect (expr.lexemes dialect))
    (absent : Gap) :
    chars dialect (lexemesOrGap dialect absent (normalOperand operand)) =
      chars dialect (lexemesOrGap dialect absent operand) := by
  cases operand with
  | none => rfl
  | some expr => exact chars_operand (by decide) (same expr rfl)

private theorem chars_listed {exprs : List Expr}
    (same : ∀ expr ∈ exprs,
      chars dialect (expr.normal.lexemes dialect) = chars dialect (expr.lexemes dialect)) :
    chars dialect (Lexeme.commaSeparated (lexemesEach dialect (normalEach exprs))) =
      chars dialect (Lexeme.commaSeparated (lexemesEach dialect exprs)) := by
  rw [lexemesEach_eq_map, lexemesEach_eq_map, normalEach_eq_map, Lexeme.commaSeparated,
    Lexeme.commaSeparated, Lexeme.chars_intercalate, Lexeme.chars_intercalate, Lexeme.chars_each same]

/-- A negative literal is written like a minus in front of its magnitude. -/
theorem chars_negative {value : Int64} (positive : 0 < value.toInt) (dialect : Dialect) :
    chars dialect ((Expr.literal (.integer (-value))).lexemes dialect) =
      chars dialect ((Expr.unary .minus (.literal (.integer value))).lexemes dialect) := by
  have negative : (-value).toInt < 0 := by
    rw [toInt_neg_of_pos positive]
    omega
  have own : ¬value.toInt < 0 := by omega
  have digits : chars dialect [.integer value] = Nat.toDigits 10 value.toInt.natAbs := by
    rw [Lexeme.chars_cons, Lexeme.toList_spelling_integer, if_neg own]
    simp
  have unsigned : Lexeme.startsWith dialect '-' [.integer value] = false :=
    Lexeme.unsigned_integer own dialect
  have laidOut : (Expr.unary .minus (.literal (.integer value))).lexemes dialect =
      [.sign .minus, .integer value] := by
    change .sign .minus :: Lexeme.parenthesizedIf (Lexeme.startsWith dialect '-' [.integer value]) _ = _
    rw [unsigned]
    rfl
  rw [laidOut, Lexeme.chars_cons, digits]
  change chars dialect [.integer (-value)] = _
  rw [Lexeme.chars_cons, Lexeme.toList_spelling_integer, if_pos negative, toInt_neg_of_pos positive,
    Int.natAbs_neg]
  simp [Lexeme.spelling, Sign.spelling]

/-- The normal expression has the same text. -/
theorem chars_normal (dialect : Dialect) (expr : Expr) :
    chars dialect (expr.normal.lexemes dialect) = chars dialect (expr.lexemes dialect) := by
  induction expr using Expr.induct with
  | column | literal | dimArray => rw [normal]
  | binary op left right inLeft inRight =>
    have low : op.leftMinimum ≤ 7 ∧ op.rightMinimum ≤ 7 := by cases op <;> decide
    simp only [normal, lexemes, Lexeme.chars_append, chars_operand low.1 inLeft,
      chars_operand low.2 inRight]
  | unary op operand inOperand =>
    rw [normal]
    cases found : negated? op operand with
    | none =>
      have low : op.operandMinimum ≤ 7 := by cases op <;> decide
      rw [Option.getD_none, lexemes, lexemes]
      exact chars_unaryLexemes (chars_operand low inOperand) op
    | some negative =>
      obtain ⟨value, rfl, rfl, positive, rfl⟩ := negated_cases found
      exact chars_negative positive dialect
  | call name args inArgs =>
    simp only [normal, lexemes, Lexeme.parenthesized, Lexeme.chars_cons, Lexeme.chars_append,
      List.cons_append, chars_listed inArgs]
  | between test lower upper negated inTest inLower inUpper =>
    simp only [normal, lexemes, Lexeme.chars_append, Lexeme.chars_cons, chars_lexemesOrGap inTest,
      chars_lexemesOrGap inLower, chars_lexemesOrGap inUpper]
  | inList tested choices negated inTested inChoices =>
    have first := chars_operand (show testMinimum ≤ 7 by decide) inTested
    have empty : (normalEach choices).isEmpty = choices.isEmpty := by
      rw [normalEach_eq_map, List.isEmpty_map]
    have listed : chars dialect (if choices.isEmpty then [Lexeme.gap .inListItems]
          else Lexeme.commaSeparated (lexemesEach dialect (normalEach choices))) =
        chars dialect (if choices.isEmpty then [Lexeme.gap .inListItems]
          else Lexeme.commaSeparated (lexemesEach dialect choices)) := by
      split
      · rfl
      · exact chars_listed inChoices
    simp only [normal, lexemes, Lexeme.parenthesized, Lexeme.chars_append, Lexeme.chars_cons,
      List.cons_append, first, empty, listed]

end Expr

namespace Predicate

open Lexeme (chars)

private theorem chars_lexemesOrGap {condition : Option Predicate}
    (same : ∀ body ∈ condition,
      chars dialect (body.normal.lexemes dialect) = chars dialect (body.lexemes dialect)) :
    chars dialect (lexemesOrGap dialect (normalCondition condition)) =
      chars dialect (lexemesOrGap dialect condition) := by
  cases condition with
  | none => rfl
  | some body => exact same body rfl

/-- A junction of one operand does not show its connective. -/
theorem chars_junction (dialect : Dialect) (op other : Junction) {bodies : List (List Lexeme)}
    (single : bodies.length = 1 ∨ op = other) :
    chars dialect ([Lexeme.space, .keyword op.keyword, .space].intercalate bodies) =
      chars dialect ([Lexeme.space, .keyword other.keyword, .space].intercalate bodies) := by
  rcases single with one | rfl
  · obtain ⟨body, rfl⟩ := List.length_eq_one_iff.mp one
    simp [List.intercalate]
  · rfl

theorem chars_normal (dialect : Dialect) (predicate : Predicate) :
    chars dialect (predicate.normal.lexemes dialect) = chars dialect (predicate.lexemes dialect) := by
  induction predicate using Predicate.induct with
  | quantification quantifier bound condition inCondition =>
    simp only [normal, lexemes, Lexeme.parenthesized, Lexeme.chars_append, Lexeme.chars_cons,
      List.cons_append, chars_lexemesOrGap inCondition]
  | atom name args =>
    have each := Lexeme.chars_each fun arg (_ : arg ∈ args) => arg.chars_normal dialect
    simp only [normal, lexemes, Lexeme.parenthesized, Lexeme.chars_append, Lexeme.chars_cons,
      List.cons_append, Lexeme.chars_intercalate, each]
  | negation operand inOperand =>
    simp only [normal, lexemes, Lexeme.parenthesized, Lexeme.chars_append, Lexeme.chars_cons,
      List.cons_append, inOperand]
  | junction op operands inOperands =>
    have empty : (normalEach operands).isEmpty = operands.isEmpty := by
      rw [normalEach_eq_map, List.isEmpty_map]
    have each := Lexeme.chars_each inOperands
    have joined : chars dialect (if operands.isEmpty then [Lexeme.gap .connectiveOperands]
          else [Lexeme.space, .keyword (if operands.length = 1 then .and else op).keyword,
            .space].intercalate (lexemesEach dialect (normalEach operands))) =
        chars dialect (if operands.isEmpty then [Lexeme.gap .connectiveOperands]
          else [Lexeme.space, .keyword op.keyword, .space].intercalate
            (lexemesEach dialect operands)) := by
      split
      · rfl
      · rw [lexemesEach_eq_map, lexemesEach_eq_map, normalEach_eq_map, Lexeme.chars_intercalate,
          each, ← Lexeme.chars_intercalate]
        refine chars_junction dialect _ _ ?_
        by_cases one : operands.length = 1
        · exact .inl (by simpa using one)
        · exact .inr (if_neg one)
    simp only [normal, lexemes, Lexeme.parenthesized, Lexeme.chars_append, Lexeme.chars_cons,
      List.cons_append, empty, joined]

end Predicate

end ConstraintTree
