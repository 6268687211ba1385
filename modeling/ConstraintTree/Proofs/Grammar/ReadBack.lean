import ConstraintTree.Proofs.Grammar.Legibility
import ConstraintTree.Proofs.Grammar.Reader
import ConstraintTree.Rendering

namespace ConstraintTree

namespace Expr

mutual

/-- The term that an expression says. A negative integer is a minus in front of its magnitude; what
cannot be read back counts as null. -/
def term : Expr → Term
  | .column reference => .column reference
  | .literal .null => .null
  | .literal (.boolean value) => .boolean value
  | .literal (.integer value) =>
    if value.toInt < 0 then .unary .minus (.integer value.toInt.natAbs)
    else .integer value.toInt.natAbs
  | .literal (.number _) => .null
  | .literal (.text content) => .text content
  | .binary op left right => .binary op (term left) (term right)
  | .unary op operand => .unary op (term operand)
  | .call name args => .call name (terms args)
  | .between test lower upper negated =>
    .between (operandTerm test) (operandTerm lower) (operandTerm upper) negated
  | .inList tested choices negated => .inList (term tested) (terms choices) negated
  | .dimArray _ => .null

def terms : List Expr → List Term
  | [] => []
  | head :: rest => term head :: terms rest

def operandTerm : Option Expr → Term
  | some operand => term operand
  | none => .null

end

theorem terms_eq_map (exprs : List Expr) : terms exprs = exprs.map term := by
  induction exprs with
  | nil => rfl
  | cons head rest ih => simp [terms, ih]

/-- The stratum of which the layout of an expression is a phrase. A leaf may be a negative integer,
which is no atom. -/
def stratum : Expr → Stratum
  | .binary op .. =>
    match op with
    | .or => .disjunction
    | .and => .conjunction
    | .eq | .ne | .lt | .le | .gt | .ge | .like => .comparison
    | .add | .sub | .concat => .sum
    | .mul | .div | .mod => .product
  | .unary op .. =>
    match op with
    | .not => .negation
    | .minus => .signed
    | .isNull | .isNotNull => .comparison
  | .between .. | .inList .. => .comparison
  | .column .. | .literal .. | .call .. | .dimArray .. => .signed

private theorem rank_stratum (expr : Expr) : expr.stratum.rank = min expr.precedence 7 := by
  cases expr with
  | binary op left right => cases op <;> rfl
  | unary op operand => cases op <;> rfl
  | column | literal | call | between | inList | dimArray => rfl

end Expr

namespace Lexeme

def rowTokens (row : List Lexeme) : List Token := row.flatMap tokens

@[simp] theorem rowTokens_append (first second : List Lexeme) :
    rowTokens (first ++ second) = rowTokens first ++ rowTokens second := List.flatMap_append

@[simp] theorem rowTokens_cons (lexeme : Lexeme) (rest : List Lexeme) :
    rowTokens (lexeme :: rest) = lexeme.tokens ++ rowTokens rest := rfl

@[simp] theorem rowTokens_nil : rowTokens [] = [] := rfl

theorem rowTokens_parenthesized (body : List Lexeme) :
    rowTokens (parenthesized body) = .opening :: (rowTokens body ++ [.closing]) := by
  simp [parenthesized, tokens]

/-- Blanks between bodies are no tokens. -/
theorem rowTokens_separated {separator : List Lexeme} (comma : rowTokens separator = [.comma])
    (bodies : List (List Lexeme)) :
    rowTokens (separator.intercalate bodies) = Token.listing (bodies.map rowTokens) := by
  rw [Token.listing, ← comma]
  exact flatMap_intercalate _ separator bodies

private theorem rowTokens_commaSeparated (bodies : List (List Lexeme)) :
    rowTokens (commaSeparated bodies) = Token.listing (bodies.map rowTokens) :=
  rowTokens_separated rfl bodies

private theorem rowTokens_negationMark (negated : Bool) :
    rowTokens (negationMark negated) = Token.negationMark negated := by
  cases negated <;> rfl

end Lexeme

private theorem BinaryOp.tokens_lexeme (op : BinaryOp) : op.lexeme.tokens = [op.token] := by
  cases op <;> rfl

namespace Derives

open Lexeme (rowTokens)

/-- An operand stands in a place of any stratum, in parentheses where it binds looser. -/
theorem operand {expr : Expr} (phrase : Derives expr.stratum (rowTokens row) term)
    (place : Stratum) (low : place.rank ≤ 7 := by decide) :
    Derives place (rowTokens (Lexeme.parenthesizedIf (expr.precedence < place.rank) row)) term := by
  have rank := expr.rank_stratum
  by_cases loose : expr.precedence < place.rank
  · have atom : Derives .atom (rowTokens (Lexeme.parenthesized row)) term := by
      rw [Lexeme.rowTokens_parenthesized]
      exact .enclosed phrase.whole
    simpa [Lexeme.parenthesizedIf, loose] using atom.loosen (Nat.le_succ_of_le low)
  · have tight : place.rank ≤ expr.precedence := Nat.le_of_not_lt loose
    have inside : place.rank ≤ expr.stratum.rank := by
      rw [rank]
      exact Nat.le_min.mpr ⟨tight, low⟩
    simpa [Lexeme.parenthesizedIf, loose] using phrase.loosen inside

theorem binary {left right : Expr} (op : BinaryOp) (inLeft : Derives left.stratum (rowTokens row) term)
    (inRight : Derives right.stratum (rowTokens row') term') :
    Derives (Expr.binary op left right).stratum
      (rowTokens (Lexeme.parenthesizedIf (left.precedence < op.leftMinimum) row) ++ op.token ::
        rowTokens (Lexeme.parenthesizedIf (right.precedence < op.rightMinimum) row'))
      (.binary op term term') := by
  cases op with
  | or =>
    change Derives .disjunction _ _
    exact .chain .or (by decide) rfl (inLeft.operand .disjunction)
      (inRight.operand .conjunction)
  | and =>
    change Derives .conjunction _ _
    exact .chain .and (by decide) rfl (inLeft.operand .conjunction)
      (inRight.operand .negation)
  | eq | ne | lt | le | gt | ge | like =>
    exact .comparison _ (by decide) (inLeft.operand .sum)
      (inRight.operand .sum)
  | add | sub | concat =>
    change Derives .sum _ _
    exact .chain _ (by decide) rfl (inLeft.operand .sum)
      (inRight.operand .product)
  | mul | div | mod =>
    change Derives .product _ _
    exact .chain _ (by decide) rfl (inLeft.operand .product)
      (inRight.operand .signed)

/-- A leaf or a call, which is no more than an operand of a minus. -/
theorem signed (atom : Derives .atom tokens term) : Derives .signed tokens term :=
  .tighter rfl atom

/-- Parentheses that only keep two minus signs apart do not change the term. -/
theorem enclosedIf (phrase : Derives .signed (rowTokens row) term) (needed : Bool) :
    Derives .signed (rowTokens (Lexeme.parenthesizedIf needed row)) term := by
  cases needed with
  | false => exact phrase
  | true =>
    have atom : Derives .atom (rowTokens (Lexeme.parenthesized row)) term := by
      rw [Lexeme.rowTokens_parenthesized]
      exact .enclosed phrase.whole
    exact atom.signed

theorem unary {operand : Expr} (op : UnaryOp)
    (inOperand : Derives operand.stratum (rowTokens row) term) :
    Derives (Expr.unary op operand).stratum
      (rowTokens (Expr.unaryLexemes dialect
        (Lexeme.parenthesizedIf (operand.precedence < op.operandMinimum) row) op))
      (.unary op term) := by
  cases op with
  | not => exact .negation (inOperand.operand .negation)
  | minus => exact .minus ((inOperand.operand .signed).enclosedIf _)
  | isNull =>
    rw [Expr.unaryLexemes, Lexeme.rowTokens_append]
    exact .isNull (inOperand.operand .sum)
  | isNotNull =>
    rw [Expr.unaryLexemes, Lexeme.rowTokens_append]
    exact .isNotNull (inOperand.operand .sum)

end Derives

namespace Expr

open Lexeme (rowTokens)

def phrases (dialect : Dialect) (exprs : List Expr) : List (List Token × Term) :=
  exprs.map fun expr => (rowTokens (expr.lexemes dialect), expr.term)

theorem rowTokens_listed (dialect : Dialect) (exprs : List Expr) :
    rowTokens (Lexeme.commaSeparated (lexemesEach dialect exprs)) =
      Token.listing ((phrases dialect exprs).map Prod.fst) := by
  rw [Lexeme.rowTokens_commaSeparated, lexemesEach_eq_map]
  simp [phrases, Function.comp_def]

theorem terms_listed (dialect : Dialect) (exprs : List Expr) :
    terms exprs = (phrases dialect exprs).map Prod.snd := by
  simp [terms_eq_map, phrases]

theorem derives_listed {exprs : List Expr}
    (each : ∀ expr ∈ exprs, Derives expr.stratum (rowTokens (expr.lexemes dialect)) expr.term) :
    ∀ phrase ∈ phrases dialect exprs, Derives .disjunction phrase.1 phrase.2 := by
  intro phrase member
  obtain ⟨expr, present, rfl⟩ := List.mem_map.mp member
  exact (each expr present).whole

theorem rowTokens_binary (dialect : Dialect) (op : BinaryOp) (left right : Expr) :
    rowTokens ((binary op left right).lexemes dialect) =
      rowTokens (Lexeme.parenthesizedIf (left.precedence < op.leftMinimum) (left.lexemes dialect)) ++
        op.token :: rowTokens
          (Lexeme.parenthesizedIf (right.precedence < op.rightMinimum) (right.lexemes dialect)) := by
  have middle : rowTokens [.space, op.lexeme, .space] = [op.token] := by
    rw [Lexeme.rowTokens_cons, Lexeme.rowTokens_cons, op.tokens_lexeme]
    rfl
  rw [lexemes, Lexeme.rowTokens_append, Lexeme.rowTokens_append, middle, List.append_assoc]
  rfl

theorem rowTokens_between (dialect : Dialect) (test lower upper : Expr) (negated : Bool) :
    rowTokens ((between (some test) (some lower) (some upper) negated).lexemes dialect) =
      rowTokens (Lexeme.parenthesizedIf (test.precedence < testMinimum) (test.lexemes dialect)) ++
        (Token.negationMark negated ++ .keyword .between ::
          (rowTokens (Lexeme.parenthesizedIf (lower.precedence < testMinimum) (lower.lexemes dialect)) ++
            .keyword .and :: rowTokens
              (Lexeme.parenthesizedIf (upper.precedence < testMinimum) (upper.lexemes dialect)))) := by
  simp [lexemes, lexemesOrGap, Lexeme.tokens, Lexeme.rowTokens_negationMark]

theorem rowTokens_inList (dialect : Dialect) (tested : Expr) {choices : List Expr}
    (nonempty : choices ≠ []) (negated : Bool) :
    rowTokens ((inList tested choices negated).lexemes dialect) =
      rowTokens (Lexeme.parenthesizedIf (tested.precedence < testMinimum) (tested.lexemes dialect)) ++
        (Token.negationMark negated ++ .keyword .in :: .opening ::
          (rowTokens (Lexeme.commaSeparated (lexemesEach dialect choices)) ++ [.closing])) := by
  simp [lexemes, nonempty, Lexeme.tokens, Lexeme.rowTokens_negationMark,
    Lexeme.rowTokens_parenthesized]

/-- The layout of a readable expression is a phrase that says its term. -/
theorem derives_lexemes (dialect : Dialect) (readable : Readable expr) :
    Derives expr.stratum (rowTokens (expr.lexemes dialect)) expr.term := by
  induction readable with
  | column named => exact (Derives.column _).signed
  | qualified owned named => exact (Derives.qualified _ _).signed
  | null => exact Derives.null.signed
  | boolean value =>
    cases value with
    | false => exact (Derives.boolean false).signed
    | true => exact (Derives.boolean true).signed
  | integer value =>
    have numeral : Derives .signed [.numeral value.toInt.natAbs] (.integer value.toInt.natAbs) :=
      (Derives.numeral _).signed
    by_cases negative : value.toInt < 0
    · simpa [lexemes, Literal.lexemes, Literal.isFinite, Literal.lexeme, Lexeme.tokens, term,
        negative, stratum] using numeral.minus
    · simpa [lexemes, Literal.lexemes, Literal.isFinite, Literal.lexeme, Lexeme.tokens, term,
        negative, stratum] using numeral
  | text content => exact (Derives.quoted _).signed
  | binary op left right inLeft inRight =>
    rw [rowTokens_binary]
    exact Derives.binary op inLeft inRight
  | unary op operand inOperand => exact Derives.unary op inOperand
  | @call name args named each inEach =>
    have phrase := Derives.call name _ (derives_listed inEach)
    rw [← rowTokens_listed, ← terms_listed] at phrase
    rw [lexemes, term, Lexeme.rowTokens_cons, Lexeme.rowTokens_parenthesized]
    exact phrase.signed
  | between negated test lower upper inTest inLower inUpper =>
    rw [rowTokens_between]
    exact .between negated (inTest.operand .sum) (inLower.operand .sum)
      (inUpper.operand .sum)
  | @inList tested choices negated operand nonempty each inOperand inEach =>
    have phrase := Derives.inList negated (inOperand.operand .sum) _
      (by simpa [phrases] using nonempty) (derives_listed inEach)
    rw [← rowTokens_listed, ← terms_listed] at phrase
    rw [rowTokens_inList dialect tested nonempty negated]
    exact phrase

/-- The text of a readable expression is scanned into tokens that say its term and nothing else. -/
theorem render_reads_back (dialect : Dialect) (readable : Readable expr) :
    ∃ tokens, Token.ofText? (expr.render dialect).text = some tokens ∧
      ∀ term, Derives .disjunction tokens term ↔ term = expr.term := by
  have legible : Lexeme.Legible dialect (expr.lexemes dialect) := legible_lexemes dialect readable
  have phrase : Derives .disjunction (rowTokens (expr.lexemes dialect)) expr.term :=
    (derives_lexemes dialect readable).whole
  refine ⟨rowTokens (expr.lexemes dialect), ?_, ?_⟩
  · rw [render_eq, Rendering.ofLexemes, Rendering.text_ofGaps]
    exact Lexeme.ofText?_text legible
  · intro term
    constructor
    · intro derived
      exact derived.unique phrase
    · rintro rfl
      exact phrase

/-- A negated range test keeps its grouping: its `AND` is no conjunction, and its negative bound is a
minus in front of a numeral. -/
theorem render_reads_back_range :
    ∃ tokens, Token.ofText? ((Expr.not (range (.add (qualified "t" "a") (.unary .minus (integer (-5))))
        (.or (named "b") .null) (text "it's"))).render {}).text = some tokens ∧
      ∀ term, Derives .disjunction tokens term ↔ term =
        .unary .not (.between
          (.binary .add (.column { table := some "t", name := "a" })
            (.unary .minus (.unary .minus (.integer 5))))
          (.binary .or (.column { name := "b" }) .null) (.text "it's") false) :=
  render_reads_back {} (.unary .not (.between false
    (.binary .add (.qualified (by decide) (by decide)) (.unary .minus (.integer (-5))))
    (.binary .or (.column (by decide)) .null) (.text "it's")))

end Expr
end ConstraintTree
