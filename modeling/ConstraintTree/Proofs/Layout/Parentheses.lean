import ConstraintTree.Proofs.Layout.Quoting

namespace ConstraintTree

namespace Lexeme

def isParenthesis : Lexeme → Bool
  | .opening | .closing => true
  | _ => false

/-- A row in which each parenthesis that opens has one behind it that closes. -/
inductive Paired : List Lexeme → Prop
  | nil : Paired []
  | leaf (other : lexeme.isParenthesis = false) : Paired [lexeme]
  | append (front : Paired first) (back : Paired second) : Paired (first ++ second)
  | enclosed (inside : Paired body) : Paired (parenthesized body)

namespace Paired

theorem cons (other : isParenthesis lexeme = false) (rest : Paired row) : Paired (lexeme :: row) :=
  (leaf other).append rest

theorem of_free {row : List Lexeme} (free : row.any isParenthesis = false) : Paired row := by
  induction row with
  | nil => exact .nil
  | cons lexeme rest ih =>
    obtain ⟨other, free⟩ := Bool.or_eq_false_iff.mp free
    exact .cons other (ih free)

theorem enclosedIf {body : List Lexeme} (inside : Paired body) (needed : Bool) :
    Paired (parenthesizedIf needed body) := by
  cases needed with
  | false => exact inside
  | true => exact inside.enclosed

theorem between {first middle second : List Lexeme} (left : Paired first)
    (free : middle.any isParenthesis = false) (right : Paired second) :
    Paired (first ++ middle ++ second) := (left.append (of_free free)).append right

theorem separated {separator : List Lexeme} (free : separator.any isParenthesis = false)
    {bodies : List (List Lexeme)} (each : ∀ body ∈ bodies, Paired body) :
    Paired (separator.intercalate bodies) := by
  cases bodies with
  | nil => exact .nil
  | cons head tail =>
    have behind (later : List (List Lexeme)) (inLater : ∀ body ∈ later, Paired body) :
        Paired (later.flatMap (separator ++ ·)) := by
      induction later with
      | nil => exact .nil
      | cons next later ih =>
        obtain ⟨inNext, inLater⟩ := List.forall_mem_cons.mp inLater
        exact ((of_free free).append inNext).append (ih inLater)
    obtain ⟨inHead, inTail⟩ := List.forall_mem_cons.mp each
    rw [Expr.intercalate_cons]
    exact inHead.append (behind tail inTail)

/-- The keyword of a test, negated or not, between two rows. -/
theorem tested {first second : List Lexeme} (left : Paired first) (negated : Bool) (word : Keyword)
    (right : Paired second) :
    Paired (first ++ .space :: (negationMark negated ++ [.keyword word, .space]) ++ second) :=
  left.between (by cases negated <;> rfl) right

theorem listed {bodies : List (List Lexeme)} (each : ∀ body ∈ bodies, Paired body) :
    Paired (commaSeparated bodies) := separated rfl each

end Paired
end Lexeme

open Lexeme (Paired)

theorem Column.paired_lexemes (column : Column) : Paired column.lexemes := by
  rw [lexemes]
  split
  · exact .of_free rfl
  · exact .of_free rfl

theorem Literal.paired_lexemes (literal : Literal) : Paired literal.lexemes := by
  rw [lexemes]
  split
  · refine .leaf ?_
    cases literal with
    | boolean value => cases value <;> rfl
    | null | integer | number | text => rfl
  · exact .leaf rfl

theorem DimElement.paired_lexemes (element : DimElement) : Paired element.lexemes := by
  rw [lexemes]
  split
  · exact .cons rfl (Paired.of_free rfl).enclosed
  · exact .leaf rfl

namespace Expr

private theorem paired_unaryLexemes {operand : List Lexeme} (paired : Paired operand)
    (dialect : Dialect)
    (op : UnaryOp) : Paired (unaryLexemes dialect operand op) := by
  cases op with
  | not => exact .cons rfl (.cons rfl paired)
  | minus => exact .cons rfl (paired.enclosedIf _)
  | isNull | isNotNull => exact paired.append (.of_free rfl)

private theorem paired_lexemesOrGap {operand : Option Expr}
    (paired : ∀ expr ∈ operand, Paired (expr.lexemes dialect)) (gap : Gap) :
    Paired (lexemesOrGap dialect gap operand) := by
  cases operand with
  | none => exact .leaf rfl
  | some expr => exact (paired expr rfl).enclosedIf _

private theorem paired_lexemes (dialect : Dialect) (expr : Expr) : Paired (expr.lexemes dialect) := by
  induction expr using Expr.induct with
  | column reference => exact reference.paired_lexemes
  | literal value => exact value.paired_lexemes
  | binary op left right inLeft inRight =>
    have operator : [Lexeme.space, op.lexeme, .space].any Lexeme.isParenthesis = false := by
      cases op <;> rfl
    exact (inLeft.enclosedIf _).between operator (inRight.enclosedIf _)
  | unary op operand inOperand => exact paired_unaryLexemes (inOperand.enclosedIf _) dialect op
  | call name args inArgs =>
    rw [lexemes, lexemesEach_eq_map]
    exact .cons rfl (Paired.listed (by simpa using inArgs)).enclosed
  | between test lower upper negated inTest inLower inUpper =>
    have conjunction : [Lexeme.space, .keyword .and, .space].any Lexeme.isParenthesis = false := rfl
    have bounds := (paired_lexemesOrGap inLower .betweenBegin).between conjunction
      (paired_lexemesOrGap inUpper .betweenEnd)
    have whole := (paired_lexemesOrGap inTest .betweenTest).tested negated .between bounds
    simpa [lexemes] using whole
  | inList tested choices negated inTested inChoices =>
    have listed : Paired (if choices.isEmpty then [Lexeme.gap .inListItems]
        else Lexeme.commaSeparated (lexemesEach dialect choices)) := by
      split
      · exact .leaf rfl
      · rw [lexemesEach_eq_map]
        exact .listed (by simpa using inChoices)
    have whole := (inTested.enclosedIf (decide (tested.precedence < testMinimum))).tested negated .in
      listed.enclosed
    simpa [lexemes] using whole
  | dimArray elements =>
    rw [lexemes]
    refine .cons rfl (.enclosed ?_)
    split
    · exact .leaf rfl
    · exact .listed (by simp [DimElement.paired_lexemes])

end Expr

namespace Predicate

private theorem paired_lexemesOrGap {condition : Option Predicate}
    (paired : ∀ body ∈ condition, Paired (body.lexemes dialect)) :
    Paired (lexemesOrGap dialect condition) := by
  cases condition with
  | none => exact .leaf rfl
  | some body => exact paired body rfl

private theorem paired_lexemes (dialect : Dialect) (predicate : Predicate) :
    Paired (predicate.lexemes dialect) := by
  induction predicate using Predicate.induct with
  | quantification quantifier bound condition inCondition =>
    have named : Paired (variableLexemes bound) := by
      cases bound <;> exact .leaf rfl
    have bar : [Lexeme.space, .bar, .space].any Lexeme.isParenthesis = false := rfl
    have inside := named.between bar (paired_lexemesOrGap inCondition)
    exact .cons rfl (.cons rfl inside.enclosed)
  | atom name args =>
    have listed : Paired ([Lexeme.comma].intercalate (args.map (Expr.lexemes dialect))) :=
      Paired.separated rfl (by simp [Expr.paired_lexemes])
    exact .cons rfl listed.enclosed
  | negation operand inOperand => exact .cons rfl (.cons rfl inOperand.enclosed)
  | junction op operands inOperands =>
    rw [lexemes]
    refine .enclosed ?_
    split
    · exact .leaf rfl
    · rw [lexemesEach_eq_map]
      exact Paired.separated rfl (by simpa using inOperands)

end Predicate

/-- The parentheses of every layout pair up. -/
theorem Item.paired_lexemes (dialect : Dialect) (item : Item) : Paired (item.lexemes dialect) := by
  cases item with
  | expression tree => exact tree.paired_lexemes dialect
  | predicate tree => exact tree.paired_lexemes dialect

/-- No front of the pieces closes more parentheses than it opens, and they close as many as they
open. -/
structure Balanced (pieces : List Piece) : Prop where
  covered : ∀ front, front <+: pieces → front.count (.code ')') ≤ front.count (.code '(')
  whole : pieces.count (.code ')') = pieces.count (.code '(')

namespace Balanced

theorem of_free {pieces : List Piece} (free : ∀ mark ∈ ['(', ')'], .code mark ∉ pieces) :
    Balanced pieces := by
  have uncounted (front : List Piece) (inside : front ⊆ pieces) :
      front.count (.code ')') = 0 ∧ front.count (.code '(') = 0 := by
    refine ⟨List.count_eq_zero.mpr fun member => ?_, List.count_eq_zero.mpr fun member => ?_⟩
    · exact free ')' (by simp) (inside member)
    · exact free '(' (by simp) (inside member)
  refine ⟨fun front opening => ?_, ?_⟩
  · simp [uncounted front opening.subset]
  · simp [uncounted pieces (List.Subset.refl pieces)]

theorem append {first second : List Piece} (left : Balanced first) (right : Balanced second) :
    Balanced (first ++ second) := by
  refine ⟨fun front opening => ?_, ?_⟩
  · rcases List.prefix_or_prefix_of_prefix opening (List.prefix_append first second) with
      inFirst | ⟨more, rfl⟩
    · exact left.covered front inFirst
    · have inSecond := right.covered more ((List.prefix_append_right_inj first).mp opening)
      have both := left.whole
      rw [List.count_append, List.count_append]
      omega
  · rw [List.count_append, List.count_append, left.whole, right.whole]

theorem enclosed {body : List Piece} (inside : Balanced body) :
    Balanced (.code '(' :: body ++ [.code ')']) := by
  refine ⟨fun front opening => ?_, ?_⟩
  · cases front with
    | nil => simp
    | cons first more =>
      obtain ⟨rfl, inBody⟩ := List.cons_prefix_cons.mp opening
      rcases List.prefix_concat_iff.mp inBody with rfl | inBody
      · simp [inside.whole]
      · have covered := inside.covered more inBody
        simp
        omega
  · simp [inside.whole]

end Balanced

/-- Rows without parentheses of their own besides those that pair up have balanced pieces. -/
theorem Lexeme.Paired.balanced {row : List Lexeme} (paired : Paired row)
    (own : ∀ lexeme ∈ row, lexeme.isParenthesis = false →
      ∀ mark ∈ ['(', ')'], .code mark ∉ lexeme.pieces dialect) :
    Balanced (row.flatMap (pieces dialect)) := by
  induction paired with
  | nil => exact .of_free (by simp)
  | leaf other =>
    rw [List.flatMap_singleton]
    exact .of_free (own _ List.mem_cons_self other)
  | append front back inFront inBack =>
    rw [List.flatMap_append]
    exact (inFront fun lexeme member => own lexeme (List.mem_append_left _ member)).append
      (inBack fun lexeme member => own lexeme (List.mem_append_right _ member))
  | @enclosed body inside inBody =>
    have shape : (parenthesized body).flatMap (pieces dialect) =
        .code '(' :: body.flatMap (pieces dialect) ++ [.code ')'] := by
      simp [parenthesized, pieces, spelling]
    rw [shape]
    exact (inBody fun lexeme member => own lexeme (by simp [parenthesized, member])).enclosed

namespace Lexeme

/-- What is code of a lexeme is spelled with it, and the lexeme is no string literal. -/
theorem mem_spelling_of_code {lexeme : Lexeme} (member : .code char ∈ lexeme.pieces dialect) :
    lexeme.quoted? = none ∧ char ∈ (lexeme.spelling dialect).toList := by
  cases found : lexeme.quoted? with
  | none =>
    rw [pieces_plain found] at member
    exact ⟨rfl, by simpa using member⟩
  | some content =>
    obtain rfl := quoted_of_quoted? found
    simp [pieces] at member

private theorem isParenthesis_of_owns {lexeme : Lexeme} (plain : lexeme.quoted? = none)
    (owns : lexeme.Owns mark) (parenthesis : mark ∈ ['(', ')']) : lexeme.isParenthesis = true := by
  have either : mark = '(' ∨ mark = ')' := by simpa using parenthesis
  cases lexeme with
  | opening | closing => rfl
  | quoted content => cases plain
  | sign | bar | gap | integer | number => rcases either with rfl | rfl <;> simp [Owns] at owns
  | space | comma | dot | keyword | spatial | name => cases owns

end Lexeme

/-- What is code in an item whose names avoid a special character is a lexeme's own. -/
theorem Item.Avoids.owns_of_code {item : Item} (avoids : item.Avoids dialect mark)
    (special : mark ∈ Lexeme.specials) {lexeme : Lexeme} (present : lexeme ∈ item.lexemes dialect)
    (member : .code mark ∈ lexeme.pieces dialect) :
    lexeme.quoted? = none ∧ lexeme.Owns mark := by
  obtain ⟨plain, spelled⟩ := Lexeme.mem_spelling_of_code member
  refine ⟨plain, ?_⟩
  rcases Lexeme.owns_of_mem special spelled with
    ⟨text, rfl, inText⟩ | ⟨_, _, schema, owner, inSchema⟩ | owns
  · exact absurd inText (avoids.names text (Item.mem_names present))
  · exact absurd inSchema (avoids.schema schema owner)
  · exact owns

/-- Parentheses of a tree are balanced, unless its names have others. -/
theorem Item.balanced_pieces {item : Item}
    (avoids : ∀ mark ∈ ['(', ')'], item.Avoids dialect mark) :
    Balanced ((item.lexemes dialect).flatMap (Lexeme.pieces dialect)) := by
  refine (item.paired_lexemes dialect).balanced fun lexeme present other mark parenthesis member => ?_
  have wider : ['(', ')'] ⊆ Lexeme.specials := by simp [Lexeme.specials]
  obtain ⟨plain, owns⟩ := (avoids mark parenthesis).owns_of_code (wider parenthesis) present member
  have enclosing := Lexeme.isParenthesis_of_owns plain owns parenthesis
  simp [other] at enclosing

end ConstraintTree
