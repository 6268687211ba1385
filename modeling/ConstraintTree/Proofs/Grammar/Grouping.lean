import ConstraintTree.Proofs.Grammar.ReadBack

/-!
Parentheses that only group. A term needs a pair around each operand that binds looser than its place
allows: no phrase that says the term has fewer of them. A rendered expression has just these, except
where parentheses keep two minus signs from opening a comment.
-/
namespace ConstraintTree

/-! Counting over tokens. -/

namespace Token

/-- In a phrase, the parentheses behind such a token hold a list, and no others do. -/
def isHead : Token → Bool
  | .name _ | .keyword .in => true
  | _ => false

/-- A token that neither opens parentheses nor stands before those of a list. -/
def isPlain (token : Token) : Bool := token != .opening && !token.isHead

/-- The pairs of parentheses that only group, in a row behind the head of a list or another token. -/
def groupingsBehind (headed : Bool) : List Token → Nat
  | [] => 0
  | token :: rest =>
    (if token = .opening ∧ headed = false then 1 else 0) + groupingsBehind token.isHead rest

/-- The pairs of parentheses that only group. -/
def groupings (tokens : List Token) : Nat := groupingsBehind false tokens

def groupingsEach : List (List Token) → Nat
  | [] => 0
  | head :: rest => groupings head + groupingsEach rest

@[simp] theorem groupings_nil : groupings [] = 0 := rfl

@[simp] theorem groupings_opening (rest : List Token) :
    groupings (.opening :: rest) = 1 + groupings rest := rfl

private theorem groupings_plain {token : Token} (plain : token.isPlain = true) (rest : List Token) :
    groupings (token :: rest) = groupings rest := by
  have parts : token ≠ .opening ∧ token.isHead = false := by simpa [isPlain] using plain
  simp [groupings, groupingsBehind, parts]

/-- The parentheses behind a head do not count. -/
theorem groupings_headed {token : Token} (head : token.isHead = true) (rest : List Token) :
    groupings (token :: .opening :: rest) = groupings rest := by
  have other : token ≠ .opening := by
    rintro rfl
    cases head
  rw [groupings, groupingsBehind, head, if_neg fun opens => other opens.1, Nat.zero_add]
  exact Nat.zero_add _

/-- What stands in front does not matter, unless parentheses open. -/
theorem groupings_append {token : Token} (other : token ≠ .opening) (before rest : List Token) :
    groupings (before ++ token :: rest) = groupings before + groupings (token :: rest) := by
  have behind (headed : Bool) : groupingsBehind headed (before ++ token :: rest) =
      groupingsBehind headed before + groupings (token :: rest) := by
    induction before generalizing headed with
    | nil => simp [groupings, groupingsBehind, other]
    | cons first more ih => rw [List.cons_append, groupingsBehind, groupingsBehind, ih, Nat.add_assoc]
  exact behind false

theorem groupings_between {token : Token} (plain : token.isPlain = true) (before rest : List Token) :
    groupings (before ++ token :: rest) = groupings before + groupings rest := by
  have other : token ≠ .opening := by
    rintro rfl
    cases plain
  rw [groupings_append other, groupings_plain plain]

private theorem groupings_closed (tokens : List Token) :
    groupings (tokens ++ [.closing]) = groupings tokens := groupings_between rfl tokens []

private theorem groupings_enclosed (tokens : List Token) :
    groupings (.opening :: (tokens ++ [.closing])) = 1 + groupings tokens := by
  rw [groupings_opening, groupings_closed]

private theorem groupings_listing (parts : List (List Token)) :
    groupings (listing parts) = groupingsEach parts := by
  induction parts with
  | nil => rfl
  | cons head rest ih =>
    cases rest with
    | nil => simp [listing, List.intercalate, groupingsEach]
    | cons next rest =>
      have shape : listing (head :: next :: rest) = head ++ .comma :: listing (next :: rest) := by
        simp [listing, List.intercalate]
      rw [shape, groupings_between rfl, ih]
      rfl

theorem groupings_list {head : Token} (isHead : head.isHead = true) (parts : List (List Token)) :
    groupings (head :: .opening :: (listing parts ++ [.closing])) = groupingsEach parts := by
  rw [groupings_headed isHead, groupings_closed, groupings_listing]

private theorem groupings_tested {token : Token} (other : token ≠ .opening) (negated : Bool)
    (before rest : List Token) :
    groupings (before ++ (negationMark negated ++ token :: rest)) =
      groupings before + groupings (token :: rest) := by
  cases negated with
  | false => exact groupings_append other before rest
  | true => exact groupings_between rfl before (token :: rest)

private theorem groupings_range (negated : Bool) (tested low high : List Token) :
    groupings (tested ++ (negationMark negated ++
      .keyword .between :: (low ++ .keyword .and :: high))) =
      groupings tested + (groupings low + groupings high) := by
  rw [groupings_tested (by decide), groupings_plain rfl, groupings_between rfl]

private theorem groupings_choice (negated : Bool) (tested : List Token) (parts : List (List Token)) :
    groupings (tested ++ (negationMark negated ++
      .keyword .in :: .opening :: (listing parts ++ [.closing]))) =
      groupings tested + groupingsEach parts := by
  rw [groupings_tested (by decide), groupings_list rfl]

end Token

theorem BinaryOp.isPlain_token (op : BinaryOp) : op.token.isPlain = true := by
  cases op <;> rfl

/-! What a term needs. -/

namespace Term

/-- How tight the outermost construct of a term binds. -/
def precedence : Term → Precedence
  | .binary op .. => op.precedence
  | .unary op .. => op.precedence
  | .between .. | .inList .. => Precedence.comparison
  | .column .. | .null | .boolean .. | .integer .. | .text .. | .call .. => Precedence.atom

/-- The pair around a term that is too loose for its place. -/
def enclosure (place : Precedence) (term : Term) : Nat := if term.precedence < place then 1 else 0

mutual

/-- The pairs of parentheses inside a term that no phrase can do without. -/
def pairs : Term → Nat
  | .column _ | .null | .boolean _ | .integer _ | .text _ => 0
  | .binary op left right =>
    (left.enclosure op.leftMinimum + pairs left) + (right.enclosure op.rightMinimum + pairs right)
  | .unary op operand => operand.enclosure op.operandMinimum + pairs operand
  | .call _ args => pairsEach args
  | .between test lower upper _ =>
    (test.enclosure Expr.testMinimum + pairs test) +
      ((lower.enclosure Expr.testMinimum + pairs lower) +
        (upper.enclosure Expr.testMinimum + pairs upper))
  | .inList tested choices _ =>
    (tested.enclosure Expr.testMinimum + pairs tested) + pairsEach choices

def pairsEach : List Term → Nat
  | [] => 0
  | head :: rest => pairs head + pairsEach rest

end

/-- The pairs that a term needs in a place, its own included. -/
def pairsAt (place : Precedence) (term : Term) : Nat := term.enclosure place + term.pairs

private theorem enclosure_le_one (place : Precedence) (term : Term) : term.enclosure place ≤ 1 := by
  unfold enclosure
  split <;> omega

private theorem enclosure_mono {place tighter : Precedence} (le : place ≤ tighter) (term : Term) :
    term.enclosure place ≤ term.enclosure tighter := by
  unfold enclosure
  by_cases loose : term.precedence < place
  · have looser : term.precedence < tighter := Nat.lt_of_lt_of_le loose le
    exact Nat.le_of_eq ((if_pos loose).trans (if_pos looser).symm)
  · rw [if_neg loose]
    apply Nat.zero_le

theorem pairsAt_of_le {place : Precedence} {term : Term} (fits : place ≤ term.precedence) :
    term.pairsAt place = term.pairs := by
  rw [pairsAt, enclosure, if_neg (Nat.not_lt.mpr fits), Nat.zero_add]

private theorem pairsEach_le {parts : List (List Token × Term)}
    (each : ∀ part ∈ parts, part.2.pairsAt 1 ≤ Token.groupings part.1) :
    pairsEach (parts.map Prod.snd) ≤ Token.groupingsEach (parts.map Prod.fst) := by
  induction parts with
  | nil => exact Nat.le_refl 0
  | cons part rest ih =>
    have inHead := each part List.mem_cons_self
    have inRest := ih fun other member => each other (List.mem_cons_of_mem part member)
    exact Nat.add_le_add (Nat.le_trans (Nat.le_add_left _ _) inHead) inRest

end Term

/-- Operators that associate to the left take their own stratum on the left. -/
theorem Stratum.minima_chained {stratum finer : Stratum} (next : stratum.next? = some finer) :
    ∀ op ∈ stratum.chained, stratum.rank = op.precedence ∧ op.leftMinimum = stratum.rank ∧
      op.rightMinimum = finer.rank := by
  cases stratum <;> cases next <;> decide

/-- Comparisons take sums on both sides. -/
theorem BinaryOp.minima_comparisons : ∀ op ∈ BinaryOp.comparisons,
    op.precedence = Stratum.comparison.rank ∧ op.leftMinimum = Stratum.sum.rank ∧
      op.rightMinimum = Stratum.sum.rank := by
  decide

/-- No phrase of a stratum has fewer grouping pairs than its term needs in that place. -/
theorem Derives.pairsAt_le (phrase : Derives stratum tokens term) :
    term.pairsAt stratum.rank ≤ Token.groupings tokens := by
  -- The bound counts the pair around the term, so a tighter stratum has to show more than a looser
  -- one; parentheses are the only way back to the loosest.
  induction phrase with
  | tighter next phrase ih =>
    refine Nat.le_trans (Nat.add_le_add_right (Term.enclosure_mono ?_ _) _) ih
    rw [Stratum.rank_next next]
    exact Nat.le_succ _
  | chain op member next left right inLeft inRight =>
    obtain ⟨same, atLeft, atRight⟩ := Stratum.minima_chained next op member
    rw [Term.pairsAt_of_le (Nat.le_of_eq same), Token.groupings_between op.isPlain_token, Term.pairs,
      atLeft, atRight]
    exact Nat.add_le_add inLeft inRight
  | negation operand ih =>
    rw [Term.pairsAt_of_le (Nat.le_refl Precedence.negation), Token.groupings_plain rfl]
    exact ih
  | comparison op member left right inLeft inRight =>
    obtain ⟨same, atLeft, atRight⟩ := BinaryOp.minima_comparisons op member
    rw [Term.pairsAt_of_le (Nat.le_of_eq same.symm), Token.groupings_between op.isPlain_token,
      Term.pairs, atLeft, atRight]
    exact Nat.add_le_add inLeft inRight
  | isNull operand ih | isNotNull operand ih =>
    rw [Term.pairsAt_of_le (Nat.le_refl Precedence.comparison), Token.groupings_between rfl]
    exact ih
  | between negated test lower upper inTest inLower inUpper =>
    rw [Term.pairsAt_of_le (Nat.le_refl Precedence.comparison), Token.groupings_range]
    exact Nat.add_le_add inTest (Nat.add_le_add inLower inUpper)
  | inList negated operand choices nonempty each inOperand inEach =>
    rw [Term.pairsAt_of_le (Nat.le_refl Precedence.comparison), Token.groupings_choice]
    exact Nat.add_le_add inOperand (Term.pairsEach_le inEach)
  | minus operand ih =>
    rw [Term.pairsAt_of_le (Nat.le_refl Precedence.sign), Token.groupings_plain rfl]
    exact ih
  | null | boolean | numeral | quoted | column | qualified => exact Nat.zero_le _
  | call name args each inEach =>
    have tight : Stratum.atom.rank ≤ Precedence.atom := by decide
    rw [Term.pairsAt_of_le tight, Token.groupings_list rfl]
    exact Term.pairsEach_le inEach
  | @enclosed tokens term phrase ih =>
    have inside : term.pairs ≤ Token.groupings tokens := Nat.le_trans (Nat.le_add_left _ _) ih
    rw [Token.groupings_enclosed]
    exact Nat.add_le_add (term.enclosure_le_one _) inside

/-! What a rendering writes. -/

namespace Expr

/-- A minus in front of an operand, or an integer that carries one. -/
def isSigned : Expr → Bool
  | .unary .minus _ => true
  | .literal (.integer value) => value.toInt < 0
  | _ => false

mutual

/-- No minus stands directly in front of another one. -/
def signsApart : Expr → Bool
  | .column _ | .literal _ | .dimArray _ => true
  | .binary _ left right => signsApart left && signsApart right
  | .unary op operand => (op != .minus || !operand.isSigned) && signsApart operand
  | .call _ args => signsApartEach args
  | .between test lower upper _ =>
    operandSignsApart test && operandSignsApart lower && operandSignsApart upper
  | .inList tested choices _ => signsApart tested && signsApartEach choices

def signsApartEach : List Expr → Bool
  | [] => true
  | head :: rest => signsApart head && signsApartEach rest

def operandSignsApart : Option Expr → Bool
  | some operand => signsApart operand
  | none => true

end

private theorem signsApartEach_iff {exprs : List Expr} :
    signsApartEach exprs = true ↔ ∀ expr ∈ exprs, expr.signsApart = true := by
  induction exprs with
  | nil => simp [signsApartEach]
  | cons head rest ih => simp [signsApartEach, ih]

/-- A term stands in parentheses where its expression does. -/
theorem precedence_term (expr : Expr) {place : Precedence} (low : place ≤ 7) :
    expr.term.precedence < place ↔ expr.precedence < place := by
  -- Only a negative integer binds tighter than its term, and both are tight enough for any place.
  cases expr with
  | literal value =>
    cases value with
    | integer value =>
      rw [term]
      split
      · have loose : ¬7 < place := Nat.not_lt.mpr low
        have atom : ¬255 < place := fun lt => loose (Nat.lt_trans (by decide) lt)
        exact ⟨fun lt => absurd lt loose, fun lt => absurd lt atom⟩
      · exact Iff.rfl
    | null | boolean | number | text => exact Iff.rfl
  | column | binary | unary | call | between | inList | dimArray => exact Iff.rfl

end Expr

namespace Lexeme

private theorem startsWith_head {first : Char} {more : List Char} (lexeme : Lexeme)
    (shape : (lexeme.spelling dialect).toList = first :: more) (char : Char) (rest : List Lexeme) :
    startsWith dialect char (lexeme :: rest) = (first == char) := by
  rw [startsWith, shape]

theorem unsigned_name {name : String} (named : isIdentifier name = true) (dialect : Dialect)
    (rest : List Lexeme) : startsWith dialect '-' (.name name :: rest) = false := by
  obtain ⟨word, -⟩ := identifier_word named
  cases shape : name.toList with
  | nil =>
    rw [shape] at word
    cases word
  | cons first more =>
    rw [shape] at word
    obtain ⟨alpha, -⟩ := word
    rw [startsWith_head (.name name) shape]
    refine beq_eq_false_iff_ne.mpr ?_
    rintro rfl
    exact absurd alpha (by decide)

private theorem unsigned_keyword (word : Keyword) (dialect : Dialect) :
    startsWith dialect '-' [.keyword word] = false := by
  cases word <;> simp [startsWith, spelling, Keyword.spelling]

theorem unsigned_parenthesized (dialect : Dialect) (body : List Lexeme) :
    startsWith dialect '-' (parenthesized body) = false := by
  simp [parenthesized, startsWith, spelling]

end Lexeme

namespace Expr

open Lexeme (rowTokens)

/-- Behind a minus, only a signed operand begins with another one. -/
theorem unsigned_operand (dialect : Dialect) (readable : Readable expr)
    (plain : expr.isSigned = false) :
    Lexeme.startsWith dialect '-' (Lexeme.parenthesizedIf
      (expr.precedence < UnaryOp.minus.operandMinimum) (expr.lexemes dialect)) = false := by
  cases readable with
  | column named => exact Lexeme.unsigned_name named dialect _
  | qualified owned named => exact Lexeme.unsigned_name owned dialect _
  | null => exact Lexeme.unsigned_keyword .null dialect
  | boolean value => cases value <;> exact Lexeme.unsigned_keyword _ dialect
  | integer value =>
    exact Lexeme.unsigned_integer (of_decide_eq_false plain) dialect
  | text content => exact Lexeme.startsWith_head (.quoted content) String.toList_ofList '-' _
  | binary op left right => cases op <;> exact Lexeme.unsigned_parenthesized dialect _
  | unary op operand =>
    cases op with
    | minus => cases plain
    | not | isNull | isNotNull => exact Lexeme.unsigned_parenthesized dialect _
  | call named each => exact Lexeme.unsigned_name named dialect _
  | between | inList => exact Lexeme.unsigned_parenthesized dialect _

/-- An operand in its place has one pair more where it binds too loosely. -/
theorem groupings_operand {expr : Expr} {row : List Lexeme}
    (inside : Token.groupings (rowTokens row) = expr.term.pairs) {place : Precedence}
    (low : place ≤ 7) :
    Token.groupings (rowTokens (Lexeme.parenthesizedIf (expr.precedence < place) row)) =
      expr.term.pairsAt place := by
  rw [Term.pairsAt, Term.enclosure, ← inside]
  by_cases loose : expr.precedence < place
  · rw [if_pos ((expr.precedence_term low).mpr loose), decide_eq_true loose,
      Lexeme.parenthesizedIf, if_pos rfl, Lexeme.rowTokens_parenthesized, Token.groupings_enclosed]
  · rw [if_neg (mt (expr.precedence_term low).mp loose), decide_eq_false loose,
      Lexeme.parenthesizedIf, if_neg (by decide), Nat.zero_add]

private theorem groupings_listed {exprs : List Expr}
    (each : ∀ expr ∈ exprs,
      Token.groupings (rowTokens (expr.lexemes dialect)) = expr.term.pairs) :
    Token.groupingsEach ((phrases dialect exprs).map Prod.fst) = Term.pairsEach (terms exprs) := by
  induction exprs with
  | nil => rfl
  | cons head rest ih =>
    have inRest := ih fun expr member => each expr (List.mem_cons_of_mem head member)
    rw [terms, Term.pairsEach, ← each head List.mem_cons_self, ← inRest]
    rfl

private theorem minima_le (op : BinaryOp) : op.leftMinimum ≤ 7 ∧ op.rightMinimum ≤ 7 := by
  cases op <;> decide

private theorem groupings_unary {operand : Expr} {row : List Lexeme} (op : UnaryOp)
    (inside : Token.groupings (rowTokens row) = operand.term.pairs)
    (apart : op = .minus → Lexeme.startsWith dialect '-'
      (Lexeme.parenthesizedIf (operand.precedence < UnaryOp.minus.operandMinimum) row) = false) :
    Token.groupings (rowTokens (unaryLexemes dialect
        (Lexeme.parenthesizedIf (operand.precedence < op.operandMinimum) row) op)) =
      (Term.unary op operand.term).pairs := by
  cases op with
  | not =>
    have placed := groupings_operand inside (show 3 ≤ 7 by decide)
    exact (Token.groupings_plain rfl _).trans placed
  | minus =>
    have placed := groupings_operand inside (Nat.le_refl 7)
    -- The parentheses that would keep two minus signs apart are not written.
    rw [unaryLexemes, apart rfl]
    exact (Token.groupings_plain rfl _).trans placed
  | isNull | isNotNull =>
    have placed := groupings_operand inside (show 5 ≤ 7 by decide)
    rw [unaryLexemes, Lexeme.rowTokens_append]
    exact (Token.groupings_between rfl _ _).trans placed

/-- The layout of a readable expression has the grouping pairs that its term needs, and no others. -/
theorem groupings_lexemes (dialect : Dialect) (readable : Readable expr)
    (apart : expr.signsApart = true) :
    Token.groupings (rowTokens (expr.lexemes dialect)) = expr.term.pairs := by
  induction readable with
  | column | qualified | null | text => rfl
  | boolean value => cases value <;> rfl
  | integer value =>
    have spelled : rowTokens ((literal (.integer value)).lexemes dialect) =
        (Lexeme.integer value).tokens := List.append_nil _
    rw [spelled, Lexeme.tokens, term]
    split <;> rfl
  | binary op left right inLeft inRight =>
    obtain ⟨atLeft, atRight⟩ := Bool.and_eq_true_iff.mp apart
    obtain ⟨lowLeft, lowRight⟩ := minima_le op
    rw [rowTokens_binary, Token.groupings_between op.isPlain_token,
      groupings_operand (inLeft atLeft) lowLeft, groupings_operand (inRight atRight) lowRight]
    rfl
  | @unary expr op operand inOperand =>
    obtain ⟨free, inside⟩ := Bool.and_eq_true_iff.mp apart
    refine groupings_unary op (inOperand inside) ?_
    rintro rfl
    exact unsigned_operand dialect operand (by simpa using free)
  | @call name args named each inEach =>
    have inArgs := signsApartEach_iff.mp apart
    rw [lexemes, term, Lexeme.rowTokens_cons, Lexeme.rowTokens_parenthesized, rowTokens_listed]
    exact (Token.groupings_list rfl _).trans
      (groupings_listed fun arg member => inEach arg member (inArgs arg member))
  | between negated test lower upper inTest inLower inUpper =>
    obtain ⟨both, atUpper⟩ := Bool.and_eq_true_iff.mp apart
    obtain ⟨atTest, atLower⟩ := Bool.and_eq_true_iff.mp both
    have low : testMinimum ≤ 7 := by decide
    rw [rowTokens_between, Token.groupings_range, groupings_operand (inTest atTest) low,
      groupings_operand (inLower atLower) low, groupings_operand (inUpper atUpper) low]
    rfl
  | @inList tested choices negated operand nonempty each inOperand inEach =>
    obtain ⟨atTested, atChoices⟩ := Bool.and_eq_true_iff.mp apart
    have inChoices := signsApartEach_iff.mp atChoices
    rw [rowTokens_inList dialect tested nonempty negated, rowTokens_listed, Token.groupings_choice,
      groupings_operand (inOperand atTested) (by decide),
      groupings_listed fun choice member => inEach choice member (inChoices choice member)]
    rfl

/-- Rendering writes no redundant parentheses. The text of a readable expression in which no minus
stands in front of another is scanned into tokens that say its term, and no tokens that say this term
have fewer pairs of parentheses that only group. -/
theorem render_groups_sparingly (dialect : Dialect) (readable : Readable expr)
    (apart : expr.signsApart = true) :
    ∃ tokens, Token.ofText? (expr.render dialect).text = some tokens ∧
      Derives .disjunction tokens expr.term ∧
      ∀ others, Derives .disjunction others expr.term →
        Token.groupings tokens ≤ Token.groupings others := by
  have legible : Lexeme.Legible dialect (expr.lexemes dialect) := legible_lexemes dialect readable
  refine ⟨rowTokens (expr.lexemes dialect), ?_, (derives_lexemes dialect readable).whole, ?_⟩
  · rw [render_eq, Rendering.ofLexemes, Rendering.text_ofGaps]
    exact Lexeme.ofText?_text legible
  · intro others derived
    rw [groupings_lexemes dialect readable apart]
    exact Nat.le_trans (Nat.le_add_left _ _) derived.pairsAt_le

/-- The parentheses around a difference behind a minus are needed; those of the choices, of which one
is a disjunction, do not group. -/
theorem render_groups_sparingly_choice :
    ∃ tokens, Token.ofText? ((oneOf (.unary .minus (.sub (named "b") (integer 1)))
        [.or .null (boolean true)]).render {}).text = some tokens ∧
      Derives .disjunction tokens
        (.inList (.unary .minus (.binary .sub (.column { name := "b" }) (.integer 1)))
          [.binary .or .null (.boolean true)] false) ∧
      ∀ others, Derives .disjunction others
          (.inList (.unary .minus (.binary .sub (.column { name := "b" }) (.integer 1)))
            [.binary .or .null (.boolean true)] false) →
        Token.groupings tokens ≤ Token.groupings others := by
  have readable : Readable (oneOf (.unary .minus (.sub (named "b") (integer 1)))
      [.or .null (boolean true)]) := by
    refine .inList false (.unary .minus (.binary .sub (.column (by decide)) (.integer 1))) nofun ?_
    intro choice member
    obtain rfl := List.mem_singleton.mp member
    exact .binary .or .null (.boolean true)
  exact render_groups_sparingly {} readable (by decide)

end Expr
end ConstraintTree
