import ConstraintTree.Layout

namespace ConstraintTree

/-- How a body is written in front of other lexemes. -/
abbrev Body := List Lexeme → List Lexeme

namespace Lexeme

/-- A body, in parentheses if they are needed, then others. -/
@[inline] def enclosedThen (needed : Bool) (body : Body) (rest : List Lexeme) : List Lexeme :=
  if needed then .opening :: body (.closing :: rest) else body rest

theorem enclosedThen_eq (needed : Bool) {body : Body} {lexemes : List Lexeme}
    (written : ∀ rest, body rest = lexemes ++ rest) (rest : List Lexeme) :
    enclosedThen needed body rest = parenthesizedIf needed lexemes ++ rest := by
  cases needed <;> simp [enclosedThen, parenthesizedIf, parenthesized, written]

end Lexeme

namespace Expr

/-- The text of an operand of a minus begins with another one. Looser operands are in parentheses. -/
def opensWithMinus (dialect : Dialect) : Expr → Bool
  | .column reference => Lexeme.startsWith dialect '-' reference.lexemes
  | .literal value => Lexeme.startsWith dialect '-' value.lexemes
  | .unary .minus _ => true
  | .call name _ => Lexeme.startsWith dialect '-' [.name name]
  | .dimArray _ => Lexeme.startsWith dialect '-' [.spatial .dimArray]
  | _ => false

mutual

/-- The lexemes of an expression, then others. -/
def lexemesThen (dialect : Dialect) : Expr → Body
  | .column reference, rest => reference.lexemes ++ rest
  | .literal value, rest => value.lexemes ++ rest
  | .binary op left right, rest =>
    Lexeme.enclosedThen (left.precedence < op.leftMinimum) (lexemesThen dialect left)
      (.space :: op.lexeme :: .space ::
        Lexeme.enclosedThen (right.precedence < op.rightMinimum) (lexemesThen dialect right) rest)
  | .unary .not operand, rest =>
    .keyword .not :: .space ::
      Lexeme.enclosedThen (operand.precedence < UnaryOp.not.operandMinimum)
        (lexemesThen dialect operand) rest
  | .unary .minus operand, rest =>
    .sign .minus :: Lexeme.enclosedThen
      (operand.precedence < UnaryOp.minus.operandMinimum || opensWithMinus dialect operand)
      (lexemesThen dialect operand) rest
  | .unary .isNull operand, rest =>
    Lexeme.enclosedThen (operand.precedence < UnaryOp.isNull.operandMinimum)
      (lexemesThen dialect operand) (.space :: .keyword .is :: .space :: .keyword .null :: rest)
  | .unary .isNotNull operand, rest =>
    Lexeme.enclosedThen (operand.precedence < UnaryOp.isNotNull.operandMinimum)
      (lexemesThen dialect operand)
      (.space :: .keyword .is :: .space :: .keyword .not :: .space :: .keyword .null :: rest)
  | .call name args, rest =>
    .name name :: .opening :: listThen dialect args (.closing :: rest)
  | .between test lower upper negated, rest =>
    operandThen dialect .betweenTest test <| .space :: (Lexeme.negationMark negated ++
      .keyword .between :: .space :: operandThen dialect .betweenBegin lower
        (.space :: .keyword .and :: .space :: operandThen dialect .betweenEnd upper rest))
  | .inList tested choices negated, rest =>
    Lexeme.enclosedThen (tested.precedence < testMinimum) (lexemesThen dialect tested) <|
      .space :: (Lexeme.negationMark negated ++ .keyword .in :: .space :: .opening ::
        if choices.isEmpty then .gap .inListItems :: .closing :: rest
        else listThen dialect choices (.closing :: rest))
  | .dimArray elements, rest =>
    .spatial .dimArray :: Lexeme.parenthesized (if elements.isEmpty then [.gap .dimArrayElements]
      else Lexeme.commaSeparated (elements.map DimElement.lexemes)) ++ rest

def listThen (dialect : Dialect) : List Expr → Body
  | [], rest => rest
  | head :: tail, rest => lexemesThen dialect head (tailThen dialect tail rest)

def tailThen (dialect : Dialect) : List Expr → Body
  | [], rest => rest
  | head :: tail, rest =>
    .comma :: .space :: lexemesThen dialect head (tailThen dialect tail rest)

/-- An operand of a range test, or the gap that it leaves, then others. -/
def operandThen (dialect : Dialect) (missing : Gap) : Option Expr → Body
  | some operand, rest =>
    Lexeme.enclosedThen (operand.precedence < testMinimum) (lexemesThen dialect operand) rest
  | none, rest => .gap missing :: rest

end

/-- Expressions that are written in front of others. -/
def Written (dialect : Dialect) (expr : Expr) : Prop :=
  ∀ rest, lexemesThen dialect expr rest = lexemes dialect expr ++ rest

theorem tailThen_eq {dialect : Dialect} {exprs : List Expr}
    (written : ∀ expr ∈ exprs, Written dialect expr) (rest : List Lexeme) :
    tailThen dialect exprs rest =
      exprs.flatMap (fun expr => [Lexeme.comma, .space] ++ lexemes dialect expr) ++ rest := by
  induction exprs with
  | nil => simp [tailThen]
  | cons head tail ih =>
    have inTail := ih fun expr member => written expr (List.mem_cons_of_mem _ member)
    simp [tailThen, written head List.mem_cons_self _, inTail]

theorem intercalate_cons (separator head : List α) (tail : List (List α)) :
    separator.intercalate (head :: tail) = head ++ tail.flatMap (separator ++ ·) := by
  induction tail generalizing head with
  | nil => simp [List.intercalate]
  | cons next tail ih =>
    have inTail := ih next
    simp only [List.intercalate, List.flatMap_cons] at inTail ⊢
    simp [List.intersperse, inTail]

theorem listThen_eq {dialect : Dialect} {exprs : List Expr}
    (written : ∀ expr ∈ exprs, Written dialect expr) (rest : List Lexeme) :
    listThen dialect exprs rest =
      Lexeme.commaSeparated (exprs.map (lexemes dialect)) ++ rest := by
  cases exprs with
  | nil => simp [listThen, Lexeme.commaSeparated, List.intercalate]
  | cons head tail =>
    have inTail := tailThen_eq (fun expr member => written expr (List.mem_cons_of_mem _ member)) rest
    simp [listThen, written head List.mem_cons_self _, inTail, Lexeme.commaSeparated,
      intercalate_cons, List.flatMap_map]

theorem operandThen_eq {dialect : Dialect} {operand : Option Expr}
    (written : ∀ expr ∈ operand, Written dialect expr) (missing : Gap) (rest : List Lexeme) :
    operandThen dialect missing operand rest = lexemesOrGap dialect missing operand ++ rest := by
  cases operand with
  | none => rfl
  | some expr =>
    simp only [operandThen, lexemesOrGap]
    exact Lexeme.enclosedThen_eq _ (written expr rfl) rest

/-- A tree that a minus can stand in front of, unless its text begins with another one. -/
theorem startsWith_minus (dialect : Dialect) {operand : Expr}
    (tight : ¬operand.precedence < UnaryOp.minus.operandMinimum) :
    Lexeme.startsWith dialect '-' (lexemes dialect operand) = opensWithMinus dialect operand := by
  cases operand with
  | column reference => simp [lexemes, opensWithMinus]
  | literal value => simp [lexemes, opensWithMinus]
  | binary op left right =>
    have looser : op.precedence < UnaryOp.minus.operandMinimum := by cases op <;> decide
    exact absurd looser tight
  | unary op operand =>
    cases op with
    | minus =>
      simp [lexemes, unaryLexemes, opensWithMinus, Lexeme.startsWith, Lexeme.spelling,
        Sign.spelling]
    | not =>
      exact absurd (show UnaryOp.not.precedence < UnaryOp.minus.operandMinimum by decide) tight
    | isNull =>
      exact absurd (show UnaryOp.isNull.precedence < UnaryOp.minus.operandMinimum by decide) tight
    | isNotNull =>
      exact absurd (show UnaryOp.isNotNull.precedence < UnaryOp.minus.operandMinimum by decide)
        tight
  | call name args =>
    simp only [lexemes, opensWithMinus, Lexeme.startsWith, Lexeme.spelling, Lexeme.parenthesized]
    cases name.toList <;> simp [Lexeme.startsWith, Lexeme.spelling]
  | between test lower upper negated =>
    exact absurd (show Precedence.comparison < UnaryOp.minus.operandMinimum by decide) tight
  | inList tested choices negated =>
    exact absurd (show Precedence.comparison < UnaryOp.minus.operandMinimum by decide) tight
  | dimArray elements =>
    simp only [lexemes, opensWithMinus, Lexeme.startsWith, Lexeme.parenthesized]
    cases (Lexeme.spelling dialect (.spatial .dimArray)).toList <;>
      simp [Lexeme.startsWith, Lexeme.spelling]

private theorem minusThen_eq {dialect : Dialect} {operand : Expr} (written : Written dialect operand)
    (rest : List Lexeme) :
    lexemesThen dialect (.unary .minus operand) rest =
      lexemes dialect (.unary .minus operand) ++ rest := by
  simp only [lexemesThen, lexemes, unaryLexemes]
  by_cases loose : operand.precedence < UnaryOp.minus.operandMinimum
  · simp [loose, Lexeme.enclosedThen, Lexeme.parenthesizedIf, Lexeme.parenthesized,
      Lexeme.startsWith, Lexeme.spelling, written (.closing :: rest)]
  · simp only [loose, decide_false, Bool.false_or, Lexeme.parenthesizedIf]
    rw [← startsWith_minus dialect loose]
    simp only [List.cons_append]
    exact congrArg _ (Lexeme.enclosedThen_eq _ written rest)

theorem lexemesThen_eq (dialect : Dialect) (expr : Expr) (rest : List Lexeme) :
    lexemesThen dialect expr rest = lexemes dialect expr ++ rest := by
  suffices written : Written dialect expr from written rest
  induction expr using Expr.induct with
  | column reference => intro rest; rfl
  | literal value => intro rest; rfl
  | binary op left right inLeft inRight =>
    intro rest
    simp [lexemesThen, lexemes, Lexeme.enclosedThen_eq _ inLeft, Lexeme.enclosedThen_eq _ inRight]
  | unary op operand inOperand =>
    intro rest
    cases op with
    | minus => exact minusThen_eq inOperand rest
    | not | isNull | isNotNull =>
      simp [lexemesThen, lexemes, unaryLexemes, Lexeme.enclosedThen_eq _ inOperand]
  | call name args inArgs =>
    intro rest
    simp [lexemesThen, lexemes, lexemesEach_eq_map, listThen_eq inArgs, Lexeme.parenthesized]
  | between test lower upper negated inTest inLower inUpper =>
    intro rest
    simp [lexemesThen, lexemes, operandThen_eq inTest, operandThen_eq inLower,
      operandThen_eq inUpper]
  | inList tested choices negated inTested inChoices =>
    intro rest
    cases empty : choices.isEmpty <;>
      simp [lexemesThen, lexemes, lexemesEach_eq_map, Lexeme.enclosedThen_eq _ inTested,
        listThen_eq inChoices, Lexeme.parenthesized, empty]
  | dimArray elements => intro rest; rfl

end Expr

namespace Predicate

mutual

def lexemesThen (dialect : Dialect) : Predicate → Body
  | .quantification quantifier bound condition, rest =>
    .keyword quantifier.keyword :: .space :: .opening :: (variableLexemes bound ++
      .space :: .bar :: .space :: conditionThen dialect condition (.closing :: rest))
  | .atom name args, rest =>
    .name name :: .opening :: (match args with
      | [] => .closing :: rest
      | head :: tail => head.lexemesThen dialect
        (tail.foldr (fun arg rest => .comma :: arg.lexemesThen dialect rest) (.closing :: rest)))
  | .negation operand, rest =>
    .keyword .not :: .space :: .opening :: lexemesThen dialect operand (.closing :: rest)
  | .junction op operands, rest =>
    .opening :: (if operands.isEmpty then .gap .connectiveOperands :: .closing :: rest
      else listThen dialect op operands (.closing :: rest))

def listThen (dialect : Dialect) (op : Junction) : List Predicate → Body
  | [], rest => rest
  | head :: tail, rest => lexemesThen dialect head (tailThen dialect op tail rest)

def tailThen (dialect : Dialect) (op : Junction) : List Predicate → Body
  | [], rest => rest
  | head :: tail, rest =>
    .space :: .keyword op.keyword :: .space ::
      lexemesThen dialect head (tailThen dialect op tail rest)

def conditionThen (dialect : Dialect) : Option Predicate → Body
  | some condition, rest => lexemesThen dialect condition rest
  | none, rest => .gap .quantifiedCondition :: rest

end

def Written (dialect : Dialect) (predicate : Predicate) : Prop :=
  ∀ rest, lexemesThen dialect predicate rest = lexemes dialect predicate ++ rest

theorem tailThen_eq {dialect : Dialect} {op : Junction} {predicates : List Predicate}
    (written : ∀ predicate ∈ predicates, Written dialect predicate) (rest : List Lexeme) :
    tailThen dialect op predicates rest = predicates.flatMap (fun predicate =>
      [Lexeme.space, .keyword op.keyword, .space] ++ lexemes dialect predicate) ++ rest := by
  induction predicates with
  | nil => simp [tailThen]
  | cons head tail ih =>
    have inTail := ih fun predicate member => written predicate (List.mem_cons_of_mem _ member)
    simp [tailThen, written head List.mem_cons_self _, inTail]

theorem listThen_eq {dialect : Dialect} {op : Junction} {predicates : List Predicate}
    (written : ∀ predicate ∈ predicates, Written dialect predicate) (rest : List Lexeme) :
    listThen dialect op predicates rest =
      [Lexeme.space, .keyword op.keyword, .space].intercalate
        (predicates.map (lexemes dialect)) ++ rest := by
  cases predicates with
  | nil => simp [listThen, List.intercalate]
  | cons head tail =>
    have inTail :=
      @tailThen_eq dialect op tail (fun predicate member =>
        written predicate (List.mem_cons_of_mem _ member)) rest
    simp [listThen, written head List.mem_cons_self _, inTail, Expr.intercalate_cons,
      List.flatMap_map]

private theorem argumentsThen_eq (dialect : Dialect) (args : List Expr) (rest : List Lexeme) :
    args.foldr (fun arg rest => Lexeme.comma :: (arg.lexemes dialect ++ rest)) rest =
      args.flatMap (fun arg => Lexeme.comma :: arg.lexemes dialect) ++ rest := by
  induction args with
  | nil => rfl
  | cons head tail ih => simp [ih]

theorem lexemesThen_eq (dialect : Dialect) (predicate : Predicate) (rest : List Lexeme) :
    lexemesThen dialect predicate rest = lexemes dialect predicate ++ rest := by
  suffices written : Written dialect predicate from written rest
  induction predicate using Predicate.induct with
  | quantification quantifier bound condition inCondition =>
    intro rest
    cases condition with
    | none => simp [lexemesThen, lexemes, conditionThen, lexemesOrGap, Lexeme.parenthesized]
    | some body =>
      simp [lexemesThen, lexemes, conditionThen, lexemesOrGap, Lexeme.parenthesized,
        inCondition body rfl _]
  | atom name args =>
    intro rest
    cases args with
    | nil => simp [lexemesThen, lexemes, Lexeme.parenthesized, List.intercalate]
    | cons head tail =>
      simp [lexemesThen, lexemes, Lexeme.parenthesized, Expr.lexemesThen_eq, argumentsThen_eq,
        Expr.intercalate_cons, List.flatMap_map]
  | negation operand inOperand =>
    intro rest
    simp [lexemesThen, lexemes, Lexeme.parenthesized, inOperand _]
  | junction op operands inOperands =>
    intro rest
    cases empty : operands.isEmpty <;>
      simp [lexemesThen, lexemes, lexemesEach_eq_map, listThen_eq inOperands,
        Lexeme.parenthesized, empty]

end Predicate

def Item.lexemesThen (dialect : Dialect) : Item → Body
  | .expression tree, rest => tree.lexemesThen dialect rest
  | .predicate tree, rest => tree.lexemesThen dialect rest

theorem Item.lexemesThen_eq (dialect : Dialect) (item : Item) (rest : List Lexeme) :
    item.lexemesThen dialect rest = item.lexemes dialect ++ rest := by
  cases item with
  | expression tree => exact tree.lexemesThen_eq dialect rest
  | predicate tree => exact tree.lexemesThen_eq dialect rest

end ConstraintTree
