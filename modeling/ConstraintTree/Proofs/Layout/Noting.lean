import ConstraintTree.Proofs.Layout.Spacing
import ConstraintTree.Rendering

/-!
Renderings by two effects: a text is put together while the gaps are noted beside it, in whatever order
the parts are visited. Both come out as the layout has them, so each noted gap stands in the text where its
placeholder does.
-/
namespace ConstraintTree

/-- Work that notes gaps behind those that have been noted. -/
abbrev Noting (α : Type) := StateM (List Gap) α

/-- Notes a gap, and writes its placeholder. -/
def Gap.note (missing : Gap) : Noting String := do
  modify (· ++ [missing])
  return missing.placeholder

/-- An operand, in parentheses if they are needed. -/
def Noting.enclosed (needed : Bool) (body : Noting String) : Noting String := do
  let text ← body
  return if needed then "(" ++ text ++ ")" else text

/-- Several texts with a separator between them. -/
def Noting.joined (separator : String) (texts : Noting (List String)) : Noting String := do
  return separator.intercalate (← texts)

/-- What a list is written as, or the gap that an empty one leaves. -/
def Noting.orGap (empty : Bool) (missing : Gap) (text : Noting String) : Noting String :=
  if empty then missing.note else text

namespace DimElement

def write (dialect : Dialect) (element : DimElement) : Noting String :=
  if element.isFinite then return element.text dialect else Gap.finiteNumber.note

end DimElement

namespace Expr

mutual

def write (dialect : Dialect) : Expr → Noting String
  | .column reference => return reference.text
  | .literal value => if value.isFinite then return value.spelling else Gap.finiteNumber.note
  | .binary op left right => do
    let first ← Noting.enclosed (left.precedence < op.leftMinimum) (write dialect left)
    let second ← Noting.enclosed (right.precedence < op.rightMinimum) (write dialect right)
    return first ++ " " ++ op.lexeme.spelling dialect ++ " " ++ second
  | .unary op operand => do
    let text ← Noting.enclosed (operand.precedence < op.operandMinimum) (write dialect operand)
    match op with
    | .not => return "NOT " ++ text
    | .minus => return if text.toList.head? = some '-' then "-(" ++ text ++ ")" else "-" ++ text
    | .isNull | .isNotNull => return text ++ " " ++ op.spelling
  | .call name args => do
    let text ← Noting.joined ", " (writeEach dialect args)
    return name ++ "(" ++ text ++ ")"
  | .between test lower upper negated => do
    let tested ← writeOrGap dialect .betweenTest test
    let low ← writeOrGap dialect .betweenBegin lower
    let high ← writeOrGap dialect .betweenEnd upper
    return tested ++ " " ++ (if negated then "NOT " else "") ++ "BETWEEN " ++ low ++ " AND " ++ high
  | .inList tested choices negated => do
    let text ← Noting.enclosed (tested.precedence < testMinimum) (write dialect tested)
    let items ← Noting.orGap choices.isEmpty .inListItems
      (Noting.joined ", " (writeEach dialect choices))
    return text ++ " " ++ (if negated then "NOT " else "") ++ "IN (" ++ items ++ ")"
  | .dimArray elements => do
    let items ← Noting.orGap elements.isEmpty .dimArrayElements
      (Noting.joined ", " (elements.mapM (DimElement.write dialect)))
    return dialect.qualify "SDO_DIM_ARRAY" ++ "(" ++ items ++ ")"

def writeEach (dialect : Dialect) : List Expr → Noting (List String)
  | [] => return []
  | head :: rest => do
    let first ← write dialect head
    return first :: (← writeEach dialect rest)

def writeOrGap (dialect : Dialect) (missing : Gap) : Option Expr → Noting String
  | some operand => Noting.enclosed (operand.precedence < testMinimum) (write dialect operand)
  | none => missing.note

end

end Expr

namespace Predicate

def writeVariable : Option String → Noting String
  | some bound => return bound
  | none => Gap.quantifiedVariable.note

mutual

def write (dialect : Dialect) : Predicate → Noting String
  | .quantification quantifier bound condition => do
    let first ← writeVariable bound
    let second ← writeOrGap dialect condition
    return quantifier.keyword.spelling ++ " (" ++ first ++ " | " ++ second ++ ")"
  | .atom name args => do
    let text ← Noting.joined "," (Expr.writeEach dialect args)
    return name ++ "(" ++ text ++ ")"
  | .negation operand => do
    let text ← write dialect operand
    return "NOT (" ++ text ++ ")"
  | .junction op operands => do
    let text ← Noting.orGap operands.isEmpty .connectiveOperands
      (Noting.joined (" " ++ op.keyword.spelling ++ " ") (writeEach dialect operands))
    return "(" ++ text ++ ")"

def writeEach (dialect : Dialect) : List Predicate → Noting (List String)
  | [] => return []
  | head :: rest => do
    let first ← write dialect head
    return first :: (← writeEach dialect rest)

def writeOrGap (dialect : Dialect) : Option Predicate → Noting String
  | some condition => write dialect condition
  | none => Gap.quantifiedCondition.note

end

end Predicate

def Item.write (dialect : Dialect) : Item → Noting String
  | .expression tree => tree.write dialect
  | .predicate tree => tree.write dialect

/-! Text and gaps of a row, both of its parts. -/

namespace Lexeme

@[simp] theorem text_nil (dialect : Dialect) : text dialect [] = "" := rfl

@[simp] theorem text_cons (dialect : Dialect) (lexeme : Lexeme) (rest : List Lexeme) :
    text dialect (lexeme :: rest) = lexeme.spelling dialect ++ text dialect rest := by
  simp [text]

@[simp] theorem text_append (dialect : Dialect) (first second : List Lexeme) :
    text dialect (first ++ second) = text dialect first ++ text dialect second := by
  simp [← String.toList_inj, toList_text]

private theorem text_intercalate (dialect : Dialect) (separator : List Lexeme)
    (bodies : List (List Lexeme)) :
    text dialect (separator.intercalate bodies) =
      (text dialect separator).intercalate (bodies.map (text dialect)) := by
  have each (body : List Lexeme) : chars dialect body = (text dialect body).toList :=
    (toList_text dialect body).symm
  rw [← String.toList_inj, toList_text, String.toList_intercalate, chars, flatMap_intercalate,
    ← chars, each, List.map_map]
  exact congrArg _ (List.map_congr_left fun body _ => each body)

@[simp] theorem gaps_nil : gaps [] = [] := rfl

@[simp] theorem gaps_of_cons (lexeme : Lexeme) (rest : List Lexeme) :
    gaps (lexeme :: rest) = lexeme.gap?.toList ++ gaps rest := by
  rw [gaps, gaps, List.filterMap_cons]
  cases lexeme.gap? <;> rfl

@[simp] theorem gaps_append (first second : List Lexeme) :
    gaps (first ++ second) = gaps first ++ gaps second :=
  List.filterMap_append

private theorem gaps_intercalate {separator : List Lexeme} (sound : gaps separator = [])
    (bodies : List (List Lexeme)) : gaps (separator.intercalate bodies) = bodies.flatMap gaps := by
  cases bodies with
  | nil => rfl
  | cons head rest =>
    rw [Expr.intercalate_cons, gaps_append, List.flatMap_cons]
    congr 1
    induction rest with
    | nil => rfl
    | cons next rest ih => simp [gaps_append, sound, ih]

end Lexeme

/-- Writes the text of a row and notes its gaps. -/
def Noting.Follows (noting : Noting String) (dialect : Dialect) (row : List Lexeme) : Prop :=
  ∀ noted, noting.run noted = (Lexeme.text dialect row, noted ++ Lexeme.gaps row)

/-- Writes the texts of rows and notes their gaps. -/
def Noting.FollowsEach (noting : Noting (List String)) (dialect : Dialect)
    (rows : List (List Lexeme)) : Prop :=
  ∀ noted, noting.run noted = (rows.map (Lexeme.text dialect), noted ++ rows.flatMap Lexeme.gaps)

namespace Noting

theorem run_bind (noting : Noting α) (next : α → Noting β) (noted : List Gap) :
    (noting >>= next).run noted = (next (noting.run noted).1).run (noting.run noted).2 := rfl

theorem run_pure (value : α) (noted : List Gap) : (pure value : Noting α).run noted = (value, noted) := rfl

theorem pair_eq {text other : String} (chars : text.toList = other.toList) (same : noted = others) :
    (text, noted) = (other, others) :=
  Prod.ext (String.toList_inj.mp chars) same

private theorem follows_pure (same : text = Lexeme.text dialect row) (sound : Lexeme.gaps row = []) :
    (pure text : Noting String).Follows dialect row := by
  intro noted
  rw [run_pure, same, sound, List.append_nil]

private theorem follows_note (dialect : Dialect) (missing : Gap) :
    missing.note.Follows dialect [.gap missing] := by
  intro noted
  rw [Lexeme.text_cons, Lexeme.text_nil, String.append_empty]
  rfl

theorem Follows.enclosed {noting : Noting String} (follows : noting.Follows dialect row)
    (needed : Bool) : (enclosed needed noting).Follows dialect (Lexeme.parenthesizedIf needed row) := by
  intro noted
  rw [Noting.enclosed, run_bind, follows]
  cases needed with
  | false => rfl
  | true =>
    show ("(" ++ Lexeme.text dialect row ++ ")", noted ++ Lexeme.gaps row) = _
    simp [Lexeme.parenthesizedIf, Lexeme.parenthesized, Lexeme.spelling, Lexeme.gap?,
      String.append_assoc]

theorem FollowsEach.joined {noting : Noting (List String)} (follows : noting.FollowsEach dialect rows)
    {separator : List Lexeme} (sound : Lexeme.gaps separator = [])
    (spelled : Lexeme.text dialect separator = between) :
    (joined between noting).Follows dialect (separator.intercalate rows) := by
  intro noted
  rw [Noting.joined, run_bind, follows, run_pure, Lexeme.text_intercalate,
    Lexeme.gaps_intercalate sound, spelled]

theorem Follows.orGap {noting : Noting String} (follows : noting.Follows dialect row) (empty : Bool)
    (missing : Gap) : (orGap empty missing noting).Follows dialect
      (if empty then [.gap missing] else row) := by
  cases empty with
  | true => exact follows_note dialect missing
  | false => exact follows

theorem comma_spelled (dialect : Dialect) : Lexeme.text dialect [.comma, .space] = ", " := rfl

end Noting

theorem gaps_eq_nil {row : List Lexeme} (sound : ∀ lexeme ∈ row, lexeme.gap? = none) :
    Lexeme.gaps row = [] := List.filterMap_eq_nil_iff.mpr sound

theorem DimElement.write_follows (dialect : Dialect) (element : DimElement) :
    (element.write dialect).Follows dialect element.lexemes := by
  rw [DimElement.write, DimElement.lexemes]
  split
  · exact Noting.follows_pure rfl (gaps_eq_nil (by
      simp [DimElement.constructorLexemes, Lexeme.parenthesized, Lexeme.commaSeparated,
        List.intercalate, Lexeme.gap?]))
  · exact Noting.follows_note dialect _

private theorem DimElement.mapM_write_follows (dialect : Dialect) (elements : List DimElement) :
    Noting.FollowsEach (elements.mapM (DimElement.write dialect)) dialect
      (elements.map DimElement.lexemes) := by
  induction elements with
  | nil => exact fun noted => congrArg (Prod.mk []) (List.append_nil noted).symm
  | cons head rest ih =>
    intro noted
    simp only [List.mapM_cons, Noting.run_bind, head.write_follows dialect _, ih _, Noting.run_pure]
    simp

namespace Expr

variable {dialect : Dialect}

theorem writeEach_follows {exprs : List Expr}
    (each : ∀ expr ∈ exprs, (expr.write dialect).Follows dialect (expr.lexemes dialect)) :
    (writeEach dialect exprs).FollowsEach dialect (exprs.map (lexemes dialect)) := by
  induction exprs with
  | nil => exact fun noted => congrArg (Prod.mk []) (List.append_nil noted).symm
  | cons head rest ih =>
    intro noted
    have inRest := ih fun expr member => each expr (List.mem_cons_of_mem head member)
    simp only [writeEach, Noting.run_bind, each head List.mem_cons_self _, inRest _, Noting.run_pure]
    simp

theorem writeOrGap_follows {operand : Option Expr}
    (each : ∀ expr ∈ operand, (expr.write dialect).Follows dialect (expr.lexemes dialect))
    (missing : Gap) : (writeOrGap dialect missing operand).Follows dialect
      (lexemesOrGap dialect missing operand) := by
  cases operand with
  | none => exact Noting.follows_note dialect missing
  | some expr => exact (each expr rfl).enclosed _

theorem write_follows (dialect : Dialect) (expr : Expr) :
    (expr.write dialect).Follows dialect (expr.lexemes dialect) := by
  induction expr using Expr.induct with
  | column reference =>
    refine Noting.follows_pure ?_ (gaps_eq_nil ?_)
    · rcases reference with ⟨_ | table, name⟩ <;> rfl
    · rcases reference with ⟨_ | table, name⟩ <;> simp [lexemes, Column.lexemes, Lexeme.gap?]
  | literal value =>
    simp only [write, lexemes, Literal.lexemes]
    split
    · refine Noting.follows_pure ?_ (gaps_eq_nil ?_)
      · rcases value with _ | (_ | _) | _ | _ | _ <;> simp [Literal.spelling, Literal.lexeme, Lexeme.spelling]
      · rcases value with _ | (_ | _) | _ | _ | _ <;> simp [Literal.lexeme, Lexeme.gap?]
    · exact Noting.follows_note dialect _
  | binary op left right inLeft inRight =>
    intro noted
    have sound : op.lexeme.gap? = none := by cases op <;> rfl
    simp only [write, Noting.run_bind, inLeft.enclosed _ _, inRight.enclosed _ _, Noting.run_pure]
    simp only [lexemes, Lexeme.text_append, Lexeme.gaps_append, Lexeme.text_cons, Lexeme.gaps_of_cons, sound]
    refine Noting.pair_eq ?_ ?_ <;> simp [Lexeme.spelling, Lexeme.gap?]
  | unary op operand inOperand =>
    intro noted
    simp only [write, Noting.run_bind, inOperand.enclosed _ _]
    cases op with
    | minus =>
      simp only [lexemes, unaryLexemes]
      generalize Lexeme.parenthesizedIf _ (lexemes dialect operand) = row
      rw [Lexeme.startsWith_eq, ← Lexeme.toList_text]
      by_cases signed : (Lexeme.text dialect row).toList.head? = some '-'
      · rw [if_pos signed, Noting.run_pure, signed]
        refine Noting.pair_eq ?_ ?_ <;>
          simp [Lexeme.parenthesizedIf, Lexeme.parenthesized, Lexeme.spelling, Sign.spelling, Lexeme.gap?]
      · rw [if_neg signed, Noting.run_pure, beq_eq_false_iff_ne.mpr signed]
        refine Noting.pair_eq ?_ ?_ <;>
          simp [Lexeme.parenthesizedIf, Lexeme.spelling, Sign.spelling, Lexeme.gap?]
    | not | isNull | isNotNull =>
      refine Noting.pair_eq ?_ ?_ <;>
      simp [lexemes, unaryLexemes, Lexeme.spelling, Keyword.spelling, UnaryOp.spelling, Lexeme.gap?]
  | call name args inArgs =>
    intro noted
    have listed := (writeEach_follows inArgs).joined rfl (Noting.comma_spelled dialect)
    simp only [write, Noting.run_bind, listed _, Noting.run_pure, lexemes, lexemesEach_eq_map,
      Lexeme.commaSeparated]
    refine Noting.pair_eq ?_ ?_ <;> simp [Lexeme.parenthesized, Lexeme.spelling, Lexeme.gap?]
  | between test lower upper negated inTest inLower inUpper =>
    intro noted
    simp only [write, Noting.run_bind, writeOrGap_follows inTest _ _, writeOrGap_follows inLower _ _,
      writeOrGap_follows inUpper _ _, Noting.run_pure]
    refine Noting.pair_eq ?_ ?_ <;> cases negated <;>
      simp [lexemes, Lexeme.negationMark, Lexeme.spelling, Keyword.spelling, Lexeme.gap?]
  | inList tested choices negated inTested inChoices =>
    intro noted
    have listed := (((writeEach_follows inChoices).joined rfl (Noting.comma_spelled dialect)).orGap
      choices.isEmpty .inListItems)
    simp only [write, Noting.run_bind, inTested.enclosed _ _, listed _, Noting.run_pure, lexemes,
      lexemesEach_eq_map, Lexeme.commaSeparated]
    generalize (if choices.isEmpty then [Lexeme.gap .inListItems] else _) = row
    refine Noting.pair_eq ?_ ?_ <;> cases negated <;>
      simp [Lexeme.negationMark, Lexeme.spelling, Keyword.spelling, Lexeme.parenthesized, Lexeme.gap?]
  | dimArray elements =>
    intro noted
    have joined := (DimElement.mapM_write_follows dialect elements).joined rfl
      (Noting.comma_spelled dialect)
    have listed := joined.orGap elements.isEmpty .dimArrayElements
    simp only [write, Noting.run_bind, listed _, Noting.run_pure, lexemes, Lexeme.commaSeparated]
    generalize (if elements.isEmpty then [Lexeme.gap .dimArrayElements] else _) = row
    refine Noting.pair_eq ?_ ?_ <;>
      simp [Lexeme.spelling, SpatialName.spelling, Lexeme.parenthesized, Lexeme.gap?]

end Expr

namespace Predicate

variable {dialect : Dialect}

theorem writeEach_follows {predicates : List Predicate}
    (each : ∀ predicate ∈ predicates,
      (predicate.write dialect).Follows dialect (predicate.lexemes dialect)) :
    (writeEach dialect predicates).FollowsEach dialect (predicates.map (lexemes dialect)) := by
  induction predicates with
  | nil => exact fun noted => congrArg (Prod.mk []) (List.append_nil noted).symm
  | cons head rest ih =>
    intro noted
    have inRest := ih fun predicate member => each predicate (List.mem_cons_of_mem head member)
    simp only [writeEach, Noting.run_bind, each head List.mem_cons_self _, inRest _, Noting.run_pure]
    simp

private theorem writeVariable_follows (dialect : Dialect) (bound : Option String) :
    (writeVariable bound).Follows dialect (variableLexemes bound) := by
  cases bound with
  | none => exact Noting.follows_note dialect _
  | some name => exact Noting.follows_pure (by simp [variableLexemes, Lexeme.spelling]) rfl

theorem writeOrGap_follows {condition : Option Predicate}
    (each : ∀ predicate ∈ condition,
      (predicate.write dialect).Follows dialect (predicate.lexemes dialect)) :
    (writeOrGap dialect condition).Follows dialect (lexemesOrGap dialect condition) := by
  cases condition with
  | none => exact Noting.follows_note dialect _
  | some body => exact each body rfl

theorem write_follows (dialect : Dialect) (predicate : Predicate) :
    (predicate.write dialect).Follows dialect (predicate.lexemes dialect) := by
  induction predicate using Predicate.induct with
  | quantification quantifier bound condition inCondition =>
    intro noted
    simp only [write, Noting.run_bind, writeVariable_follows dialect bound _,
      writeOrGap_follows inCondition _, Noting.run_pure, lexemes]
    refine Noting.pair_eq ?_ ?_ <;> simp [Lexeme.parenthesized, Lexeme.spelling, Lexeme.gap?]
  | atom name args =>
    intro noted
    have comma : Lexeme.text dialect [.comma] = "," := rfl
    have each : (Expr.writeEach dialect args).FollowsEach dialect (args.map (Expr.lexemes dialect)) :=
      Expr.writeEach_follows fun expr _ => expr.write_follows dialect
    simp only [write, Noting.run_bind, each.joined rfl comma _, Noting.run_pure, lexemes]
    refine Noting.pair_eq ?_ ?_ <;> simp [Lexeme.parenthesized, Lexeme.spelling, Lexeme.gap?]
  | negation operand inOperand =>
    intro noted
    simp only [write, Noting.run_bind, inOperand _, Noting.run_pure, lexemes]
    refine Noting.pair_eq ?_ ?_ <;>
      simp [Lexeme.parenthesized, Lexeme.spelling, Keyword.spelling, Lexeme.gap?]
  | junction op operands inOperands =>
    intro noted
    have between : Lexeme.text dialect [.space, .keyword op.keyword, .space] =
        " " ++ op.keyword.spelling ++ " " := by
      simp [Lexeme.spelling, String.append_assoc]
    have listed := ((writeEach_follows inOperands).joined rfl between).orGap operands.isEmpty
      .connectiveOperands
    simp only [write, Noting.run_bind, listed _, Noting.run_pure, lexemes, lexemesEach_eq_map]
    refine Noting.pair_eq ?_ ?_ <;> simp [Lexeme.parenthesized, Lexeme.spelling, Lexeme.gap?]

end Predicate

/-- A rendering is the text that is written, beside the gaps that are noted meanwhile. -/
theorem Item.render_eq_write (dialect : Dialect) (item : Item) :
    item.render dialect =
      Rendering.ofGaps ((item.write dialect).run []).1 ((item.write dialect).run []).2 := by
  have follows : (item.write dialect).Follows dialect (item.lexemes dialect) := by
    cases item with
    | expression tree => exact tree.write_follows dialect
    | predicate tree => exact tree.write_follows dialect
  rw [follows [], item.render_eq, Rendering.ofLexemes, List.nil_append]

end ConstraintTree
