import ConstraintTree.Layout.Continuation

/-!
Where lexemes end. In a layout every word, number and string literal, every sign but a minus in front
of its operand, and every gap stands before a blank, before punctuation or at the end, and no minus
stands before another one. Whatever reads the text from left to right can therefore tell each lexeme
from the next, in every tree and whatever its names are.
-/
namespace ConstraintTree

namespace Lexeme

def chars (dialect : Dialect) (row : List Lexeme) : List Char :=
  row.flatMap fun lexeme => (lexeme.spelling dialect).toList

theorem toList_text (dialect : Dialect) (row : List Lexeme) :
    (text dialect row).toList = chars dialect row := by
  simp [text, chars, String.toList_join, List.flatMap_map]

@[simp] theorem chars_nil (dialect : Dialect) : chars dialect [] = [] := rfl

@[simp] theorem chars_cons (dialect : Dialect) (lexeme : Lexeme) (rest : List Lexeme) :
    chars dialect (lexeme :: rest) = (lexeme.spelling dialect).toList ++ chars dialect rest :=
  List.flatMap_cons

@[simp] theorem chars_append (dialect : Dialect) (first second : List Lexeme) :
    chars dialect (first ++ second) = chars dialect first ++ chars dialect second :=
  List.flatMap_append

/-- Whatever each lexeme is turned into, the separator between bodies is turned into a separator. -/
theorem flatMap_intercalate (turn : Lexeme → List β) (separator : List Lexeme)
    (bodies : List (List Lexeme)) :
    (separator.intercalate bodies).flatMap turn =
      (separator.flatMap turn).intercalate (bodies.map (List.flatMap turn)) := by
  induction bodies with
  | nil => rfl
  | cons head rest ih =>
    cases rest with
    | nil => simp [List.intercalate]
    | cons next rest => simpa [List.intercalate] using ih

theorem mem_intercalate {value : α} {separator : List α} {bodies : List (List α)}
    (member : value ∈ separator.intercalate bodies) :
    value ∈ separator ∨ ∃ body ∈ bodies, value ∈ body := by
  cases bodies with
  | nil => simp [List.intercalate] at member
  | cons head rest =>
    rw [Expr.intercalate_cons] at member
    rcases List.mem_append.mp member with first | later
    · exact .inr ⟨head, List.mem_cons_self, first⟩
    · obtain ⟨body, present, inside⟩ := List.mem_flatMap.mp later
      rcases List.mem_append.mp inside with between | within
      · exact .inl between
      · exact .inr ⟨body, List.mem_cons_of_mem _ present, within⟩

theorem toList_spelling_integer (dialect : Dialect) (value : Int64) :
    (spelling dialect (.integer value)).toList =
      (if value.toInt < 0 then ['-'] else []) ++ Nat.toDigits 10 value.toInt.natAbs := by
  change (Int.repr value.toInt).toList = _
  cases value.toInt with
  | ofNat magnitude => simp [Int.repr, Nat.toList_repr]
  | negSucc magnitude => simp [Int.repr, Nat.toList_repr, Int.negSucc_lt_zero]

/-- Lexemes that end whatever token stands in front of them. -/
def breaks : Lexeme → Bool
  | .space | .opening | .closing | .comma | .dot => true
  | _ => false

/-- A row behind a token, which ends with it. -/
def Breaks (row : List Lexeme) : Prop := ∀ lexeme ∈ row.head?, lexeme.breaks

theorem breaks_nil : Breaks [] := by
  rintro _ ⟨⟩

theorem breaks_cons {lexeme : Lexeme} (stops : lexeme.breaks = true) (rest : List Lexeme) :
    Breaks (lexeme :: rest) := by
  rintro _ ⟨⟩
  exact stops

/-- The characters that a row behind a token can begin with. -/
theorem Breaks.head {row : List Lexeme} (ends : Breaks row) {char : Char}
    (first : char ∈ (chars dialect row).head?) : char ∈ [' ', '(', ')', ',', '.'] := by
  cases row with
  | nil => simp at first
  | cons lexeme rest =>
    have stops : lexeme.breaks = true := ends lexeme rfl
    cases lexeme with
    | space | opening | closing | comma | dot =>
      simp only [chars_cons, spelling] at first
      simp at first
      simp [← first]
    | keyword | sign | spatial | name | integer | number | quoted | gap | bar =>
      simp [breaks] at stops

/-- Lexemes that are spelled with nothing are looked through. -/
theorem startsWith_eq (dialect : Dialect) (char : Char) (row : List Lexeme) :
    startsWith dialect char row = ((chars dialect row).head? == some char) := by
  induction row with
  | nil => rfl
  | cons head rest ih =>
    rw [startsWith, chars_cons]
    cases (head.spelling dialect).toList with
    | nil => exact ih
    | cons first more => rfl

private theorem startsWith_append {first second : List Lexeme}
    (apart : startsWith dialect char first = false)
    (other : startsWith dialect char second = false) :
    startsWith dialect char (first ++ second) = false := by
  rw [startsWith_eq] at apart other ⊢
  rw [chars_append, List.head?_append]
  cases begun : (chars dialect first).head? with
  | none => simpa using other
  | some letter => simpa [begun] using apart

theorem Breaks.unsigned {row : List Lexeme} (ends : Breaks row) (dialect : Dialect) :
    startsWith dialect '-' row = false := by
  rw [startsWith_eq]
  exact beq_eq_false_iff_ne.mpr fun first => absurd (ends.head first) (by decide)

/-- Integers that are not negative begin with a digit. -/
theorem unsigned_integer {value : Int64} (natural : ¬value.toInt < 0) (dialect : Dialect) :
    startsWith dialect '-' [.integer value] = false := by
  rw [startsWith_eq, chars_cons, toList_spelling_integer, if_neg natural]
  refine beq_eq_false_iff_ne.mpr fun first => ?_
  rw [List.nil_append, chars_nil, List.append_nil] at first
  have digit := Nat.isDigit_of_mem_toDigits (by decide) (by decide) (List.mem_of_mem_head? first)
  exact absurd digit (by decide)

/-- A lexeme that ends before the rest begins. -/
def EndsBefore (dialect : Dialect) (rest : List Lexeme) : Lexeme → Prop
  | .space | .opening | .closing | .comma | .dot => True
  | .sign .minus => startsWith dialect '-' rest = false
  | .sign _ | .bar | .keyword _ | .spatial _ | .name _ | .integer _ | .number _ | .quoted _
  | .gap _ => Breaks rest

/-- Every lexeme of the row ends before the rest. -/
def Spaced (dialect : Dialect) : List Lexeme → Prop
  | [] => True
  | lexeme :: rest => lexeme.EndsBefore dialect rest ∧ Spaced dialect rest

/-- Any lexeme ends before a row that ends it. -/
theorem endsBefore_of_breaks {rest : List Lexeme} (ends : Breaks rest) (lexeme : Lexeme) :
    lexeme.EndsBefore dialect rest := by
  cases lexeme with
  | space | opening | closing | comma | dot => trivial
  | sign symbol =>
    cases symbol with
    | minus => exact ends.unsigned dialect
    | plus | times | divide | modulo | equal | notEqual | less | lessEqual | greater | greaterEqual
    | concat => exact ends
  | bar | keyword | spatial | name | integer | number | quoted | gap => exact ends

theorem Breaks.front {front back : List Lexeme} (ends : Breaks (front ++ back)) : Breaks front := by
  cases front with
  | nil => exact breaks_nil
  | cons lexeme rest => exact breaks_cons (ends lexeme rfl) rest

private theorem startsWith_front {front back : List Lexeme}
    (apart : startsWith dialect char (front ++ back) = false) :
    startsWith dialect char front = false := by
  rw [startsWith_eq, chars_append, List.head?_append] at apart
  rw [startsWith_eq]
  cases begun : (chars dialect front).head? with
  | none => rfl
  | some letter => simpa [begun] using apart

/-- Where the rest is cut off does not matter. -/
theorem EndsBefore.front {lexeme : Lexeme} {front back : List Lexeme}
    (ends : lexeme.EndsBefore dialect (front ++ back)) : lexeme.EndsBefore dialect front := by
  cases lexeme with
  | space | opening | closing | comma | dot => trivial
  | sign symbol =>
    cases symbol with
    | minus => exact startsWith_front ends
    | plus | times | divide | modulo | equal | notEqual | less | lessEqual | greater | greaterEqual
    | concat => exact Breaks.front ends
  | bar | keyword | spatial | name | integer | number | quoted | gap => exact Breaks.front ends

/-- A row that is spaced in front of any row that ends it. -/
def Detached (dialect : Dialect) (body : List Lexeme) : Prop :=
  ∀ rest, Spaced dialect rest → Breaks rest → Spaced dialect (body ++ rest)

/-- A row that can stand between two bodies: it ends the first, and the second can follow. -/
def Separates (dialect : Dialect) (middle : List Lexeme) : Prop :=
  ∀ rest, Spaced dialect rest → Spaced dialect (middle ++ rest) ∧ Breaks (middle ++ rest)

private theorem detached_leaf (lexeme : Lexeme) : Detached dialect [lexeme] :=
  fun _ spaced ends => ⟨endsBefore_of_breaks ends lexeme, spaced⟩

private theorem detached_nil : Detached dialect [] := fun _ spaced _ => spaced

theorem separates_spaced (lexeme : Lexeme) : Separates dialect [.space, lexeme, .space] :=
  fun rest spaced =>
    ⟨⟨trivial, endsBefore_of_breaks (breaks_cons rfl rest) lexeme, trivial, spaced⟩, breaks_cons rfl _⟩

theorem separates_twice (first second : Lexeme) :
    Separates dialect [.space, first, .space, second, .space] :=
  fun rest spaced =>
    ⟨⟨trivial, endsBefore_of_breaks (breaks_cons rfl _) first, (separates_spaced second rest spaced).1⟩,
      breaks_cons rfl _⟩

private theorem separates_comma : Separates dialect [.comma] :=
  fun rest spaced => ⟨⟨trivial, spaced⟩, breaks_cons rfl rest⟩

private theorem separates_commaSpace : Separates dialect [.comma, .space] :=
  fun rest spaced => ⟨⟨trivial, trivial, spaced⟩, breaks_cons rfl (.space :: rest)⟩

theorem separates_test (negated : Bool) (word : Keyword) :
    Separates dialect (.space :: (negationMark negated ++ [.keyword word, .space])) := by
  cases negated with
  | false => exact separates_spaced _
  | true => exact separates_twice _ _

namespace Detached

theorem enclosed {body : List Lexeme} (detached : Detached dialect body) :
    Detached dialect (parenthesized body) := by
  intro rest spaced ends
  have inside := detached (.closing :: rest) ⟨trivial, spaced⟩ (breaks_cons rfl rest)
  simp only [parenthesized, List.cons_append, List.append_assoc, List.nil_append]
  exact ⟨trivial, inside⟩

theorem enclosedIf {body : List Lexeme} (detached : Detached dialect body) (needed : Bool) :
    Detached dialect (parenthesizedIf needed body) := by
  cases needed with
  | false => exact detached
  | true => exact detached.enclosed

theorem headed {body : List Lexeme} (detached : Detached dialect body) (head : Lexeme) :
    Detached dialect (head :: parenthesized body) :=
  fun rest spaced ends =>
    ⟨endsBefore_of_breaks (breaks_cons rfl _) head, detached.enclosed rest spaced ends⟩

theorem led {body : List Lexeme} (detached : Detached dialect body) (head : Lexeme) :
    Detached dialect (head :: .space :: body) :=
  fun rest spaced ends =>
    ⟨endsBefore_of_breaks (breaks_cons rfl _) head, trivial, detached rest spaced ends⟩

theorem between {first middle second : List Lexeme} (left : Detached dialect first)
    (separates : Separates dialect middle) (right : Detached dialect second) :
    Detached dialect (first ++ middle ++ second) := by
  intro rest spaced ends
  obtain ⟨spaced, apart⟩ := separates (second ++ rest) (right rest spaced ends)
  rw [List.append_assoc, List.append_assoc]
  exact left _ spaced apart

theorem separated {separator : List Lexeme} (separates : Separates dialect separator)
    {bodies : List (List Lexeme)} (each : ∀ body ∈ bodies, Detached dialect body) :
    Detached dialect (separator.intercalate bodies) := by
  induction bodies with
  | nil => exact detached_nil
  | cons head tail ih =>
    have first := each head List.mem_cons_self
    cases tail with
    | nil => simpa [List.intercalate] using first
    | cons next tail =>
      have inTail := ih fun body member => each body (List.mem_cons_of_mem _ member)
      have shape : separator.intercalate (head :: next :: tail) =
          head ++ separator ++ separator.intercalate (next :: tail) := by
        simp [List.intercalate]
      rw [shape]
      exact first.between separates inTail

theorem listed {bodies : List (List Lexeme)} (each : ∀ body ∈ bodies, Detached dialect body) :
    Detached dialect (commaSeparated bodies) :=
  separated separates_commaSpace each

/-- A minus stands apart from an operand, which is in parentheses if it begins with another one. -/
theorem minus {operand : List Lexeme} (detached : Detached dialect operand) :
    Detached dialect (.sign .minus ::
      parenthesizedIf (startsWith dialect '-' operand) operand) := by
  intro rest spaced ends
  refine ⟨?_, detached.enclosedIf _ rest spaced ends⟩
  cases signed : startsWith dialect '-' operand with
  | true => simp [EndsBefore, parenthesizedIf, parenthesized, startsWith, spelling]
  | false =>
    have apart := startsWith_append signed (ends.unsigned dialect)
    simpa [EndsBefore, parenthesizedIf] using apart

end Detached
end Lexeme

open Lexeme (Detached)

theorem Column.detached_lexemes (dialect : Dialect) (column : Column) :
    Detached dialect column.lexemes := by
  cases owner : column.table with
  | none => simpa [lexemes, owner] using Lexeme.detached_leaf (.name column.name)
  | some table =>
    intro rest spaced ends
    simp only [lexemes, owner]
    exact ⟨Lexeme.breaks_cons rfl _, trivial, ends, spaced⟩

theorem Literal.detached_lexemes (dialect : Dialect) (literal : Literal) :
    Detached dialect literal.lexemes := by
  rw [lexemes]
  split
  · exact Lexeme.detached_leaf _
  · exact Lexeme.detached_leaf _

theorem DimElement.detached_lexemes (dialect : Dialect) (element : DimElement) :
    Detached dialect element.lexemes := by
  rw [lexemes]
  split
  · refine Detached.headed (Detached.listed ?_) _
    simp [Lexeme.detached_leaf]
  · exact Lexeme.detached_leaf _

namespace Expr

private theorem detached_unaryLexemes {operand : List Lexeme} (detached : Detached dialect operand)
    (op : UnaryOp) : Detached dialect (unaryLexemes dialect operand op) := by
  cases op with
  | not => exact detached.led (.keyword .not)
  | minus => exact detached.minus
  | isNull =>
    have whole := detached.between (Lexeme.separates_spaced (.keyword .is))
      (Lexeme.detached_leaf (.keyword .null))
    simpa [unaryLexemes] using whole
  | isNotNull =>
    have whole := detached.between (Lexeme.separates_twice (.keyword .is) (.keyword .not))
      (Lexeme.detached_leaf (.keyword .null))
    simpa [unaryLexemes] using whole

private theorem detached_lexemesOrGap {operand : Option Expr}
    (detached : ∀ expr ∈ operand, Detached dialect (expr.lexemes dialect)) (gap : Gap) :
    Detached dialect (lexemesOrGap dialect gap operand) := by
  cases operand with
  | none => exact Lexeme.detached_leaf _
  | some expr => exact (detached expr rfl).enclosedIf _

private theorem detached_lexemesEach {exprs : List Expr}
    (detached : ∀ expr ∈ exprs, Detached dialect (expr.lexemes dialect)) :
    ∀ body ∈ exprs.map (lexemes dialect), Detached dialect body := by
  simpa using detached

private theorem detached_lexemes (dialect : Dialect) (expr : Expr) :
    Detached dialect (expr.lexemes dialect) := by
  induction expr using Expr.induct with
  | column reference => exact reference.detached_lexemes dialect
  | literal value => exact value.detached_lexemes dialect
  | binary op left right inLeft inRight =>
    exact (inLeft.enclosedIf _).between (Lexeme.separates_spaced op.lexeme) (inRight.enclosedIf _)
  | unary op operand inOperand => exact detached_unaryLexemes (inOperand.enclosedIf _) op
  | call name args inArgs =>
    rw [lexemes, lexemesEach_eq_map]
    exact (Detached.listed (detached_lexemesEach inArgs)).headed _
  | between test lower upper negated inTest inLower inUpper =>
    have bounds := (detached_lexemesOrGap inLower .betweenBegin).between
      (Lexeme.separates_spaced (.keyword .and)) (detached_lexemesOrGap inUpper .betweenEnd)
    have whole := (detached_lexemesOrGap inTest .betweenTest).between
      (Lexeme.separates_test negated .between) bounds
    simpa [lexemes] using whole
  | inList tested choices negated inTested inChoices =>
    have listed : Detached dialect (if choices.isEmpty then [Lexeme.gap .inListItems]
        else Lexeme.commaSeparated (lexemesEach dialect choices)) := by
      split
      · exact Lexeme.detached_leaf _
      · rw [lexemesEach_eq_map]
        exact Detached.listed (detached_lexemesEach inChoices)
    have whole := (inTested.enclosedIf (decide (tested.precedence < testMinimum))).between
      (Lexeme.separates_test negated .in) listed.enclosed
    simpa [lexemes] using whole
  | dimArray elements =>
    rw [lexemes]
    refine Detached.headed ?_ _
    split
    · exact Lexeme.detached_leaf _
    · refine Detached.listed ?_
      simp [DimElement.detached_lexemes]

end Expr

namespace Predicate

private theorem detached_lexemesOrGap {condition : Option Predicate}
    (detached : ∀ body ∈ condition, Detached dialect (body.lexemes dialect)) :
    Detached dialect (lexemesOrGap dialect condition) := by
  cases condition with
  | none => exact Lexeme.detached_leaf _
  | some body => exact detached body rfl

private theorem detached_lexemes (dialect : Dialect) (predicate : Predicate) :
    Detached dialect (predicate.lexemes dialect) := by
  induction predicate using Predicate.induct with
  | quantification quantifier bound condition inCondition =>
    have named : Detached dialect (variableLexemes bound) := by
      cases bound <;> exact Lexeme.detached_leaf _
    have inside := named.between (Lexeme.separates_spaced .bar)
      (detached_lexemesOrGap inCondition)
    exact inside.enclosed.led _
  | atom name args =>
    have listed : Detached dialect ([Lexeme.comma].intercalate (args.map (Expr.lexemes dialect))) :=
      Detached.separated Lexeme.separates_comma
        (Expr.detached_lexemesEach fun arg _ => arg.detached_lexemes dialect)
    exact listed.headed _
  | negation operand inOperand => exact inOperand.enclosed.led _
  | junction op operands inOperands =>
    rw [lexemes]
    refine Detached.enclosed ?_
    split
    · exact Lexeme.detached_leaf _
    · rw [lexemesEach_eq_map]
      refine Detached.separated (Lexeme.separates_spaced _) ?_
      simpa using inOperands

end Predicate

theorem Item.detached_lexemes (dialect : Dialect) (item : Item) :
    Detached dialect (item.lexemes dialect) := by
  cases item with
  | expression tree => exact tree.detached_lexemes dialect
  | predicate tree => exact tree.detached_lexemes dialect

/-- Every layout is spaced. -/
theorem Item.spaced_lexemes (dialect : Dialect) (item : Item) :
    Lexeme.Spaced dialect (item.lexemes dialect) := by
  simpa using item.detached_lexemes dialect [] trivial Lexeme.breaks_nil

end ConstraintTree
