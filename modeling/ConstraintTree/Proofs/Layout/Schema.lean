import ConstraintTree.Proofs.Layout.Idioms
import ConstraintTree.Proofs.Layout.Marks

namespace ConstraintTree

/-- How every spatial constructor begins. -/
def SpatialName.stem : List Char := ['S', 'D', 'O', '_', 'D', 'I', 'M', '_']

private theorem SpatialName.spelling_shape (name : SpatialName) :
    ∃ ending, name.spelling.toList = stem ++ ending ∧ 'S' ∉ ending := by
  cases name with
  | dimArray => exact ⟨['A', 'R', 'R', 'A', 'Y'], by decide, by decide⟩
  | dimElement => exact ⟨['E', 'L', 'E', 'M', 'E', 'N', 'T'], by decide, by decide⟩

namespace Lexeme

/-- Names, strings and constructors have underscores; nothing else has. -/
theorem underscore_of_mem {lexeme : Lexeme} (member : '_' ∈ (lexeme.spelling dialect).toList) :
    (∃ text, lexeme = .name text) ∨ (∃ content, lexeme = .quoted content) ∨
      ∃ constructor, lexeme = .spatial constructor := by
  cases lexeme with
  | name text => exact .inl ⟨text, rfl⟩
  | quoted content => exact .inr (.inl ⟨content, rfl⟩)
  | spatial constructor => exact .inr (.inr ⟨constructor, rfl⟩)
  | space | opening | closing | comma | dot | bar => simp [spelling] at member
  | keyword word => cases word <;> simp [spelling, Keyword.spelling] at member
  | gap missing => cases missing <;> simp [spelling, Gap.placeholder] at member
  | integer value =>
    obtain digit | sign := digit_of_mem_integer member
    · exact absurd digit (by decide)
    · exact absurd sign (by decide)
  | number value =>
    obtain digit | letter := Binary64.mem_text member
    · exact absurd digit (by decide)
    · exact absurd letter (by decide)
  | sign symbol =>
    cases symbol with
    | notEqual =>
      cases style : dialect.notEqual <;>
        simp [spelling, Sign.spelling, style, NotEqualStyle.spelling] at member
    | plus | minus | times | divide | modulo | equal | less | lessEqual | greater | greaterEqual
    | concat => simp [spelling, Sign.spelling] at member

/-! What a string literal contains. -/

private theorem prefix_of_escapeQuotes {pattern content : List Char} (plain : '\'' ∉ pattern)
    (begins : pattern <+: escapeQuotes content) : pattern <+: content := by
  fun_induction escapeQuotes content generalizing pattern with
  | case1 => exact begins
  | case2 rest ih =>
    cases pattern with
    | nil => exact List.nil_prefix
    | cons char pattern =>
      obtain ⟨rfl, -⟩ := List.cons_prefix_cons.mp begins
      exact absurd List.mem_cons_self plain
  | case3 head rest _ ih =>
    cases pattern with
    | nil => exact List.nil_prefix
    | cons char pattern =>
      obtain ⟨rfl, behind⟩ := List.cons_prefix_cons.mp begins
      have inRest := ih (List.not_mem_of_not_mem_cons plain) behind
      exact List.cons_prefix_cons.mpr ⟨rfl, inRest⟩

/-- A pattern does not begin with a character that it does not have. -/
theorem infix_of_cons {pattern rest : List Char} (absent : char ∉ pattern)
    (within : pattern <:+: char :: rest) : pattern <:+: rest := by
  obtain begins | later := List.infix_cons_iff.mp within
  · cases pattern with
    | nil => exact List.nil_infix
    | cons first pattern =>
      obtain ⟨rfl, -⟩ := List.cons_prefix_cons.mp begins
      exact absurd List.mem_cons_self absent
  · exact later

private theorem infix_of_concat {pattern rest : List Char} (absent : char ∉ pattern)
    (within : pattern <:+: rest ++ [char]) : pattern <:+: rest := by
  rw [← List.reverse_infix] at within ⊢
  rw [List.reverse_append, List.reverse_singleton, List.singleton_append] at within
  exact infix_of_cons (fun member => absent (List.mem_reverse.mp member)) within

private theorem infix_of_escapeQuotes {pattern content : List Char} (plain : '\'' ∉ pattern)
    (within : pattern <:+: escapeQuotes content) : pattern <:+: content := by
  fun_induction escapeQuotes content with
  | case1 => exact within
  | case2 rest ih =>
    have inRest := ih (infix_of_cons plain (infix_of_cons plain within))
    exact List.infix_cons inRest
  | case3 head rest other ih =>
    obtain begins | later := List.infix_cons_iff.mp within
    · have whole : escapeQuotes (head :: rest) = head :: escapeQuotes rest := by
        rw [escapeQuotes]
        exact other
      rw [← whole] at begins
      exact (prefix_of_escapeQuotes plain begins).isInfix
    · exact List.infix_cons (ih later)

/-- A string literal contains what its content contains, and quotes. -/
theorem infix_of_quoted {pattern : List Char} {content : String} (plain : '\'' ∉ pattern)
    (within : pattern <:+: (spelling dialect (.quoted content)).toList) :
    pattern <:+: content.toList := by
  rw [spelling, quote, String.toList_ofList] at within
  exact infix_of_escapeQuotes plain (infix_of_concat plain (infix_of_cons plain within))

/-- What follows a word begins with none of the characters of the stem. -/
theorem Breaks.apart {rest : List Lexeme} (ends : Breaks rest) :
    ∀ char ∈ (chars dialect rest).head?, char ∉ SpatialName.stem := by
  intro char first
  have others : ∀ char ∈ [' ', '(', ')', ',', '.'], char ∉ SpatialName.stem := by
    simp [SpatialName.stem]
  exact others char (ends.head first)

theorem replaces_spatial {style : NotEqualStyle} (schema : String) (constructor : SpatialName)
    (replaces : Replaces SpatialName.stem (schema.toList ++ '.' :: SpatialName.stem)
      source result) :
    Replaces SpatialName.stem (schema.toList ++ '.' :: SpatialName.stem)
      ((spelling ⟨none, style⟩ (.spatial constructor)).toList ++ source)
      ((spelling ⟨some schema, style⟩ (.spatial constructor)).toList ++ result) := by
  obtain ⟨ending, shape, free⟩ := constructor.spelling_shape
  have plain : (spelling ⟨none, style⟩ (.spatial constructor)).toList =
      SpatialName.stem ++ ending := shape
  have qualified : (spelling ⟨some schema, style⟩ (.spatial constructor)).toList =
      schema.toList ++ '.' :: SpatialName.stem ++ ending := by
    simp [spelling, Dialect.qualify, shape]
  rw [plain, qualified, List.append_assoc, List.append_assoc _ ending]
  exact .found (replaces.free free)

/-- A lexeme in front of a row, if it is a constructor whenever it has their stem. -/
theorem replaces_schema {style : NotEqualStyle} (schema : String) {lexeme : Lexeme}
    {rest : List Lexeme}
    (own : SpatialName.stem <:+: (lexeme.spelling ⟨none, style⟩).toList →
      ∃ constructor, lexeme = .spatial constructor)
    (ends : lexeme.EndsBefore ⟨none, style⟩ rest)
    (replaces : Replaces SpatialName.stem (schema.toList ++ '.' :: SpatialName.stem)
      (chars ⟨none, style⟩ rest) result) :
    Replaces SpatialName.stem (schema.toList ++ '.' :: SpatialName.stem)
      ((lexeme.spelling ⟨none, style⟩).toList ++ chars ⟨none, style⟩ rest)
      ((lexeme.spelling ⟨some schema, style⟩).toList ++ result) := by
  have absent (other : ∀ constructor, lexeme ≠ .spatial constructor) :
      ¬SpatialName.stem <:+: (lexeme.spelling ⟨none, style⟩).toList := by
    intro within
    obtain ⟨constructor, same⟩ := own within
    exact other constructor same
  cases lexeme with
  | spatial constructor => exact replaces_spatial schema constructor replaces
  | space | opening | closing | comma | dot =>
    apply replaces.free
    simp [spelling]
  | sign symbol =>
    apply replaces.free
    cases symbol <;> cases style <;> simp [spelling, Sign.spelling, NotEqualStyle.spelling]
  | bar | keyword | name | integer | number | quoted | gap =>
    exact replaces.apart (absent (by simp)) (Breaks.apart ends)

end Lexeme

/-- Neither a name nor a string of the tree contains the pattern. -/
structure Item.Omits (pattern : List Char) (item : Item) : Prop where
  names : ∀ name ∈ item.names, ¬pattern <:+: name.toList
  contents : ∀ content ∈ item.contents, ¬pattern <:+: content.toList

private theorem Item.Omits.spatial_of_infix {item : Item} (omits : item.Omits SpatialName.stem)
    {lexeme : Lexeme} (present : lexeme ∈ item.lexemes dialect)
    (within : SpatialName.stem <:+: (lexeme.spelling dialect).toList) :
    ∃ constructor, lexeme = .spatial constructor := by
  have underscore : '_' ∈ (lexeme.spelling dialect).toList := within.subset (by decide)
  obtain ⟨text, rfl⟩ | ⟨content, rfl⟩ | spatial := Lexeme.underscore_of_mem underscore
  · exact absurd within (omits.names text (Item.mem_names present))
  · have inContent := Lexeme.infix_of_quoted (by decide) within
    exact absurd inContent (omits.contents content (Item.mem_contents present))
  · exact spatial

namespace Idiom

private theorem isSigned_unqualified (style : NotEqualStyle) (name : SpatialName) :
    (constructor name).isSigned ⟨none, style⟩ = false := by
  cases name <;> simp [isSigned, spelling, Dialect.qualify, SpatialName.spelling]

/-- The dot counts behind a schema without a name. -/
theorem isSigned_qualified {schema : String} (unsigned : schema.toList.head? ≠ some '-')
    (style : NotEqualStyle) (name : SpatialName) :
    (constructor name).isSigned ⟨some schema, style⟩ = false := by
  rw [isSigned, spelling, Dialect.qualify]
  cases shown : schema.toList with
  | nil => simp [shown]
  | cons first more => simpa [shown] using unsigned

end Idiom

/-! Dimensions are written in arrays only. -/

/-- Wherever elements are constructed, an array is. -/
def Collected (idioms : List Idiom) : Prop :=
  .constructor .dimElement ∈ idioms → .constructor .dimArray ∈ idioms

private theorem collected_nil : Collected [] := nofun

theorem Collected.append {first second : List Idiom} (inFirst : Collected first)
    (inSecond : Collected second) : Collected (first ++ second) := by
  intro member
  obtain inside | inside := List.mem_append.mp member
  · exact List.mem_append_left _ (inFirst inside)
  · exact List.mem_append_right _ (inSecond inside)

theorem Collected.each {known : α → List Idiom} {values : List α}
    (each : ∀ value ∈ values, Collected (known value)) : Collected (values.flatMap known) := by
  intro member
  obtain ⟨value, present, inside⟩ := List.mem_flatMap.mp member
  exact List.mem_flatMap.mpr ⟨value, present, each value present inside⟩

theorem BinaryOp.collected_idioms (op : BinaryOp) : Collected op.idioms := by
  intro member
  cases op <;> simp [idioms] at member

namespace Expr

private theorem collected_idiomsOperand {operand : Option Expr}
    (each : ∀ expr ∈ operand, Collected expr.idioms) : Collected (idiomsOperand operand) := by
  cases operand with
  | none => exact collected_nil
  | some expr => exact each expr rfl

private theorem collected_idioms (expr : Expr) : Collected expr.idioms := by
  induction expr using Expr.induct with
  | column | literal => exact collected_nil
  | binary op left right inLeft inRight =>
    rw [idioms]
    exact (inLeft.append op.collected_idioms).append inRight
  | unary op operand inOperand => exact inOperand
  | call name args inArgs =>
    rw [idioms, idiomsEach_eq_flatMap]
    exact .each inArgs
  | between test lower upper negated inTest inLower inUpper =>
    rw [idioms]
    exact ((collected_idiomsOperand inTest).append (collected_idiomsOperand inLower)).append
      (collected_idiomsOperand inUpper)
  | inList tested choices negated inTested inChoices =>
    rw [idioms, idiomsEach_eq_flatMap]
    exact inTested.append (.each inChoices)
  | dimArray elements => exact fun _ => List.mem_cons_self

end Expr

theorem Predicate.collected_idioms (predicate : Predicate) : Collected predicate.idioms := by
  induction predicate using Predicate.induct with
  | quantification quantifier bound condition inCondition =>
    cases condition with
    | none => exact collected_nil
    | some body => exact inCondition body rfl
  | atom name args => exact .each fun arg _ => arg.collected_idioms
  | negation operand inOperand => exact inOperand
  | junction op operands inOperands =>
    rw [idioms, idiomsEach_eq_flatMap]
    exact .each inOperands

namespace Item

private theorem collected_idioms (item : Item) : Collected item.idioms := by
  cases item with
  | expression tree => exact tree.collected_idioms
  | predicate tree => exact tree.collected_idioms

/-- A schema without a minus in front leaves the layout as it is without a schema. -/
theorem lexemes_schema {schema : String} (unsigned : schema.toList.head? ≠ some '-')
    (style : NotEqualStyle) (item : Item) :
    item.lexemes ⟨some schema, style⟩ = item.lexemes ⟨none, style⟩ := by
  apply lexemes_of_sameSigns
  intro idiom _
  cases idiom with
  | inequality => rw [Idiom.isSigned_inequality, Idiom.isSigned_inequality]
  | constructor name => rw [Idiom.isSigned_qualified unsigned, Idiom.isSigned_unqualified]

/-- Without arrays there is nothing to qualify. -/
theorem render_unqualified {item : Item} (absent : .constructor .dimArray ∉ item.idioms)
    (style : NotEqualStyle) (schema schema' : Option String) :
    item.render ⟨schema, style⟩ = item.render ⟨schema', style⟩ := by
  have inequality : ∀ idiom ∈ item.idioms, idiom = .inequality := by
    intro idiom member
    cases idiom with
    | inequality => rfl
    | constructor name =>
      cases name with
      | dimArray => exact absurd member absent
      | dimElement => exact absurd (item.collected_idioms member) absent
  have rows : item.lexemes ⟨schema, style⟩ = item.lexemes ⟨schema', style⟩ := by
    apply lexemes_of_sameSigns
    intro idiom member
    rw [inequality idiom member, Idiom.isSigned_inequality, Idiom.isSigned_inequality]
  have texts : Lexeme.text ⟨schema, style⟩ (item.lexemes ⟨schema', style⟩) =
      Lexeme.text ⟨schema', style⟩ (item.lexemes ⟨schema', style⟩) := by
    rw [← String.toList_inj, Lexeme.toList_text, Lexeme.toList_text]
    apply Lexeme.chars_of_idioms
    intro idiom member
    rw [idioms_lexemes] at member
    rw [inequality idiom member]
    rfl
  rw [render_eq, render_eq, rows, Rendering.ofLexemes, Rendering.ofLexemes, texts]

/-- The schema changes the prefix of the constructors and nothing else. With a schema that has no minus
in front, and if neither the names nor the strings of a tree contain the stem of the constructors, the
text is the text without a schema, with the schema in front of each stem and with the same gaps. It has
the same lexemes, among them the constructors of all arrays and written elements of the tree at whatever
depth, which are spelled with the schema. Trees without arrays have the same text under all schemas. -/
theorem render_schema (item : Item) (style : NotEqualStyle) :
    (∀ schema : String, schema.toList.head? ≠ some '-' → item.Omits "SDO_DIM_".toList →
      (item.render ⟨some schema, style⟩).text =
          (item.render ⟨none, style⟩).text.replace "SDO_DIM_" (schema ++ ".SDO_DIM_") ∧
        (item.render ⟨some schema, style⟩).missing = (item.render ⟨none, style⟩).missing ∧
        (item.render ⟨some schema, style⟩).text =
          Lexeme.text ⟨some schema, style⟩ (item.lexemes ⟨none, style⟩) ∧
        Lexeme.idioms (item.lexemes ⟨none, style⟩) = item.idioms ∧
        ∀ name : SpatialName, (Lexeme.spatial name).spelling ⟨some schema, style⟩ =
          schema ++ "." ++ (Lexeme.spatial name).spelling ⟨none, style⟩) ∧
      (.constructor .dimArray ∉ item.idioms →
        ∀ schema schema', item.render ⟨schema, style⟩ = item.render ⟨schema', style⟩) := by
  refine ⟨fun schema unsigned omits => ?_, fun absent => render_unqualified absent style⟩
  have qualified : (item.render ⟨some schema, style⟩).text =
      Lexeme.text ⟨some schema, style⟩ (item.lexemes ⟨none, style⟩) := by
    rw [text_render, lexemes_schema unsigned]
  have replaces : Replaces SpatialName.stem (schema.toList ++ '.' :: SpatialName.stem)
      (item.render ⟨none, style⟩).text.toList (item.render ⟨some schema, style⟩).text.toList := by
    rw [qualified, text_render, Lexeme.toList_text, Lexeme.toList_text]
    exact Lexeme.replaces_row (item.spaced_lexemes _) fun lexeme present rest result =>
      Lexeme.replaces_schema schema (omits.spatial_of_infix present)
  refine ⟨?_, ?_, qualified, item.idioms_lexemes _, fun name => rfl⟩
  · symm
    apply Replaces.replace_eq (by decide)
    rw [String.toList_append]
    exact replaces
  · rw [missing_render, missing_render]

/-- An array with one element that can be written, behind a minus, and the stem cut short twice. -/
def negatedArray : Item :=
  .expression (.binary .ne (.unary .minus (.dimArray
    [⟨"SDO_DIM", ⟨0⟩, ⟨0⟩, ⟨0⟩⟩, ⟨"Y", ⟨0x7ff0000000000000⟩, ⟨0⟩, ⟨0⟩⟩])) (.named "SDO_DIM"))

theorem render_schema_negatedArray :
    "".toList.head? ≠ some '-' ∧ negatedArray.Omits "SDO_DIM_".toList ∧
      (negatedArray.render ⟨none, .bang⟩).text =
        "-SDO_DIM_ARRAY(SDO_DIM_ELEMENT('SDO_DIM', 0, 0, 0), <number is not finite>) != SDO_DIM" ∧
      (negatedArray.render ⟨some "", .bang⟩).text =
        (negatedArray.render ⟨none, .bang⟩).text.replace "SDO_DIM_" ("" ++ ".SDO_DIM_") := by
  have unsigned : "".toList.head? ≠ some '-' := by decide
  have short : ∀ text ∈ negatedArray.names ++ negatedArray.contents, text.toList.length < 8 := by decide
  have absent (text : String) (member : text ∈ negatedArray.names ++ negatedArray.contents) :
      ¬"SDO_DIM_".toList <:+: text.toList := fun within =>
    Nat.not_le_of_lt (short text member) within.length_le
  have omits : negatedArray.Omits "SDO_DIM_".toList :=
    ⟨fun name member => absent name (List.mem_append_left _ member),
      fun content member => absent content (List.mem_append_right _ member)⟩
  exact ⟨unsigned, omits, by decide, ((render_schema negatedArray .bang).1 "" unsigned omits).1⟩

end Item
end ConstraintTree
