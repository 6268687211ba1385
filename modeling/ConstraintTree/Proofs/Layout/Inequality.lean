import ConstraintTree.Proofs.Layout.Idioms
import ConstraintTree.Proofs.Layout.Placeholders

namespace ConstraintTree

/-- An opening bracket in front of anything but a closing one is no inequality. -/
theorem Replaces.opened {replacement source result : List Char} (apart : '>' ∉ source.head?)
    (rest : Replaces ['<', '>'] replacement source result) :
    Replaces ['<', '>'] replacement ('<' :: source) ('<' :: result) := by
  refine .kept ?_ rest
  rintro ⟨behind, whole⟩
  cases whole
  exact apart rfl

namespace Lexeme

/-- Styles differ on inequalities only. -/
theorem spelling_style {lexeme : Lexeme} (other : lexeme ≠ .sign .notEqual) (schema : Option String)
    (style style' : NotEqualStyle) : lexeme.spelling ⟨schema, style⟩ = lexeme.spelling ⟨schema, style'⟩ := by
  cases lexeme with
  | sign symbol =>
    cases symbol with
    | notEqual => exact absurd rfl other
    | plus | minus | times | divide | modulo | equal | less | lessEqual | greater | greaterEqual
    | concat => rfl
  | space | opening | closing | comma | dot | bar | keyword | spatial | name | integer | number
  | quoted | gap => rfl

theorem replaces_sign {schema : Option String} {rest : List Lexeme} {symbol : Sign}
    (ends : (sign symbol).EndsBefore ⟨schema, .standard⟩ rest)
    (replaces : Replaces ['<', '>'] ['!', '='] (chars ⟨schema, .standard⟩ rest) result) :
    Replaces ['<', '>'] ['!', '='] ((symbol.spelling .standard).toList ++ chars ⟨schema, .standard⟩ rest)
      ((symbol.spelling .bang).toList ++ result) := by
  cases symbol with
  | notEqual => exact .found replaces
  | less =>
    have apart : '>' ∉ (chars ⟨schema, .standard⟩ rest).head? := by
      intro first
      exact absurd (Breaks.head ends first) (by decide)
    exact .opened apart replaces
  | lessEqual =>
    have behind : Replaces ['<', '>'] ['!', '='] ('=' :: chars ⟨schema, .standard⟩ rest)
        ('=' :: result) := replaces.kept (by simp)
    apply behind.opened
    simp
  | plus | minus | times | divide | modulo | equal | greater | greaterEqual | concat =>
    exact replaces.free (by decide)

/-- A placeholder in front of a row. It has one bracket, with a letter behind it. -/
theorem replaces_gap {style style' : NotEqualStyle} {schema : Option String} (missing : Gap)
    (replaces : Replaces ['<', '>'] ['!', '='] source result) :
    Replaces ['<', '>'] ['!', '=']
      ((spelling ⟨schema, style⟩ (.gap missing)).toList ++ source)
      ((spelling ⟨schema, style'⟩ (.gap missing)).toList ++ result) := by
  obtain ⟨letter, shape, other, isLetter, -, single⟩ := missing.placeholder_shape
  have free : '<' ∉ letter :: (missing.wording ++ ['>']) := by simp [other.symm, single]
  rw [spelling, spelling, shape]
  apply (replaces.free free).opened
  rintro ⟨rfl⟩
  exact absurd isLetter (by decide)

/-- A lexeme in front of a row, if it is a sign or a gap whenever it has a bracket. -/
theorem replaces_style {schema : Option String} {lexeme : Lexeme} {rest : List Lexeme}
    (own : '<' ∈ (lexeme.spelling ⟨schema, .standard⟩).toList →
      (∃ symbol, lexeme = .sign symbol) ∨ ∃ missing, lexeme = .gap missing)
    (ends : lexeme.EndsBefore ⟨schema, .standard⟩ rest)
    (replaces : Replaces ['<', '>'] ['!', '='] (chars ⟨schema, .standard⟩ rest) result) :
    Replaces ['<', '>'] ['!', '=']
      ((lexeme.spelling ⟨schema, .standard⟩).toList ++ chars ⟨schema, .standard⟩ rest)
      ((lexeme.spelling ⟨schema, .bang⟩).toList ++ result) := by
  by_cases bracket : '<' ∈ (lexeme.spelling ⟨schema, .standard⟩).toList
  · obtain ⟨symbol, rfl⟩ | ⟨missing, rfl⟩ := own bracket
    · exact replaces_sign ends replaces
    · exact replaces_gap missing replaces
  · have plain : lexeme ≠ .sign .notEqual := by
      rintro rfl
      simp [spelling, Sign.spelling, NotEqualStyle.spelling] at bracket
    rw [← spelling_style plain schema .standard .bang]
    exact replaces.free bracket

end Lexeme

namespace Item

/-- No idiom begins with a minus in one style only. -/
theorem lexemes_style (schema : Option String) (style style' : NotEqualStyle) (item : Item) :
    item.lexemes ⟨schema, style⟩ = item.lexemes ⟨schema, style'⟩ := by
  apply lexemes_of_sameSigns
  intro idiom _
  cases idiom with
  | inequality => rw [Idiom.isSigned_inequality, Idiom.isSigned_inequality]
  | constructor name => rfl

/-- The style of inequality operators changes how they are spelled and nothing else. If neither the
names and the strings of a tree nor the schema have an opening angle bracket, the text in one style is
the text in the other with each `<>` replaced by `!=`, with the same gaps and of the same length, and
the styles differ on trees with inequalities only. -/
theorem render_bang {item : Item} {schema : Option String}
    (avoids : item.Avoids ⟨schema, .standard⟩ '<')
    (clean : ∀ content ∈ item.contents, '<' ∉ content.toList) :
    (item.render ⟨schema, .bang⟩).text =
        (item.render ⟨schema, .standard⟩).text.replace "<>" "!=" ∧
      (item.render ⟨schema, .bang⟩).missing = (item.render ⟨schema, .standard⟩).missing ∧
      (item.render ⟨schema, .bang⟩).text.length = (item.render ⟨schema, .standard⟩).text.length ∧
      (item.render ⟨schema, .bang⟩).text.utf8ByteSize =
        (item.render ⟨schema, .standard⟩).text.utf8ByteSize ∧
      (.inequality ∉ item.idioms →
        (item.render ⟨schema, .bang⟩).text = (item.render ⟨schema, .standard⟩).text) := by
  have spelled (style : NotEqualStyle) : (item.render ⟨schema, style⟩).text.toList =
      Lexeme.chars ⟨schema, style⟩ (item.lexemes ⟨schema, .standard⟩) := by
    rw [text_render, Lexeme.toList_text, lexemes_style schema style .standard]
  have replaces : Replaces ['<', '>'] ['!', '='] (item.render ⟨schema, .standard⟩).text.toList
      (item.render ⟨schema, .bang⟩).text.toList := by
    rw [spelled, spelled]
    exact Lexeme.replaces_row (item.spaced_lexemes _) fun lexeme present rest result =>
      Lexeme.replaces_style (avoids.bracket_of_mem clean present)
  refine ⟨?_, ?_, ?_, ?_, ?_⟩
  · symm
    exact Replaces.replace_eq (by decide) replaces
  · rw [missing_render, missing_render]
  · exact replaces.length_eq rfl
  · simpa using replaces.utf8ByteSize_eq rfl
  · intro absent
    rw [← String.toList_inj, spelled, spelled]
    apply Lexeme.chars_of_idioms
    intro idiom member
    rw [idioms_lexemes] at member
    cases idiom with
    | inequality => exact absurd member absent
    | constructor name => rfl

/-- Inequalities beside other comparisons, gaps and closing brackets. -/
def bracketed : Item :=
  .predicate (.atom "p>" [.binary .ne (.binary .lt (.named "a") (.text "!=")) (.named "b"),
    .binary .le (.named "c")
      (.between (some (.binary .ne (.named "d") (.named "e"))) none (some (.inList (.named "f") [] true))
        false)])

theorem render_bang_bracketed :
    bracketed.Avoids ⟨some "S", .standard⟩ '<' ∧ (∀ content ∈ bracketed.contents, '<' ∉ content.toList) ∧
      (bracketed.render ⟨some "S", .standard⟩).text = "p>((a < '!=') <> b,c <= " ++
        "((d <> e) BETWEEN <begin expression is null> AND (f NOT IN (<list is empty>))))" ∧
      (bracketed.render ⟨some "S", .bang⟩).text =
        (bracketed.render ⟨some "S", .standard⟩).text.replace "<>" "!=" := by
  have avoids : bracketed.Avoids ⟨some "S", .standard⟩ '<' := ⟨by decide, by decide⟩
  have clean : ∀ content ∈ bracketed.contents, '<' ∉ content.toList := by decide
  exact ⟨avoids, clean, by decide, (render_bang avoids clean).1⟩

end Item
end ConstraintTree
