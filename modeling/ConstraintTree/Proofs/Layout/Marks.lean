import ConstraintTree.Proofs.Layout.Leaves
import ConstraintTree.Proofs.Layout.Spacing

namespace ConstraintTree

namespace Numeral

private theorem mem_trimFraction {fraction : List Char} (member : char ∈ trimFraction fraction) :
    char ∈ fraction := by
  have kept := List.dropWhile_subset _ (List.mem_reverse.mp member)
  exact List.mem_reverse.mp kept

theorem mem_text {numeral : Numeral} (member : char ∈ numeral.text) :
    char.isDigit = true ∨ char = '.' := by
  have zero (count : Nat) (member : char ∈ List.replicate count '0') : char.isDigit = true := by
    rw [List.eq_of_mem_replicate member]
    decide
  have digit (member : char ∈ Nat.toDigits 10 numeral.digits) : char.isDigit = true :=
    Nat.isDigit_of_mem_toDigits (by decide) (by decide) member
  have padded (count : Nat)
      (member : char ∈ List.replicate count '0' ++ Nat.toDigits 10 numeral.digits) :
      char.isDigit = true := (List.mem_append.mp member).elim (zero count) digit
  simp only [text] at member
  split at member
  · exact .inl ((List.mem_append.mp member).elim digit (zero _))
  · split at member
    · exact .inl (padded _ (List.mem_of_mem_take member))
    · rcases List.mem_append.mp member with whole | fraction
      · exact .inl (padded _ (List.mem_of_mem_take whole))
      · rcases List.mem_cons.mp fraction with point | fraction
        · exact .inr point
        · exact .inl (padded _ (List.mem_of_mem_drop (mem_trimFraction fraction)))

end Numeral

theorem Binary64.mem_magnitudeText {number : Binary64} (member : char ∈ number.magnitudeText) :
    char.isDigit = true ∨ char = '.' := by
  rw [magnitudeText] at member
  split at member
  · left
    rw [List.mem_singleton.mp member]
    decide
  · exact Numeral.mem_text member

theorem Binary64.mem_text {number : Binary64} (member : char ∈ number.text.toList) :
    char.isDigit = true ∨ char ∈ ['.', '-', 'N', 'a', 'i', 'n', 'f'] := by
  have spelled : ∀ char ∈ ['N', 'a', 'N'], char ∈ ['.', '-', 'N', 'a', 'i', 'n', 'f'] := by simp
  have infinite : ∀ char ∈ ['i', 'n', 'f'], char ∈ ['.', '-', 'N', 'a', 'i', 'n', 'f'] := by simp
  rw [text, String.toList_ofList, chars] at member
  split at member
  · exact .inr (spelled char member)
  · rcases List.mem_append.mp member with sign | magnitude
    · right
      split at sign
      · simp [List.mem_singleton.mp sign]
      · exact absurd sign List.not_mem_nil
    · split at magnitude
      · rcases mem_magnitudeText magnitude with digit | rfl
        · exact .inl digit
        · exact .inr List.mem_cons_self
      · exact .inr (infinite char magnitude)

namespace Lexeme

def specials : List Char := ['\'', '<', '|', '(', ')', '-']

/-- Characters that no keyword or numeral is spelled with, and of the punctuation only the bar. -/
def marks : List Char := ['\'', '<', '|']

/-- Lexemes that can be spelled with a special character whatever the names and the schema are. -/
def Owns (mark : Char) : Lexeme → Prop
  | .quoted _ => True
  | .sign symbol => mark ∈ ['<', '|'] ∨ mark = '-' ∧ symbol = .minus
  | .gap _ => mark = '<'
  | .bar => mark = '|'
  | .opening => mark = '('
  | .closing => mark = ')'
  | .integer _ | .number _ => mark = '-'
  | .space | .comma | .dot | .keyword _ | .spatial _ | .name _ => False

theorem digit_of_mem_integer {value : Int64}
    (member : char ∈ (spelling dialect (.integer value)).toList) :
    char.isDigit = true ∨ char = '-' := by
  rw [toList_spelling_integer] at member
  rcases List.mem_append.mp member with sign | digit
  · right
    split at sign
    · exact List.mem_singleton.mp sign
    · exact absurd sign List.not_mem_nil
  · exact .inl (Nat.isDigit_of_mem_toDigits (by decide) (by decide) digit)

private theorem not_mem_keyword (word : Keyword) : ∀ mark ∈ specials, mark ∉ word.spelling.toList := by
  cases word <;> simp [specials, Keyword.spelling]

private theorem mem_schema {mark : Char} (special : mark ∈ specials) {dialect : Dialect}
    {constructor : SpatialName}
    (member : mark ∈ (dialect.qualify constructor.spelling).toList) :
    ∃ schema ∈ dialect.schema, mark ∈ schema.toList := by
  have named : ∀ mark ∈ specials, mark ∉ '.' :: constructor.spelling.toList := by
    cases constructor <;> simp [specials, SpatialName.spelling]
  cases owner : dialect.schema with
  | none =>
    simp only [Dialect.qualify, owner] at member
    exact absurd (List.mem_cons_of_mem _ member) (named mark special)
  | some schema =>
    refine ⟨schema, rfl, ?_⟩
    simp only [Dialect.qualify, owner, String.toList_append, List.append_assoc] at member
    rcases List.mem_append.mp member with inside | after
    · exact inside
    · exact absurd after (named mark special)

/-- A lexeme spelled with a special character is a name of the tree that has it, or a constructor of a
schema that has it, or it has the character of its own. -/
theorem owns_of_mem {mark : Char} (special : mark ∈ specials) {lexeme : Lexeme}
    (member : mark ∈ (lexeme.spelling dialect).toList) :
    (∃ text, lexeme = .name text ∧ mark ∈ text.toList) ∨
      (∃ constructor, lexeme = .spatial constructor ∧
        ∃ schema ∈ dialect.schema, mark ∈ schema.toList) ∨
      lexeme.Owns mark := by
  have digitless : ∀ mark ∈ specials, mark.isDigit = false := by simp [specials]
  have letterless : ∀ mark ∈ specials, mark ∈ ['.', '-', 'N', 'a', 'i', 'n', 'f'] → mark = '-' := by
    simp [specials]
  have pointless : ∀ mark ∈ specials, mark ∉ [' ', ',', '.'] := by simp [specials]
  cases lexeme with
  | space | comma | dot =>
    have point : mark ∈ [' ', ',', '.'] := by
      revert member
      simp +contextual [spelling]
    exact absurd point (pointless mark special)
  | bar | opening | closing => exact .inr (.inr (by simpa [spelling, Owns] using member))
  | keyword word => exact absurd member (not_mem_keyword word mark special)
  | integer value =>
    rcases digit_of_mem_integer member with digit | rfl
    · simp [digitless mark special] at digit
    · exact .inr (.inr rfl)
  | number value =>
    rcases Binary64.mem_text member with digit | letter
    · simp [digitless mark special] at digit
    · exact .inr (.inr (letterless mark special letter))
  | gap missing =>
    have placeholder : ∀ mark ∈ specials, mark ∈ missing.placeholder.toList → mark = '<' := by
      cases missing <;> simp [specials, Gap.placeholder]
    exact .inr (.inr (placeholder mark special member))
  | spatial constructor => exact .inr (.inl ⟨constructor, rfl, mem_schema special member⟩)
  | name text => exact .inl ⟨text, rfl, member⟩
  | quoted content => exact .inr (.inr trivial)
  | sign symbol =>
    have punctuation : ∀ mark ∈ specials, mark ∈ (symbol.spelling dialect.notEqual).toList →
        mark ∈ ['<', '|'] ∨ mark = '-' ∧ symbol = .minus := by
      cases symbol with
      | notEqual => cases dialect.notEqual <;> simp [specials, Sign.spelling, NotEqualStyle.spelling]
      | plus | minus | times | divide | modulo | equal | less | lessEqual | greater | greaterEqual
      | concat => simp [specials, Sign.spelling]
    exact .inr (.inr (punctuation mark special member))

/-- A lexeme spelled with a mark is a name of the tree that has it, a constructor of a schema that has
it, a string literal, a sign, a gap or the bar. -/
theorem mark_of_mem {mark : Char} (special : mark ∈ marks) {lexeme : Lexeme}
    (member : mark ∈ (lexeme.spelling dialect).toList) :
    (∃ text, lexeme = .name text ∧ mark ∈ text.toList) ∨
      (∃ constructor, lexeme = .spatial constructor ∧
        ∃ schema ∈ dialect.schema, mark ∈ schema.toList) ∨
      (∃ content, lexeme = .quoted content) ∨ (∃ symbol, lexeme = .sign symbol) ∨
      (∃ missing, lexeme = .gap missing) ∨ lexeme = .bar ∧ mark = '|' := by
  have wider : marks ⊆ specials := by simp [marks, specials]
  refine (owns_of_mem (wider special) member).imp_right (Or.imp_right fun owns => ?_)
  cases lexeme with
  | quoted content => exact .inl ⟨content, rfl⟩
  | sign symbol => exact .inr (.inl ⟨symbol, rfl⟩)
  | gap missing => exact .inr (.inr (.inl ⟨missing, rfl⟩))
  | bar => exact .inr (.inr (.inr ⟨rfl, owns⟩))
  | opening | closing | integer | number =>
    cases owns
    exact absurd special (by decide)
  | space | comma | dot | keyword | spatial | name => cases owns

private theorem mem_escapeQuotes {char : Char} {content : List Char} (other : char ≠ '\'')
    (member : char ∈ escapeQuotes content) : char ∈ content := by
  fun_induction escapeQuotes content with
  | case1 => exact member
  | case2 rest ih =>
    rcases List.mem_cons.mp member with rfl | member
    · exact List.mem_cons_self
    · rcases List.mem_cons.mp member with rfl | member
      · exact List.mem_cons_self
      · exact List.mem_cons_of_mem _ (ih member)
  | case3 head rest _ ih =>
    rcases List.mem_cons.mp member with rfl | member
    · exact List.mem_cons_self
    · exact List.mem_cons_of_mem _ (ih member)

/-- A string literal adds quotes to its content and nothing else. -/
theorem mem_quoted {char : Char} {content : String} (other : char ≠ '\'')
    (member : char ∈ (spelling dialect (.quoted content)).toList) : char ∈ content.toList := by
  rw [spelling, quote, String.toList_ofList] at member
  have inside : char ∈ escapeQuotes content.toList := by simpa [other] using member
  exact mem_escapeQuotes other inside

end Lexeme

/-- Neither a name of the tree nor the schema has the character. -/
structure Item.Avoids (dialect : Dialect) (mark : Char) (item : Item) : Prop where
  names : ∀ name ∈ item.names, mark ∉ name.toList
  schema : ∀ schema ∈ dialect.schema, mark ∉ schema.toList

/-- A mark that the names avoid and that is no bar stands in string literals, signs and gaps only. -/
theorem Item.Avoids.mark_of_mem {item : Item} (avoids : item.Avoids dialect mark)
    (special : mark ∈ Lexeme.marks) (other : mark ≠ '|') {lexeme : Lexeme}
    (present : lexeme ∈ item.lexemes dialect) (member : mark ∈ (lexeme.spelling dialect).toList) :
    (∃ content, lexeme = .quoted content) ∨ (∃ symbol, lexeme = .sign symbol) ∨
      ∃ missing, lexeme = .gap missing := by
  rcases Lexeme.mark_of_mem special member with
    ⟨text, rfl, inText⟩ | ⟨_, _, schema, owner, inSchema⟩ | quoted | sign | gap | ⟨_, same⟩
  · exact absurd inText (avoids.names text (Item.mem_names present))
  · exact absurd inSchema (avoids.schema schema owner)
  · exact .inl quoted
  · exact .inr (.inl sign)
  · exact .inr (.inr gap)
  · exact absurd same other

end ConstraintTree
