import ConstraintTree.Proofs.Layout.Parentheses
import Mathlib.Data.List.Chain

/-!
Texts that are safe to put into a statement. Two dashes in a row would open a comment. A dash comes
from a minus or from the sign of a number; no minus stands directly before another dash, and digits
follow the sign of a number. With names and a schema free of dashes, parentheses and quotes, no text
has two dashes in a row outside of its string tokens, and its parentheses are balanced.
-/
namespace ConstraintTree

namespace Numeral

private theorem text_ne_nil (numeral : Numeral) : numeral.text ≠ [] := by
  have some : Nat.toDigits 10 numeral.digits ≠ [] := Nat.toDigits_ne_nil
  simp only [text]
  generalize Nat.toDigits 10 numeral.digits = digits at some ⊢
  split
  · simp [some]
  -- Padding leaves a digit in front of the places of the fraction.
  · generalize padding : List.replicate _ '0' ++ digits = padded
    have longer : origin - numeral.place < padded.length := by
      rw [← padding, List.length_append, List.length_replicate]
      omega
    have whole : padded.take (padded.length - (origin - numeral.place)) ≠ [] := by
      rw [ne_eq, List.take_eq_nil_iff, ← List.length_eq_zero_iff]
      omega
    split
    · exact whole
    · simp

end Numeral

/-- A text with at most one dash, which stands in front of something. -/
def Signed (chars : List Char) : Prop :=
  ∃ sign body, chars = sign ++ body ∧ sign.length ≤ 1 ∧ '-' ∉ body ∧ body ≠ []

private theorem Binary64.signed_chars (number : Binary64) : Signed number.chars := by
  have sign : (if number.isNegative then ['-'] else []).length ≤ 1 := by
    split <;> simp
  rw [chars]
  split
  · exact ⟨[], ['N', 'a', 'N'], rfl, by simp, by simp, by simp⟩
  · refine ⟨_, _, rfl, sign, ?_⟩
    split
    · refine ⟨fun dash => ?_, ?_⟩
      · rcases mem_magnitudeText dash with digit | point
        · exact absurd digit (by decide)
        · exact absurd point (by decide)
      · rw [magnitudeText]
        split
        · simp
        · exact Numeral.text_ne_nil _
    · simp

namespace Lexeme

private theorem signed_integer (dialect : Dialect) (value : Int64) :
    Signed (spelling dialect (.integer value)).toList := by
  rw [toList_spelling_integer]
  refine ⟨_, _, rfl, ?_, fun dash => ?_, Nat.toDigits_ne_nil⟩
  · split <;> simp
  · exact absurd (Nat.isDigit_of_mem_toDigits (by decide) (by decide) dash) (by decide)

private theorem signed_number (dialect : Dialect) (value : Binary64) :
    Signed (spelling dialect (.number value)).toList := by
  rw [spelling, Binary64.text, String.toList_ofList]
  exact value.signed_chars

end Lexeme

namespace Piece

/-- Neighbours that are not two dashes. -/
def Apart (first second : Piece) : Prop := first = .code '-' → second ≠ .code '-'

private theorem isChain_of_tail {pieces : List Piece} (free : .code '-' ∉ pieces.tail) :
    pieces.IsChain Apart := by
  refine List.isChain_iff_forall_rel_of_append_cons_cons.mpr ?_
  rintro first second front back rfl - rfl
  cases front <;> simp at free

end Piece

namespace Lexeme

open Piece (Apart)

/-- The pieces of a lexeme have a dash in front only, and only a minus has nothing behind it. -/
def Dashed (dialect : Dialect) (lexeme : Lexeme) : Prop :=
  .code '-' ∉ (lexeme.pieces dialect).tail ∧
    (lexeme ≠ .sign .minus → .code '-' ∉ (lexeme.pieces dialect).getLast?)

private theorem dashed_of_free {lexeme : Lexeme} (free : .code '-' ∉ lexeme.pieces dialect) :
    lexeme.Dashed dialect :=
  ⟨fun member => free (List.mem_of_mem_tail member),
    fun _ last => free (List.mem_of_getLast? last)⟩

private theorem dashed_of_signed {lexeme : Lexeme} (plain : lexeme.quoted? = none)
    (signed : Signed (lexeme.spelling dialect).toList) : lexeme.Dashed dialect := by
  obtain ⟨sign, body, same, short, free, nonempty⟩ := signed
  have ends : (body.map Piece.code).getLast? = (lexeme.pieces dialect).getLast? := by
    rw [pieces_plain plain, same, List.map_append, List.getLast?_append_of_ne_nil _ (by simpa)]
  refine ⟨?_, fun _ last => ?_⟩
  · rw [pieces_plain plain, same]
    match sign, short with
    | [], _ => exact fun member => free (by simpa using List.mem_of_mem_tail member)
    | [_], _ => simpa using free
  · rw [← ends] at last
    exact free (by simpa using List.mem_of_getLast? last)

private theorem dashed_of_owns {lexeme : Lexeme} (plain : lexeme.quoted? = none)
    (owns : lexeme.Owns '-') :
    lexeme.Dashed dialect := by
  cases lexeme with
  | quoted content => cases plain
  | sign symbol =>
    obtain rfl : symbol = .minus := by simpa [Owns] using owns
    simp [Dashed, pieces, spelling, Sign.spelling]
  | integer value => exact dashed_of_signed rfl (signed_integer dialect value)
  | number value => exact dashed_of_signed rfl (signed_number dialect value)
  | space | opening | closing | comma | dot | bar | keyword | spatial | name | gap => cases owns

/-- The first piece of a row, if it is code, is the first character of the row's text. -/
theorem head_of_code {row : List Lexeme}
    (first : .code char ∈ (row.flatMap (pieces dialect)).head?) :
    char ∈ (chars dialect row).head? := by
  induction row with
  | nil => cases first
  | cons lexeme rest ih =>
    rw [List.flatMap_cons] at first
    rw [chars_cons]
    cases found : lexeme.quoted? with
    | none =>
      rw [pieces_plain found] at first
      generalize (lexeme.spelling dialect).toList = letters at first ⊢
      cases letters with
      | nil => exact ih first
      | cons letter more => simpa using first
    | some content =>
      obtain rfl := quoted_of_quoted? found
      simp [pieces] at first

theorem isChain_pieces {row : List Lexeme} (spaced : Spaced dialect row)
    (dashed : ∀ lexeme ∈ row, lexeme.Dashed dialect) :
    (row.flatMap (pieces dialect)).IsChain Apart := by
  induction row with
  | nil => exact .nil
  | cons lexeme rest ih =>
    obtain ⟨⟨inFront, last⟩, inRest⟩ := List.forall_mem_cons.mp dashed
    rw [List.flatMap_cons]
    refine List.isChain_append.mpr ⟨Piece.isChain_of_tail inFront, ih spaced.2 inRest, ?_⟩
    rintro _ ends second begins rfl rfl
    by_cases minus : lexeme = .sign .minus
    · subst minus
      have apart : startsWith dialect '-' rest = false := spaced.1
      rw [startsWith_eq, head_of_code begins] at apart
      simp at apart
    · exact last minus ends

end Lexeme

/-- Dashes of a tree stand apart, unless its names have others. -/
theorem Item.isChain_pieces {item : Item} (avoids : item.Avoids dialect '-') :
    ((item.lexemes dialect).flatMap (Lexeme.pieces dialect)).IsChain Piece.Apart := by
  refine Lexeme.isChain_pieces (item.spaced_lexemes dialect) fun lexeme present => ?_
  by_cases member : .code '-' ∈ lexeme.pieces dialect
  · obtain ⟨plain, owns⟩ := avoids.owns_of_code (by decide) present member
    exact Lexeme.dashed_of_owns plain owns
  · exact Lexeme.dashed_of_free member

/-- No text is taken for a comment or has parentheses that do not match, unless the names or the schema
have such characters themselves. Outside of the string tokens no two dashes stand in a row, no front
of the text closes more parentheses than it opens, and the whole text closes all. -/
theorem Item.lexically_safe {dialect : Dialect} {item : Item}
    (avoids : ∀ mark ∈ ['-', '(', ')', '\''], item.Avoids dialect mark) :
    ∃ pieces, pieces? (item.render dialect).text = some pieces ∧
      ¬ [.code '-', .code '-'] <:+: pieces ∧ Balanced pieces := by
  obtain ⟨dash, opening, closing, quote⟩ :
      item.Avoids dialect '-' ∧ item.Avoids dialect '(' ∧ item.Avoids dialect ')' ∧
        item.Avoids dialect '\'' := by simpa using avoids
  refine ⟨_, pieces?_render quote, ?_, balanced_pieces (by simp [opening, closing])⟩
  rintro ⟨front, back, same⟩
  have chain := isChain_pieces dash
  rw [← same] at chain
  simpa [Piece.Apart] using chain.left_of_append.right_of_append

/-- A difference whose operands begin with dashes: minuses of a negative number, and the minus of a
call whose arguments are a string, a dimension of the same name and a range without a bound. -/
def dashedDifference (content : String) : Item :=
  .expression (.binary .sub (.unary .minus (.unary .minus (.literal (.integer (-5)))))
    (.unary .minus (.call "f"
      [.literal (.text content), .dimArray [⟨content, ⟨0xbfe0000000000000⟩, ⟨0⟩, ⟨0⟩⟩],
        .between (some (.named "a")) none (some (.literal (.number ⟨0xbfe0000000000000⟩))) true])))

/-- The string looks like the start of a comment behind a parenthesis. -/
theorem Item.lexically_safe_difference :
    (∀ mark ∈ ['-', '(', ')', '\''], (dashedDifference "')--").Avoids {} mark) ∧
      ((dashedDifference "')--").render {}).text = "-(-(-5)) - -f(''')--', " ++
        "MDSYS.SDO_DIM_ARRAY(MDSYS.SDO_DIM_ELEMENT(''')--', -0.5, 0, 0)), " ++
        "a NOT BETWEEN <begin expression is null> AND -0.5)" ∧
      ∃ pieces, pieces? ((dashedDifference "')--").render {}).text = some pieces ∧
        ¬ [.code '-', .code '-'] <:+: pieces ∧ Balanced pieces := by
  have avoids : ∀ mark ∈ ['-', '(', ')', '\''], (dashedDifference "')--").Avoids {} mark := by
    intro mark member
    have names : ∀ mark ∈ ['-', '(', ')', '\''], ∀ name ∈ ["f", "a"], mark ∉ name.toList := by
      simp
    have schema : ∀ mark ∈ ['-', '(', ')', '\''], mark ∉ "MDSYS".toList := by simp
    refine ⟨names mark member, ?_⟩
    rintro _ ⟨⟩
    exact schema mark member
  exact ⟨avoids, by decide +kernel, Item.lexically_safe avoids⟩

end ConstraintTree
