import ConstraintTree.Proofs.Layout.Hollow
import ConstraintTree.Proofs.Layout.Marks

namespace ConstraintTree

/-- What a scanner for string tokens makes of a text. -/
inductive Piece where
  | code (char : Char)
  | string (content : String)
  deriving DecidableEq, Repr

namespace Piece

def content? : Piece → Option String
  | .string content => some content
  | .code _ => none

def collapse : Piece → Piece
  | .string _ => .string ""
  | .code char => .code char

end Piece

/-- Where a scanner for string tokens stands: outside of all tokens, in one whose content so far is
given, or behind a quote that closes that token unless it is doubled. -/
inductive Quotation where
  | outside
  | inside (content : List Char)
  | closing (content : List Char)
  deriving DecidableEq, Repr

namespace Quotation

/-- Nothing, if the text ends within a token. -/
def pieces? : Quotation → List Char → Option (List Piece)
  | .outside, [] => some []
  | .outside, '\'' :: rest => pieces? (.inside []) rest
  | .outside, char :: rest => (pieces? .outside rest).map (.code char :: ·)
  | .inside _, [] => none
  | .inside content, '\'' :: rest => pieces? (.closing content) rest
  | .inside content, char :: rest => pieces? (.inside (content ++ [char])) rest
  | .closing content, [] => some [.string (String.ofList content)]
  | .closing content, '\'' :: rest => pieces? (.inside (content ++ ['\''])) rest
  | .closing content, char :: rest =>
    (pieces? .outside rest).map (.string (String.ofList content) :: .code char :: ·)

private theorem outside_free {front : List Char} (free : '\'' ∉ front) (rest : List Char) :
    pieces? .outside (front ++ rest) =
      (pieces? .outside rest).map (front.map Piece.code ++ ·) := by
  induction front with
  | nil => simp
  | cons char front ih =>
    obtain ⟨different, free⟩ := List.ne_and_not_mem_of_not_mem_cons free
    rw [List.cons_append, pieces?]
    · simp [ih free, Option.map_map, Function.comp_def]
    · exact fun same => different same.symm

/-- Doubled quotes are read as the quotes of the content. -/
theorem inside_escaped (begun content rest : List Char) :
    pieces? (.inside begun) (Lexeme.escapeQuotes content ++ '\'' :: rest) =
      pieces? (.closing (begun ++ content)) rest := by
  fun_induction Lexeme.escapeQuotes content generalizing begun with
  | case1 => simp [pieces?]
  | case2 more ih => simp [pieces?, ih]
  | case3 char more other ih =>
    rw [List.cons_append, pieces?]
    · simp [ih]
    · exact fun same => other same

theorem closing_apart {rest : List Char} (apart : '\'' ∉ rest.head?) (content : List Char) :
    pieces? (.closing content) rest =
      (pieces? .outside rest).map (.string (String.ofList content) :: ·) := by
  cases rest with
  | nil => rfl
  | cons char rest =>
    have other : char ≠ '\'' := by
      rintro rfl
      exact apart rfl
    rw [pieces?, pieces?]
    · simp [Option.map_map, Function.comp_def]
    · exact other
    · exact other

end Quotation

theorem Sign.no_quote (style : NotEqualStyle) (symbol : Sign) :
    '\'' ∉ (symbol.spelling style).toList := by
  cases symbol with
  | notEqual => cases style <;> decide
  | plus | minus | times | divide | modulo | equal | less | lessEqual | greater | greaterEqual | concat =>
    simp [spelling]

theorem Gap.no_quote (gap : Gap) : '\'' ∉ gap.placeholder.toList := by
  cases gap <;> decide

namespace Lexeme

/-- A string literal is one token, and all else is code. -/
def pieces (dialect : Dialect) : Lexeme → List Piece
  | .quoted content => [.string content]
  | lexeme => (lexeme.spelling dialect).toList.map .code

theorem pieces_plain {lexeme : Lexeme} (plain : lexeme.quoted? = none) (dialect : Dialect) :
    lexeme.pieces dialect = (lexeme.spelling dialect).toList.map .code := by
  cases lexeme with
  | quoted content => cases plain
  | space | opening | closing | comma | dot | bar | keyword | sign | spatial | name | integer | number
  | gap => rfl

private theorem pieces?_quoted {rest : List Lexeme} (ends : Breaks rest) (dialect : Dialect)
    (content : String) :
    Quotation.pieces? .outside (chars dialect (.quoted content :: rest)) =
      (Quotation.pieces? .outside (chars dialect rest)).map (.string content :: ·) := by
  have apart : '\'' ∉ (chars dialect rest).head? := by
    intro first
    exact absurd (ends.head first) (by decide)
  have spelled : (spelling dialect (.quoted content)).toList =
      '\'' :: (escapeQuotes content.toList ++ ['\'']) := by
    simp [spelling, quote]
  rw [chars_cons, spelled]
  simp only [List.cons_append, List.append_assoc, List.nil_append]
  rw [Quotation.pieces?, Quotation.inside_escaped, Quotation.closing_apart apart]
  simp

/-- A row without quotes outside of its string literals is scanned lexeme by lexeme. -/
theorem pieces?_chars {row : List Lexeme} (spaced : Spaced dialect row)
    (own : ∀ lexeme ∈ row, lexeme.quoted? = none → '\'' ∉ (lexeme.spelling dialect).toList) :
    Quotation.pieces? .outside (chars dialect row) = some (row.flatMap (pieces dialect)) := by
  induction row with
  | nil => rfl
  | cons lexeme rest ih =>
    have inRest := ih spaced.2 fun other member => own other (List.mem_cons_of_mem _ member)
    rw [List.flatMap_cons]
    cases found : lexeme.quoted? with
    | none =>
      have free := own lexeme List.mem_cons_self found
      rw [chars_cons, Quotation.outside_free free, inRest, pieces_plain found, Option.map_some]
    | some content =>
      obtain rfl := quoted_of_quoted? found
      have ends : Breaks rest := spaced.1
      rw [pieces?_quoted ends, inRest]
      rfl

private theorem contents_pieces (dialect : Dialect) (row : List Lexeme) :
    (row.flatMap (pieces dialect)).filterMap Piece.content? = row.filterMap quoted? := by
  have code (chars : List Char) : (chars.map Piece.code).filterMap Piece.content? = [] := by
    simp [List.filterMap_map, Function.comp_def, Piece.content?]
  induction row with
  | nil => rfl
  | cons lexeme rest ih =>
    rw [List.flatMap_cons, List.filterMap_append, ih]
    cases found : lexeme.quoted? with
    | none =>
      rw [pieces_plain found, code, List.filterMap_cons_none found, List.nil_append]
    | some content =>
      obtain rfl := quoted_of_quoted? found
      rfl

/-- Collapsed tokens are those of the hollow row. -/
theorem collapse_pieces (dialect : Dialect) (row : List Lexeme) :
    (row.flatMap (pieces dialect)).map Piece.collapse = (hollowRow row).flatMap (pieces dialect) := by
  have code (chars : List Char) : (chars.map Piece.code).map Piece.collapse = chars.map .code := by
    simp [Function.comp_def, Piece.collapse]
  have same (lexeme : Lexeme) :
      (lexeme.pieces dialect).map Piece.collapse = lexeme.hollow.pieces dialect := by
    cases lexeme with
    | quoted content => rfl
    | space | opening | closing | comma | dot | bar | keyword | sign | spatial | name | integer | number
    | gap => exact code _
  rw [hollowRow, List.map_flatMap, List.flatMap_map]
  congr 1
  funext lexeme
  exact same lexeme

end Lexeme

/-- The pieces of a text, unless a string token is left open. -/
def pieces? (text : String) : Option (List Piece) := Quotation.pieces? .outside text.toList

/-- A tree without quotes in its names is scanned lexeme by lexeme. -/
theorem Item.pieces?_render {dialect : Dialect} {item : Item} (avoids : item.Avoids dialect '\'') :
    pieces? (item.render dialect).text =
      some ((item.lexemes dialect).flatMap (Lexeme.pieces dialect)) := by
  have own : ∀ lexeme ∈ item.lexemes dialect, lexeme.quoted? = none →
      '\'' ∉ (lexeme.spelling dialect).toList := by
    intro lexeme present plain quote
    rcases avoids.mark_of_mem (by decide) (by decide) present quote with
      ⟨content, rfl⟩ | ⟨symbol, rfl⟩ | ⟨missing, rfl⟩
    · cases plain
    · exact Sign.no_quote dialect.notEqual symbol quote
    · exact missing.no_quote quote
  rw [item.text_render, pieces?, Lexeme.toList_text]
  exact Lexeme.pieces?_chars (item.spaced_lexemes dialect) own

/-- String contents cannot leave their quotes. The text of a tree is scanned to its end with no token
open, the contents of the tokens are those of the tree in the order of a walk, and a tree that differs
in such contents only has the same text around its tokens and misses the same parts. -/
theorem Item.strings_confined {dialect : Dialect} {item : Item} (avoids : item.Avoids dialect '\'') :
    ∃ pieces, pieces? (item.render dialect).text = some pieces ∧
      pieces.filterMap Piece.content? = item.contents ∧
      ∀ other : Item, other.Avoids dialect '\'' → other.hollow = item.hollow →
        (pieces? (other.render dialect).text).map (·.map Piece.collapse) =
            some (pieces.map Piece.collapse) ∧
          (other.render dialect).missing = (item.render dialect).missing := by
  refine ⟨_, pieces?_render avoids, ?_, ?_⟩
  · rw [Lexeme.contents_pieces, item.filterMap_quoted]
  · intro other clean same
    obtain ⟨alike, missing⟩ := lexemes_of_hollow same dialect
    rw [pieces?_render clean, Option.map_some, Lexeme.collapse_pieces, alike, Lexeme.collapse_pieces,
      other.missing_render, missing, item.missing_render]
    exact ⟨rfl, rfl⟩

/-- A list of strings next to a range without bounds, in a test of a box. -/
def quotedNames (name first second : String) : Item :=
  .expression (.call "inside"
    [.dimArray [⟨name, ⟨0⟩, ⟨0x3ff0000000000000⟩, ⟨0x3fe0000000000000⟩⟩],
      .inList (.named "a") [.text first, .text second] false,
      .between (some (.named "b")) none none true])

/-- Contents that end in quotes, look like code or are empty. -/
theorem Item.strings_confined_names :
    (quotedNames "x'" "', '" "").Avoids {} '\'' ∧ (quotedNames "y" "b" "'").Avoids {} '\'' ∧
      (quotedNames "y" "b" "'").hollow = (quotedNames "x'" "', '" "").hollow ∧
      ∃ pieces, pieces? ((quotedNames "x'" "', '" "").render {}).text = some pieces ∧
        pieces.filterMap Piece.content? = ["x'", "', '", ""] ∧
        (pieces? ((quotedNames "y" "b" "'").render {}).text).map (·.map Piece.collapse) =
            some (pieces.map Piece.collapse) := by
  have avoids : (quotedNames "x'" "', '" "").Avoids {} '\'' := ⟨by decide, by decide⟩
  have clean : (quotedNames "y" "b" "'").Avoids {} '\'' := ⟨by decide, by decide⟩
  obtain ⟨pieces, scanned, contents, others⟩ := Item.strings_confined avoids
  exact ⟨avoids, clean, rfl, pieces, scanned, contents, (others _ clean rfl).1⟩

end ConstraintTree
