import ConstraintTree.Proofs.Grammar.Legibility
import ConstraintTree.Proofs.Layout.Marks

/-!
Texts of predicates taken apart. A bar that stands alone outside of string literals separates two
parts of the text; each part is scanned like the text of an expression. That scanner knows nothing of
quantifiers: to it they are names, and a name that is spelled like one of its keywords is that keyword.
-/
namespace ConstraintTree

/-- A token of an expression, or a bar between two parts. -/
inductive Glyph where
  | bar
  | token (value : Token)
  deriving DecidableEq, Repr

namespace Glyph

/-- Characters in front of a cut text belong to its first part. -/
def lead (front : List Char) (parts : List Char × List (List Char)) : List Char × List (List Char) :=
  (front ++ parts.1, parts.2)

/-- Cuts characters at bars and gives the first part and the others. Within a string literal a bar is
no separator, and a doubled bar is an operator. -/
def cut : Bool → List Char → List Char × List (List Char)
  | _, [] => ([], [])
  | false, '\'' :: rest => lead ['\''] (cut true rest)
  | false, '|' :: '|' :: rest => lead ['|', '|'] (cut false rest)
  | false, '|' :: rest => ([], (cut false rest).1 :: (cut false rest).2)
  | false, char :: rest => lead [char] (cut false rest)
  | true, '\'' :: rest => lead ['\''] (cut false rest)
  | true, char :: rest => lead [char] (cut true rest)

def join (first : List Token) (others : List (List Token)) : List Glyph :=
  first.map token ++ others.flatMap fun part => .bar :: part.map token

def ofText? (text : String) : Option (List Glyph) := do
  let (first, others) := cut false text.toList
  return join (← Pending.scan .nothing first) (← others.mapM (Pending.scan .nothing))

@[simp] theorem lead_lead (front more : List Char) (parts : List Char × List (List Char)) :
    lead front (lead more parts) = lead (front ++ more) parts := by
  simp [lead]

private theorem cut_free {front : List Char} (quoteless : '\'' ∉ front) (barless : '|' ∉ front)
    (rest : List Char) : cut false (front ++ rest) = lead front (cut false rest) := by
  induction front with
  | nil => rfl
  | cons char front ih =>
    obtain ⟨noQuote, quoteless⟩ := List.ne_and_not_mem_of_not_mem_cons quoteless
    obtain ⟨noBar, barless⟩ := List.ne_and_not_mem_of_not_mem_cons barless
    rw [List.cons_append, cut, ih quoteless barless, lead_lead]
    · rfl
    · exact fun same => noQuote same.symm
    · exact fun _ same => absurd same.symm noBar
    · exact fun same => noBar same.symm

private theorem cut_bar {rest : List Char} (apart : '|' ∉ rest.head?) :
    cut false ('|' :: rest) = ([], (cut false rest).1 :: (cut false rest).2) := by
  cases rest with
  | nil => rfl
  | cons char rest =>
    rw [cut]
    rintro _ ⟨⟩
    exact apart rfl

/-- A doubled quote leaves a string literal for no character. -/
theorem cut_escaped (content rest : List Char) :
    cut true (Lexeme.escapeQuotes content ++ '\'' :: rest) =
      lead (Lexeme.escapeQuotes content ++ ['\'']) (cut false rest) := by
  fun_induction Lexeme.escapeQuotes content with
  | case1 => rfl
  | case2 more ih => simp [cut, ih]
  | case3 char more other ih =>
    rw [List.cons_append, cut, ih, lead_lead]
    · rfl
    · exact fun same => other same

end Glyph

namespace Lexeme

/-- A word as the scanner of expressions takes it. -/
def seenWord (text : String) : Lexeme :=
  match Keyword.reserved.find? fun word => word.spelling == text with
  | some word => .keyword word
  | none => .name text

/-- A lexeme as the scanner of expressions takes it. -/
def seen : Lexeme → Lexeme
  | .keyword word => seenWord word.spelling
  | .name text => seenWord text
  | lexeme => lexeme

def glyphs : Lexeme → List Glyph
  | .bar => [.bar]
  | lexeme => lexeme.seen.tokens.map .token

/-- Lexemes that such a text can have. A name may be any word. -/
def Telling : Lexeme → Prop
  | .name text => IsWord text.toList
  | .spatial _ | .number _ | .gap _ => False
  | .space | .opening | .closing | .comma | .dot | .bar | .keyword _ | .sign _ | .integer _
  | .quoted _ => True

theorem seenWord_cases (text : String) :
    (∃ word ∈ Keyword.reserved, word.spelling = text ∧ seenWord text = .keyword word) ∨
      (∀ word ∈ Keyword.reserved, word.spelling ≠ text) ∧ seenWord text = .name text := by
  cases found : Keyword.reserved.find? fun word => word.spelling == text with
  | some word =>
    have same : word.spelling = text := by
      simpa using List.find?_some (p := fun word : Keyword => word.spelling == text) found
    exact .inl ⟨word, List.mem_of_find?_eq_some found, same, by rw [seenWord, found]⟩
  | none =>
    refine .inr ⟨fun word member => ?_, by rw [seenWord, found]⟩
    simpa using List.find?_eq_none.mp found word member

private theorem spelling_seenWord (dialect : Dialect) (text : String) :
    (seenWord text).spelling dialect = text := by
  rcases seenWord_cases text with ⟨word, -, same, shape⟩ | ⟨-, shape⟩
  · rw [shape, spelling, same]
  · rw [shape, spelling]

/-- Whatever a lexeme is taken for, it is spelled the same. -/
theorem spelling_seen (dialect : Dialect) (lexeme : Lexeme) :
    lexeme.seen.spelling dialect = lexeme.spelling dialect := by
  cases lexeme with
  | keyword word => exact spelling_seenWord dialect word.spelling
  | name text => exact spelling_seenWord dialect text
  | space | opening | closing | comma | dot | bar | sign | spatial | integer | number | quoted | gap => rfl

private theorem scannable_seenWord {text : String} (word : IsWord text.toList) :
    (seenWord text).Scannable := by
  rcases seenWord_cases text with ⟨known, reserved, -, shape⟩ | ⟨free, shape⟩
  · rw [shape]
    exact reserved
  · rw [shape]
    exact identifier_of_word word free

/-- The scanner knows all lexemes of such a text but the bars. -/
theorem scannable_seen {lexeme : Lexeme} (telling : lexeme.Telling) (other : lexeme ≠ .bar) :
    lexeme.seen.Scannable := by
  cases lexeme with
  | keyword word => exact scannable_seenWord word.isWord_spelling
  | name text => exact scannable_seenWord telling
  | bar => exact absurd rfl other
  | space | opening | closing | comma | dot | sign | integer | quoted => trivial
  | spatial | number | gap => exact telling.elim

private theorem chars_seen (dialect : Dialect) (row : List Lexeme) :
    chars dialect (row.map seen) = chars dialect row := by
  simp only [chars, List.flatMap_map, spelling_seen]

private theorem startsWith_seen (dialect : Dialect) (char : Char) (row : List Lexeme) :
    startsWith dialect char (row.map seen) = startsWith dialect char row := by
  rw [startsWith_eq, startsWith_eq, chars_seen]

private theorem breaks_seen {row : List Lexeme} (ends : Breaks row) : Breaks (row.map seen) := by
  cases row with
  | nil => exact breaks_nil
  | cons lexeme rest =>
    have stops : lexeme.breaks = true := ends lexeme rfl
    cases lexeme with
    | space | opening | closing | comma | dot => exact breaks_cons rfl _
    | keyword | sign | spatial | name | integer | number | quoted | gap | bar => simp [breaks] at stops

private theorem spaced_seen {row : List Lexeme} (spaced : Spaced dialect row) :
    Spaced dialect (row.map seen) := by
  induction row with
  | nil => trivial
  | cons lexeme rest ih =>
    refine ⟨?_, ih spaced.2⟩
    have ends := spaced.1
    cases lexeme with
    | space | opening | closing | comma | dot => trivial
    | sign symbol =>
      cases symbol with
      | minus =>
        have apart : startsWith dialect '-' rest = false := ends
        rwa [← startsWith_seen] at apart
      | plus | times | divide | modulo | equal | notEqual | less | lessEqual | greater | greaterEqual
      | concat => exact breaks_seen ends
    | keyword | name => exact endsBefore_of_breaks (breaks_seen ends) _
    | bar | spatial | integer | number | quoted | gap => exact breaks_seen ends

/-- The text of a spaced row without bars is scanned into the tokens of what its lexemes are taken for. -/
theorem scan_telling {row : List Lexeme} (spaced : Spaced dialect row)
    (telling : ∀ lexeme ∈ row, lexeme.Telling ∧ lexeme ≠ .bar) :
    Pending.scan .nothing (chars dialect row) = some ((row.map seen).flatMap tokens) := by
  have known : ∀ lexeme ∈ row.map seen, lexeme.Scannable := by
    intro lexeme member
    obtain ⟨source, present, rfl⟩ := List.mem_map.mp member
    exact scannable_seen (telling source present).1 (telling source present).2
  have scanned := ofText?_text (legible_of_spaced (spaced_seen spaced) known)
  rwa [Token.ofText?, toList_text, chars_seen] at scanned

private theorem mapM_scanned {scan : α → Option β} {spelled : γ → α} {known : γ → β} {parts : List γ}
    (each : ∀ part ∈ parts, scan (spelled part) = some (known part)) :
    (parts.map spelled).mapM scan = some (parts.map known) := by
  induction parts with
  | nil => rfl
  | cons head rest ih =>
    have inRest := ih fun part member => each part (List.mem_cons_of_mem _ member)
    simp [each head List.mem_cons_self, inRest]

/-! Rows cut at their bars. -/

/-- The lexemes in front of the first bar, and those between bars behind it. -/
def segments : List Lexeme → List Lexeme × List (List Lexeme)
  | [] => ([], [])
  | .bar :: rest => ([], (segments rest).1 :: (segments rest).2)
  | lexeme :: rest => (lexeme :: (segments rest).1, (segments rest).2)

theorem segments_cons {lexeme : Lexeme} (other : lexeme ≠ .bar) (rest : List Lexeme) :
    segments (lexeme :: rest) = (lexeme :: (segments rest).1, (segments rest).2) := by
  rw [segments]
  exact other

private theorem segments_front (row : List Lexeme) : ∃ back, row = (segments row).1 ++ back := by
  induction row with
  | nil => exact ⟨[], rfl⟩
  | cons lexeme rest ih =>
    by_cases bar : lexeme = .bar
    · subst bar
      exact ⟨_, rfl⟩
    · obtain ⟨back, same⟩ := ih
      refine ⟨back, ?_⟩
      rw [segments_cons bar, List.cons_append, ← same]

/-- Segments of a spaced row are spaced, and have its lexemes but the bars. -/
theorem segments_sound {row : List Lexeme} (spaced : Spaced dialect row) :
    (∀ segment ∈ (segments row).1 :: (segments row).2, Spaced dialect segment) ∧
      ∀ segment ∈ (segments row).1 :: (segments row).2, ∀ lexeme ∈ segment,
        lexeme ∈ row ∧ lexeme ≠ .bar := by
  induction row with
  | nil => simp [segments, Spaced]
  | cons lexeme rest ih =>
    obtain ⟨each, members⟩ := ih spaced.2
    have later (segment : List Lexeme) (present : segment ∈ (segments rest).1 :: (segments rest).2)
        (other : Lexeme) (member : other ∈ segment) : other ∈ lexeme :: rest ∧ other ≠ .bar :=
      ⟨List.mem_cons_of_mem _ (members segment present other member).1,
        (members segment present other member).2⟩
    by_cases bar : lexeme = .bar
    · subst bar
      rw [segments]
      refine ⟨List.forall_mem_cons.mpr ⟨trivial, each⟩, List.forall_mem_cons.mpr ⟨?_, later⟩⟩
      exact fun _ absent => absurd absent List.not_mem_nil
    · rw [segments_cons bar]
      obtain ⟨back, same⟩ := segments_front rest
      have whole : lexeme.EndsBefore dialect ((segments rest).1 ++ back) := by
        rw [← same]
        exact spaced.1
      have ends : lexeme.EndsBefore dialect (segments rest).1 := whole.front
      constructor
      · refine List.forall_mem_cons.mpr ⟨⟨ends, each _ List.mem_cons_self⟩, ?_⟩
        exact fun segment present => each segment (List.mem_cons_of_mem _ present)
      · refine List.forall_mem_cons.mpr ⟨List.forall_mem_cons.mpr ⟨⟨List.mem_cons_self, bar⟩, ?_⟩, ?_⟩
        · exact later _ List.mem_cons_self
        · exact fun segment present => later segment (List.mem_cons_of_mem _ present)

/-- The glyphs of a row are the tokens of its segments with bars between them. -/
theorem glyphs_segments (row : List Lexeme) :
    row.flatMap glyphs = Glyph.join (((segments row).1.map seen).flatMap tokens)
      ((segments row).2.map fun segment => (segment.map seen).flatMap tokens) := by
  induction row with
  | nil => rfl
  | cons lexeme rest ih =>
    by_cases bar : lexeme = .bar
    · subst bar
      rw [List.flatMap_cons, ih, segments]
      simp [Glyph.join, glyphs]
    · have plain : lexeme.glyphs = lexeme.seen.tokens.map .token := by
        rw [glyphs]
        exact bar
      rw [List.flatMap_cons, ih, segments_cons bar, plain]
      simp [Glyph.join]

private theorem wordChar_of_mem {letters : List Char} (word : IsWord letters)
    (member : char ∈ letters) :
    isWordChar char = true := by
  obtain @⟨first, more, alpha, inWord⟩ := word
  rcases List.mem_cons.mp member with rfl | later
  · simp [isWordChar, Char.isAlphanum, alpha]
  · exact inWord char later

private theorem mark_of_telling {mark : Char} (special : mark ∈ marks) {lexeme : Lexeme}
    (telling : lexeme.Telling) (member : mark ∈ (lexeme.spelling dialect).toList) :
    (∃ content, lexeme = .quoted content) ∨ (∃ symbol, lexeme = .sign symbol) ∨ lexeme = .bar := by
  have foreign : ∀ mark ∈ marks, isWordChar mark = false := by
    simp [marks, isWordChar, Char.isAlphanum]
  rcases mark_of_mem special member with
    ⟨text, rfl, inText⟩ | ⟨_, rfl, -⟩ | quoted | sign | ⟨_, rfl⟩ | ⟨bar, -⟩
  · have inWord := wordChar_of_mem telling inText
    simp [foreign mark special] at inWord
  · exact telling.elim
  · exact .inl quoted
  · exact .inr (.inl sign)
  · exact telling.elim
  · exact .inr (.inr bar)

/-- A lexeme that is no bar is not cut. -/
theorem cut_lexeme {lexeme : Lexeme} (telling : lexeme.Telling) (other : lexeme ≠ .bar)
    (rest : List Char) : Glyph.cut false ((lexeme.spelling dialect).toList ++ rest) =
      Glyph.lead (lexeme.spelling dialect).toList (Glyph.cut false rest) := by
  cases lexeme with
  | quoted content =>
    have spelled : (spelling dialect (.quoted content)).toList =
        '\'' :: (escapeQuotes content.toList ++ ['\'']) := by
      simp [spelling, quote]
    rw [spelled, List.cons_append, List.append_assoc, Glyph.cut]
    exact (congrArg _ (Glyph.cut_escaped _ rest)).trans (Glyph.lead_lead ..)
  | sign symbol =>
    cases symbol with
    | concat =>
      have spelled : (Sign.concat.spelling dialect.notEqual).toList = ['|', '|'] := by
        simp [Sign.spelling]
      rw [spelling, spelled]
      rfl
    | notEqual =>
      rw [spelling, Sign.spelling]
      cases dialect.notEqual <;> exact Glyph.cut_free (by decide) (by decide) rest
    | plus | minus | times | divide | modulo | equal | less | lessEqual | greater | greaterEqual =>
      refine Glyph.cut_free ?_ ?_ rest <;> simp [spelling, Sign.spelling]
  | bar => exact absurd rfl other
  | space | opening | closing | comma | dot | keyword | name | integer | spatial | number | gap =>
    refine Glyph.cut_free (fun quote => ?_) (fun bar => ?_) rest
    · simpa using mark_of_telling (by decide) telling quote
    · simpa using mark_of_telling (by decide) telling bar

/-- The text of a row is cut into those of its segments. -/
theorem cut_chars {row : List Lexeme} (spaced : Spaced dialect row)
    (telling : ∀ lexeme ∈ row, lexeme.Telling) :
    Glyph.cut false (chars dialect row) =
      (chars dialect (segments row).1, (segments row).2.map (chars dialect)) := by
  induction row with
  | nil => rfl
  | cons lexeme rest ih =>
    have inRest := ih spaced.2 fun other member => telling other (List.mem_cons_of_mem _ member)
    by_cases bar : lexeme = .bar
    · subst bar
      have ends : Breaks rest := spaced.1
      have apart : '|' ∉ (chars dialect rest).head? := by
        intro first
        exact absurd (ends.head first) (by decide)
      have spelled : (spelling dialect .bar).toList = ['|'] := by simp [spelling]
      rw [chars_cons, spelled, List.singleton_append, Glyph.cut_bar apart, inRest]
      rfl
    · rw [chars_cons, cut_lexeme (telling lexeme List.mem_cons_self) bar, inRest, segments_cons bar]
      rfl

end Lexeme

/-- The text of a spaced row is read as its glyphs, in their order. -/
theorem Glyph.ofText?_text {row : List Lexeme} (spaced : Lexeme.Spaced dialect row)
    (telling : ∀ lexeme ∈ row, lexeme.Telling) :
    ofText? (Lexeme.text dialect row) = some (row.flatMap Lexeme.glyphs) := by
  obtain ⟨each, members⟩ := Lexeme.segments_sound spaced
  have scanned : ∀ segment ∈ (Lexeme.segments row).1 :: (Lexeme.segments row).2,
      Pending.scan .nothing (Lexeme.chars dialect segment) =
        some ((segment.map Lexeme.seen).flatMap Lexeme.tokens) := fun segment present =>
    Lexeme.scan_telling (each segment present) fun lexeme member =>
      have ⟨inRow, other⟩ := members segment present lexeme member
      ⟨telling lexeme inRow, other⟩
  obtain ⟨first, others⟩ := List.forall_mem_cons.mp scanned
  have parts : ((Lexeme.segments row).2.map (Lexeme.chars dialect)).mapM (Pending.scan .nothing) =
      some ((Lexeme.segments row).2.map fun segment => (segment.map Lexeme.seen).flatMap Lexeme.tokens) :=
    Lexeme.mapM_scanned others
  rw [ofText?, Lexeme.toList_text, Lexeme.cut_chars spaced telling, Lexeme.glyphs_segments]
  simp [first, parts]

end ConstraintTree
