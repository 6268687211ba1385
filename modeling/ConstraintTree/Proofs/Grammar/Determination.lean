import ConstraintTree.Proofs.Grammar.PredicateReader

namespace ConstraintTree

/-- The words that name no function predicate and no variable. -/
def Keyword.ofPredicates : List Keyword := [.forAll, .thereIs, .not, .and, .or]

/-- A name of a function predicate or of a variable. Words of expressions are allowed. -/
structure IsSymbol (text : String) : Prop where
  word : IsWord text.toList
  free : ∀ word ∈ Keyword.ofPredicates, word.spelling ≠ text

namespace Predicate

/-- Predicates that the reader covers: all names are symbols, nothing is missing, and the arguments are
readable expressions. -/
inductive Readable : Predicate → Prop where
  | quantification (quantifier : Quantifier) (named : IsSymbol bound) (condition : Readable body) :
      Readable (.quantification quantifier (some bound) (some body))
  | atom (named : IsSymbol name) (each : ∀ arg ∈ args, ConstraintTree.Readable arg) :
      Readable (.atom name args)
  | negation (operand : Readable body) : Readable (.negation body)
  | junction (op : Junction) (nonempty : operands ≠ [])
      (each : ∀ operand ∈ operands, Readable operand) : Readable (.junction op operands)

end Predicate

namespace Lexeme

def rowGlyphs (row : List Lexeme) : List Glyph := row.flatMap glyphs

@[simp] theorem rowGlyphs_nil : rowGlyphs [] = [] := rfl

@[simp] theorem rowGlyphs_cons (lexeme : Lexeme) (rest : List Lexeme) :
    rowGlyphs (lexeme :: rest) = lexeme.glyphs ++ rowGlyphs rest := List.flatMap_cons

@[simp] theorem rowGlyphs_append (first second : List Lexeme) :
    rowGlyphs (first ++ second) = rowGlyphs first ++ rowGlyphs second := List.flatMap_append

theorem rowGlyphs_parenthesized (body : List Lexeme) :
    rowGlyphs (parenthesized body) =
      .token .opening :: (rowGlyphs body ++ [.token .closing]) := by
  simp [parenthesized, glyphs, seen, tokens]

private theorem telling_of_scannable {lexeme : Lexeme} (known : lexeme.Scannable) : lexeme.Telling := by
  cases lexeme with
  | name text => exact (identifier_word known).1
  | space | opening | closing | comma | dot | keyword | sign | integer | quoted => trivial
  | bar | spatial | number | gap => exact known.elim

/-- The scanner takes what it knows for what it is. -/
theorem seen_of_scannable {lexeme : Lexeme} (known : lexeme.Scannable) : lexeme.seen = lexeme := by
  cases lexeme with
  | keyword word =>
    have reserved : word ∈ Keyword.reserved := known
    cases word with
    | forAll | thereIs => simp [Keyword.reserved] at reserved
    | null | true | false | and | or | not | like | is | between | «in» => decide
  | name text =>
    have free : Keyword.reserved.all (fun word => word.spelling != text) = true :=
      (Bool.and_eq_true_iff.mp known).2
    rcases seenWord_cases text with ⟨word, reserved, same, -⟩ | ⟨-, shape⟩
    · simpa [same] using List.all_eq_true.mp free word reserved
    · exact shape
  | space | opening | closing | comma | dot | sign | integer | quoted => rfl
  | bar | spatial | number | gap => exact known.elim

/-- A row without bars and foreign words is read like an expression. -/
theorem rowGlyphs_known {row : List Lexeme} (known : Known row) :
    rowGlyphs row = (rowTokens row).map .token := by
  induction row with
  | nil => rfl
  | cons lexeme rest ih =>
    have first : lexeme.Scannable := known lexeme List.mem_cons_self
    have plain : lexeme.glyphs = lexeme.tokens.map .token := by
      rw [glyphs, seen_of_scannable first]
      rintro rfl
      exact first
    have inRest := ih fun other member => known other (List.mem_cons_of_mem _ member)
    rw [rowGlyphs_cons, plain, inRest, rowTokens_cons, List.map_append]

private theorem glyphs_seenWord (text : String) :
    ∃ glyph : Glyph, (seenWord text).tokens.map .token = [glyph] ∧ glyph.word? = some text := by
  rcases seenWord_cases text with ⟨word, -, same, shape⟩ | ⟨-, shape⟩
  · exact ⟨.token (.keyword word), by rw [shape]; rfl, by rw [Glyph.word?, same]⟩
  · exact ⟨.token (.name text), by rw [shape]; rfl, rfl⟩

/-- A name is read as one glyph, which has not lost its spelling. -/
theorem glyphs_name (text : String) :
    ∃ glyph, (Lexeme.name text).glyphs = [glyph] ∧ glyph.word? = some text := glyphs_seenWord text

private theorem glyphs_keyword (word : Keyword) :
    ∃ glyph, (Lexeme.keyword word).glyphs = [glyph] ∧ glyph.word? = some word.spelling :=
  glyphs_seenWord word.spelling

@[simp] theorem glyphs_space : Lexeme.space.glyphs = [] := rfl

@[simp] theorem glyphs_bar : Lexeme.bar.glyphs = [.bar] := rfl

theorem rowGlyphs_joined (op : Junction) (bodies : List (List Lexeme)) :
    rowGlyphs ([Lexeme.space, .keyword op.keyword, .space].intercalate bodies) =
      PredicateDescent.joined op (bodies.map rowGlyphs) := by
  have connective : rowGlyphs [.space, .keyword op.keyword, .space] =
      [.token (.keyword op.keyword)] := by
    cases op <;> decide
  rw [PredicateDescent.joined, ← connective]
  exact flatMap_intercalate _ _ bodies

end Lexeme

namespace Predicate

open Lexeme (rowGlyphs)
open PredicateDescent (Reads)

/-- A text of a readable predicate has lexemes that its scanner knows, and bars. -/
theorem telling_lexemes (dialect : Dialect) {predicate : Predicate} (readable : Readable predicate) :
    ∀ lexeme ∈ predicate.lexemes dialect, lexeme.Telling := by
  induction readable with
  | quantification quantifier named condition inCondition =>
    simpa [lexemes, variableLexemes, lexemesOrGap, Lexeme.parenthesized, or_imp, forall_and,
      Lexeme.Telling] using ⟨named.word, inCondition⟩
  | @atom name args named each =>
    have listed : ∀ lexeme ∈ [Lexeme.comma].intercalate (args.map (Expr.lexemes dialect)),
        lexeme.Telling := by
      intro lexeme member
      rcases Lexeme.mem_intercalate member with between | ⟨body, present, within⟩
      · rw [List.mem_singleton.mp between]
        trivial
      · obtain ⟨arg, inArgs, rfl⟩ := List.mem_map.mp present
        exact Lexeme.telling_of_scannable (Expr.known_lexemes dialect (each arg inArgs) lexeme within)
    simpa [lexemes, Lexeme.parenthesized, or_imp, forall_and, Lexeme.Telling] using ⟨named.word, listed⟩
  | negation operand inOperand =>
    simpa [lexemes, Lexeme.parenthesized, or_imp, forall_and, Lexeme.Telling] using inOperand
  | @junction operands op nonempty each inEach =>
    have listed : ∀ lexeme ∈ [Lexeme.space, .keyword op.keyword, .space].intercalate
        (operands.map (lexemes dialect)), lexeme.Telling := by
      intro lexeme member
      rcases Lexeme.mem_intercalate member with between | ⟨body, present, within⟩
      · simp only [List.mem_cons, List.not_mem_nil, or_false] at between
        rcases between with rfl | rfl | rfl <;> trivial
      · obtain ⟨operand, inOperands, rfl⟩ := List.mem_map.mp present
        exact inEach operand inOperands lexeme within
    simpa [lexemes, lexemesEach_eq_map, nonempty, Lexeme.parenthesized, or_imp, forall_and,
      Lexeme.Telling] using listed

private theorem announced_symbol {name : String} (symbol : IsSymbol name) :
    Heading.ofWord name = .named name := by
  have free (word : Keyword) (member : word ∈ Keyword.ofPredicates) : ¬name = word.spelling :=
    fun same => symbol.free word member same.symm
  rw [Heading.ofWord, if_neg (free .forAll (by decide)), if_neg (free .thereIs (by decide)),
    if_neg (free .not (by decide))]

/-- The glyphs of arguments are those of phrases with commas between them. -/
theorem rowGlyphs_arguments (dialect : Dialect) {args : List Expr}
    (each : ∀ arg ∈ args, ConstraintTree.Readable arg) :
    rowGlyphs ([Lexeme.comma].intercalate (args.map (Expr.lexemes dialect))) =
      (Token.listing ((Expr.phrases dialect args).map Prod.fst)).map .token := by
  have known : Lexeme.Known ([Lexeme.comma].intercalate (args.map (Expr.lexemes dialect))) :=
    .separated (by simp [Lexeme.Scannable])
      (List.forall_mem_map.mpr fun arg member => Expr.known_lexemes dialect (each arg member))
  rw [Lexeme.rowGlyphs_known known, Lexeme.rowTokens_separated rfl]
  simp [Expr.phrases, Function.comp_def]

/-- The layout of a readable predicate is read as its normal form. -/
theorem reads_lexemes (dialect : Dialect) {predicate : Predicate} (readable : Readable predicate) :
    Reads (rowGlyphs (predicate.lexemes dialect)) predicate.normal := by
  induction readable with
  | @quantification bound body quantifier named condition inCondition =>
    obtain ⟨head, readHead, word⟩ := Lexeme.glyphs_keyword quantifier.keyword
    obtain ⟨glyph, readBound, spelled⟩ := Lexeme.glyphs_name bound
    have announced : Heading.ofWord quantifier.keyword.spelling = .quantified quantifier := by
      cases quantifier <;> decide
    have shape : rowGlyphs ((quantification quantifier (some bound) (some body)).lexemes dialect) =
        head :: .token .opening :: glyph :: .bar ::
          (rowGlyphs (body.lexemes dialect) ++ [.token .closing]) := by
      simp [lexemes, variableLexemes, lexemesOrGap, Lexeme.rowGlyphs_parenthesized, readHead, readBound]
    rw [shape, normal, normalCondition]
    exact PredicateDescent.reads_quantification quantifier word announced spelled inCondition
  | @atom name args named each =>
    obtain ⟨head, readHead, word⟩ := Lexeme.glyphs_name name
    have phrases := Expr.derives_listed fun arg member => Expr.derives_lexemes dialect (each arg member)
    have shape : rowGlyphs ((atom name args).lexemes dialect) = head :: .token .opening ::
        ((Token.listing ((Expr.phrases dialect args).map Prod.fst)).map .token ++
          [.token .closing]) := by
      rw [lexemes, Lexeme.rowGlyphs_cons, Lexeme.rowGlyphs_parenthesized,
        rowGlyphs_arguments dialect each, readHead, List.singleton_append]
    have said : Term.exprs ((Expr.phrases dialect args).map Prod.snd) = args.map Expr.normal := by
      rw [← Expr.terms_listed, Expr.expr_terms fun arg member => Expr.expr_term (each arg member),
        Expr.normalEach_eq_map]
    rw [shape, normal, ← said]
    exact PredicateDescent.reads_atom word (announced_symbol named) phrases
  | @negation body operand inOperand =>
    obtain ⟨head, readHead, word⟩ := Lexeme.glyphs_keyword .not
    have shape : rowGlyphs ((negation body).lexemes dialect) =
        head :: .token .opening :: (rowGlyphs (body.lexemes dialect) ++ [.token .closing]) := by
      simp [lexemes, Lexeme.rowGlyphs_parenthesized, readHead]
    rw [shape, normal]
    exact PredicateDescent.reads_negation word (by decide) inOperand
  | @junction operands op nonempty each inEach =>
    let parts := operands.map fun operand => (rowGlyphs (operand.lexemes dialect), operand.normal)
    have occupied : parts ≠ [] := by simpa [parts] using nonempty
    have reads := PredicateDescent.reads_junction op occupied (List.forall_mem_map.mpr inEach)
    have shape : rowGlyphs ((junction op operands).lexemes dialect) = .token .opening ::
        (PredicateDescent.joined op (parts.map Prod.fst) ++ [.token .closing]) := by
      rw [lexemes, Lexeme.rowGlyphs_parenthesized, lexemesEach_eq_map]
      simp [nonempty, Lexeme.rowGlyphs_joined, parts, Function.comp_def]
    have said : (junction op operands).normal =
        junction (if parts.length = 1 then .and else op) (parts.map Prod.snd) := by
      simp [normal, normalEach_eq_map, parts, Function.comp_def]
    rw [shape, said]
    exact reads

theorem text_render (dialect : Dialect) (predicate : Predicate) :
    (predicate.render dialect).text = Lexeme.text dialect (predicate.lexemes dialect) := by
  rw [render_eq, Rendering.ofLexemes, Rendering.text_ofGaps]

/-- The normal form has the text of the predicate. -/
theorem text_normal (dialect : Dialect) (predicate : Predicate) :
    (predicate.normal.render dialect).text = (predicate.render dialect).text := by
  rw [text_render, text_render, ← String.toList_inj, Lexeme.toList_text, Lexeme.toList_text,
    chars_normal]

private theorem ofText?_render (dialect : Dialect) {predicate : Predicate}
    (readable : Readable predicate) :
    ofText? (predicate.render dialect).text = some predicate.normal := by
  have scanned : Glyph.ofText? (Lexeme.text dialect (predicate.lexemes dialect)) =
      some (rowGlyphs (predicate.lexemes dialect)) :=
    Glyph.ofText?_text ((Item.predicate predicate).spaced_lexemes dialect)
      (telling_lexemes dialect readable)
  have found := reads_lexemes dialect readable []
  rw [List.append_nil] at found
  simp [ofText?, text_render, scanned, found]

/-- The text of a readable predicate determines it. It is read as the normal form, and two readable
predicates have the same text exactly if they have the same normal form. -/
theorem render_determines (dialect : Dialect) {predicate : Predicate} (readable : Readable predicate) :
    ofText? (predicate.render dialect).text = some predicate.normal ∧
      ∀ other : Predicate, Readable other →
        ((other.render dialect).text = (predicate.render dialect).text ↔
          other.normal = predicate.normal) := by
  have reading := ofText?_render dialect readable
  refine ⟨reading, fun other readableOther => ⟨fun same => ?_, fun same => ?_⟩⟩
  · have readingOther := ofText?_render dialect readableOther
    rw [same, reading] at readingOther
    exact (Option.some.inj readingOther).symm
  · rw [← text_normal, same, text_normal]

/-- A connective over one operand, a variable with the name of a constant and bars in an argument. -/
def barredPredicate (op : Junction) (negative : Expr) : Predicate :=
  forAll "NULL" (.junction op [.negation (.atom "p"
    [.binary .concat (.named "a") (.text "' | "), negative])])

theorem readable_barredPredicate (op : Junction) {negative : Expr}
    (readable : ConstraintTree.Readable negative) : Readable (barredPredicate op negative) := by
  have bound : IsSymbol "NULL" := ⟨.letters rfl (List.all_eq_true.mp rfl), by decide⟩
  have name : IsSymbol "p" := ⟨.letters rfl (List.all_eq_true.mp rfl), by decide⟩
  have joined : ConstraintTree.Readable (.binary .concat (.named "a") (.text "' | ")) :=
    .binary .concat (.column (by decide)) (.text _)
  refine .quantification .universal bound (.junction op (by simp) ?_)
  refine List.forall_mem_singleton.mpr (.negation (.atom name ?_))
  exact List.forall_mem_cons.mpr ⟨joined, List.forall_mem_singleton.mpr readable⟩

/-- A disjunction of one predicate about a minus and a conjunction of it about a negative literal. -/
theorem render_determines_barred :
    Readable (barredPredicate .or (.unary .minus (.integer 5))) ∧
      ofText? ((barredPredicate .or (.unary .minus (.integer 5))).render {}).text =
        some (barredPredicate .and (.integer (-5))) ∧
      ((barredPredicate .and (.integer (-5))).render {}).text =
        ((barredPredicate .or (.unary .minus (.integer 5))).render {}).text ∧
      ((barredPredicate .and (.integer 5)).render {}).text ≠
        ((barredPredicate .or (.unary .minus (.integer 5))).render {}).text := by
  have readable := readable_barredPredicate .or (.unary .minus (.integer 5))
  obtain ⟨reading, determined⟩ := render_determines {} readable
  have alike := readable_barredPredicate .and (.integer (-5))
  have unlike := readable_barredPredicate .and (.integer 5)
  refine ⟨readable, reading, (determined _ alike).mpr rfl, fun same => ?_⟩
  have normal : barredPredicate .and (.integer 5) = barredPredicate .and (.integer (-5)) :=
    (determined _ unlike).mp same
  simp [barredPredicate, forAll, Expr.integer] at normal

end Predicate

end ConstraintTree
