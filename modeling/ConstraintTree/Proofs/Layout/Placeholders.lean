import ConstraintTree.Proofs.GapWalk
import ConstraintTree.Proofs.Layout.Marks

namespace ConstraintTree

/-- A text is cut into placeholders and single characters. -/
inductive Fragment where
  | prose (char : Char)
  | stretch (text : String)
  deriving DecidableEq, Repr

namespace Fragment

def stretch? : Fragment → Option String
  | .stretch text => some text
  | .prose _ => none

end Fragment

/-- Where the cutting stands: between stretches, behind an opening bracket whose meaning depends on the
next character, or in a stretch that has begun with the given characters. -/
inductive Cutting where
  | between
  | opened
  | inside (begun : List Char)
  deriving DecidableEq, Repr

namespace Cutting

/-- A stretch opens with a bracket and a letter and ends with the next closing bracket. -/
def fragments : Cutting → List Char → List Fragment
  | .between, [] => []
  | .between, '<' :: rest => fragments .opened rest
  | .between, char :: rest => .prose char :: fragments .between rest
  | .opened, [] => [.prose '<']
  | .opened, '<' :: rest => .prose '<' :: fragments .opened rest
  | .opened, char :: rest =>
    if char.isAlpha then fragments (.inside ['<', char]) rest
    else .prose '<' :: .prose char :: fragments .between rest
  | .inside begun, [] => begun.map .prose
  | .inside begun, '>' :: rest =>
    .stretch (String.ofList (begun ++ ['>'])) :: fragments .between rest
  | .inside begun, char :: rest => fragments (.inside (begun ++ [char])) rest

theorem between_free {front : List Char} (free : '<' ∉ front) (rest : List Char) :
    fragments .between (front ++ rest) = front.map .prose ++ fragments .between rest := by
  induction front with
  | nil => rfl
  | cons char front ih =>
    obtain ⟨different, free⟩ := List.ne_and_not_mem_of_not_mem_cons free
    rw [List.cons_append, fragments]
    · rw [ih free, List.map_cons, List.cons_append]
    · exact fun same => different same.symm

/-- A bracket in front of anything but a letter is a character like others. -/
theorem opened_plain {rest : List Char} (plain : ∀ char ∈ rest.head?, char.isAlpha = false) :
    fragments .opened rest = .prose '<' :: fragments .between rest := by
  cases rest with
  | nil => rfl
  | cons char rest =>
    by_cases same : char = '<'
    · subst same
      rfl
    · have noLetter : char.isAlpha = false := plain char rfl
      rw [fragments, fragments, if_neg (by simp [noLetter])]
      · exact same
      · exact same

private theorem inside_closed {inner : List Char} (free : '>' ∉ inner) (begun rest : List Char) :
    fragments (.inside begun) (inner ++ '>' :: rest) =
      .stretch (String.ofList (begun ++ inner ++ ['>'])) :: fragments .between rest := by
  induction inner generalizing begun with
  | nil => simp [fragments]
  | cons char inner ih =>
    obtain ⟨different, free⟩ := List.ne_and_not_mem_of_not_mem_cons free
    rw [List.cons_append, fragments]
    · rw [ih free]
      simp
    · exact fun same => different same.symm

end Cutting

namespace Gap

/-- Between a placeholder's letter and its closing bracket. -/
def wording (gap : Gap) : List Char := (gap.placeholder.toList.drop 2).dropLast

/-- A placeholder is one stretch and nothing else. -/
theorem placeholder_shape (gap : Gap) :
    ∃ letter, gap.placeholder.toList = '<' :: letter :: (gap.wording ++ ['>']) ∧
      letter ≠ '<' ∧ letter.isAlpha = true ∧ '>' ∉ gap.wording ∧ '<' ∉ gap.wording := by
  cases gap <;> exact ⟨_, rfl, by decide, by decide, by decide, by decide⟩

private theorem fragments_placeholder (gap : Gap) (rest : List Char) :
    Cutting.fragments .between (gap.placeholder.toList ++ rest) =
      .stretch gap.placeholder :: Cutting.fragments .between rest := by
  obtain ⟨letter, shape, other, isLetter, free, -⟩ := gap.placeholder_shape
  have whole : gap.placeholder = String.ofList (['<', letter] ++ gap.wording ++ ['>']) := by
    rw [← String.ofList_toList (s := gap.placeholder), shape]
    rfl
  rw [shape]
  simp only [List.cons_append, List.append_assoc, List.nil_append]
  rw [Cutting.fragments, Cutting.fragments, if_pos isLetter, Cutting.inside_closed free, ← whole]
  exact other

end Gap

namespace Lexeme

theorem gaps_cons {lexeme : Lexeme} (sound : lexeme.gap? = none) (rest : List Lexeme) :
    gaps (lexeme :: rest) = gaps rest := by
  rw [gaps, List.filterMap_cons_none sound, gaps]

private theorem gap_of_gap? {lexeme : Lexeme} (found : lexeme.gap? = some missing) :
    lexeme = .gap missing := by
  cases lexeme with
  | gap absent =>
    cases found
    rfl
  | space | opening | closing | comma | dot | bar | keyword | sign | spatial | name | integer | number
  | quoted => cases found

/-- What a reader of the text makes of a lexeme. -/
def fragments (dialect : Dialect) : Lexeme → List Fragment
  | .gap missing => [.stretch missing.placeholder]
  | lexeme => (lexeme.spelling dialect).toList.map .prose

theorem fragments_sound {lexeme : Lexeme} (sound : lexeme.gap? = none) (dialect : Dialect) :
    lexeme.fragments dialect = (lexeme.spelling dialect).toList.map .prose := by
  cases lexeme with
  | gap missing => cases sound
  | space | opening | closing | comma | dot | bar | keyword | sign | spatial | name | integer | number
  | quoted => rfl

/-- A sign in front of a row that ends it has no placeholder. -/
theorem fragments_sign {rest : List Lexeme} (dialect : Dialect) (symbol : Sign)
    (ends : symbol ≠ .minus → Breaks rest) :
    Cutting.fragments .between (chars dialect (.sign symbol :: rest)) =
      (Lexeme.sign symbol).fragments dialect ++ Cutting.fragments .between (chars dialect rest) := by
  rw [chars_cons, fragments_sound rfl, spelling]
  cases symbol with
  | less =>
    have plain : ∀ char ∈ (chars dialect rest).head?, char.isAlpha = false := by
      intro char first
      have letterless : ∀ char ∈ [' ', '(', ')', ',', '.'], char.isAlpha = false := by simp
      exact letterless char ((ends (by decide)).head first)
    have spelled : (Sign.less.spelling dialect.notEqual).toList = ['<'] := by simp [Sign.spelling]
    rw [spelled]
    exact Cutting.opened_plain plain
  | lessEqual =>
    have spelled : (Sign.lessEqual.spelling dialect.notEqual).toList = ['<', '='] := by
      simp [Sign.spelling]
    rw [spelled]
    rfl
  | notEqual =>
    cases style : dialect.notEqual with
    | standard =>
      have spelled : (Sign.notEqual.spelling .standard).toList = ['<', '>'] := by decide
      rw [spelled]
      rfl
    | bang => exact Cutting.between_free (by decide) _
  | plus | minus | times | divide | modulo | equal | greater | greaterEqual | concat =>
    refine Cutting.between_free ?_ _
    simp [Sign.spelling]

/-- A row whose brackets are those of signs and gaps is cut lexeme by lexeme. -/
theorem fragments_chars {row : List Lexeme} (spaced : Spaced dialect row)
    (own : ∀ lexeme ∈ row, '<' ∈ (lexeme.spelling dialect).toList →
      (∃ symbol, lexeme = .sign symbol) ∨ ∃ missing, lexeme = .gap missing) :
    Cutting.fragments .between (chars dialect row) = row.flatMap (fragments dialect) := by
  induction row with
  | nil => rfl
  | cons lexeme rest ih =>
    have inRest := ih spaced.2 fun other member => own other (List.mem_cons_of_mem _ member)
    rw [List.flatMap_cons, ← inRest]
    by_cases bracket : '<' ∈ (lexeme.spelling dialect).toList
    · rcases own lexeme List.mem_cons_self bracket with ⟨symbol, rfl⟩ | ⟨missing, rfl⟩
      · refine fragments_sign dialect symbol fun other => ?_
        have ends := spaced.1
        cases symbol with
        | minus => exact absurd rfl other
        | plus | times | divide | modulo | equal | notEqual | less | lessEqual | greater
        | greaterEqual | concat => exact ends
      · exact missing.fragments_placeholder _
    · have sound : lexeme.gap? = none := by
        cases found : lexeme.gap? with
        | none => rfl
        | some missing =>
          obtain rfl := gap_of_gap? found
          obtain ⟨letter, shape, -⟩ := missing.placeholder_shape
          simp [spelling, shape] at bracket
      rw [fragments_sound sound, chars_cons, Cutting.between_free bracket]

/-- Only gaps are read as stretches. -/
theorem stretches_fragments (dialect : Dialect) (row : List Lexeme) :
    (row.flatMap (fragments dialect)).filterMap Fragment.stretch? =
      (gaps row).map Gap.placeholder := by
  have prose (chars : List Char) : (chars.map Fragment.prose).filterMap Fragment.stretch? = [] := by
    simp [List.filterMap_map, Function.comp_def, Fragment.stretch?]
  induction row with
  | nil => rfl
  | cons lexeme rest ih =>
    rw [List.flatMap_cons, List.filterMap_append, ih]
    cases found : lexeme.gap? with
    | none => rw [fragments_sound found, prose, gaps_cons found, List.nil_append]
    | some missing =>
      obtain rfl := gap_of_gap? found
      rfl

end Lexeme

def fragments (text : String) : List Fragment := Cutting.fragments .between text.toList

def placeholders (text : String) : List String := (fragments text).filterMap Fragment.stretch?

/-- An opening bracket belongs to a sign or a gap, if neither the names nor the strings have one. -/
theorem Item.Avoids.bracket_of_mem {item : Item} (avoids : item.Avoids dialect '<')
    (clean : ∀ content ∈ item.contents, '<' ∉ content.toList) {lexeme : Lexeme}
    (present : lexeme ∈ item.lexemes dialect) (bracket : '<' ∈ (lexeme.spelling dialect).toList) :
    (∃ symbol, lexeme = .sign symbol) ∨ ∃ missing, lexeme = .gap missing := by
  rcases avoids.mark_of_mem (by decide) (by decide) present bracket with ⟨content, rfl⟩ | other
  · exact absurd (Lexeme.mem_quoted (by decide) bracket) (clean content (Item.mem_contents present))
  · exact other

/-- The text of a tree is cut lexeme by lexeme, if neither its names nor its strings have brackets. -/
theorem Item.fragments_render {dialect : Dialect} {item : Item} (avoids : item.Avoids dialect '<')
    (clean : ∀ content ∈ item.contents, '<' ∉ content.toList) :
    fragments (item.render dialect).text =
      (item.lexemes dialect).flatMap (Lexeme.fragments dialect) := by
  rw [item.text_render, fragments, Lexeme.toList_text]
  exact Lexeme.fragments_chars (item.spaced_lexemes dialect) fun _ => avoids.bracket_of_mem clean

theorem Rendering.eq_complete {text : String} {rendering : Rendering}
    (released : rendering.toComplete = .ok text) :
    rendering = .complete text := by
  cases rendering with
  | complete shown =>
    cases released
    rfl
  | incomplete shown missing => cases released

/-- The text of a tree shows each missing part where it is missing and shows no other: it is cut exactly
between its lexemes, the stretches cut out are the placeholders of the reported gaps in their order,
and a text that is released as complete has none. -/
theorem Item.placeholders_render {dialect : Dialect} {item : Item}
    (avoids : item.Avoids dialect '<') (clean : ∀ content ∈ item.contents, '<' ∉ content.toList) :
    placeholders (item.render dialect).text =
        (item.render dialect).missing.map Gap.placeholder ∧
      fragments (item.render dialect).text =
        (item.lexemes dialect).flatMap (Lexeme.fragments dialect) ∧
      ∀ text, (item.render dialect).toComplete = .ok text → placeholders text = [] := by
  have whole := fragments_render avoids clean
  have found : placeholders (item.render dialect).text =
      (item.render dialect).missing.map Gap.placeholder := by
    rw [placeholders, whole, Lexeme.stretches_fragments, item.gaps_lexemes, item.missing_render]
  refine ⟨found, whole, fun text released => ?_⟩
  rw [Rendering.eq_complete released] at found
  exact found

/-- Comparisons in front of gaps, in a condition on a variable that is missing itself. -/
def looseComparisons : Item :=
  .predicate (.quantification .universal none (some (.atom "p"
    [.binary .ne (.named "a") (.text "b>"),
      .binary .lt (.named "c")
        (.between (some (.named "d")) none (some (.number ⟨0x7ff0000000000000⟩)) false)])))

theorem Item.placeholders_render_comparisons :
    looseComparisons.Avoids {} '<' ∧ (∀ content ∈ looseComparisons.contents, '<' ∉ content.toList) ∧
      (looseComparisons.render {}).text = "FORALL (<variable is null> | p(a <> 'b>',c < " ++
        "(d BETWEEN <begin expression is null> AND <number is not finite>)))" ∧
      placeholders (looseComparisons.render {}).text =
        ["<variable is null>", "<begin expression is null>", "<number is not finite>"] := by
  have avoids : looseComparisons.Avoids {} '<' := ⟨by decide, by decide⟩
  have clean : ∀ content ∈ looseComparisons.contents, '<' ∉ content.toList := by decide
  refine ⟨avoids, clean, by decide, ?_⟩
  exact (Item.placeholders_render avoids clean).1

end ConstraintTree
