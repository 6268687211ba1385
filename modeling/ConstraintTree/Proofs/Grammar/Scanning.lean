import ConstraintTree.Proofs.Grammar.Token
import ConstraintTree.Proofs.Layout.Spacing

namespace ConstraintTree

namespace Pending

/-- The next character, if there is one, does not go on with the pending token. -/
def Settled (pending : Pending) (rest : List Char) : Prop :=
  ∀ char ∈ rest.head?, pending.step char = pending.turn char

private theorem scan_settled {pending : Pending} {rest : List Char} (settled : pending.Settled rest)
    (whole : pending.close = some ended) (scanned : scan .nothing rest = some tokens) :
    scan pending rest = some (ended ++ tokens) := by
  cases rest with
  | nil =>
    have none : tokens = [] := by simpa [scan, close] using scanned.symm
    simp [scan, whole, none]
  | cons char rest =>
    have turned : pending.step char = pending.turn char := settled char rfl
    have fresh : step .nothing char = start char := rfl
    cases begun : start char with
    | none => simp [scan, fresh, begun] at scanned
    | some next =>
      obtain ⟨first, state⟩ := next
      cases after : scan state rest with
      | none => simp [scan, fresh, begun, after] at scanned
      | some more =>
        have same : first ++ more = tokens := by
          simpa [scan, fresh, begun, after] using scanned
        simp [scan, turned, turn, whole, begun, after, ← same]

private theorem scan_word (letters : List Char) {more : List Char}
    (inWord : ∀ char ∈ more, isWordChar char)
    (rest : List Char) : scan (.word letters) (more ++ rest) = scan (.word (letters ++ more)) rest := by
  induction more generalizing letters with
  | nil => simp
  | cons char more ih =>
    have head : isWordChar char = true := inWord char List.mem_cons_self
    have tail := ih (letters ++ [char]) fun other member => inWord other (List.mem_cons_of_mem _ member)
    simpa [scan, step, head] using tail

private theorem scan_numeral (value : Nat) {digits : List Char} (each : ∀ char ∈ digits, char.isDigit)
    (rest : List Char) :
    scan (.numeral value) (digits ++ rest) = scan (.numeral (Nat.ofDigitChars 10 digits value)) rest := by
  induction digits generalizing value with
  | nil => simp
  | cons digit digits ih =>
    have head : digit.isDigit = true := each digit List.mem_cons_self
    have tail := ih (shift value digit) fun other member => each other (List.mem_cons_of_mem _ member)
    rw [Nat.ofDigitChars_cons]
    simpa [scan, step, head, shift, Nat.ofDigitChars_cons] using tail

/-- Both quotes of a doubled one are taken together, so the content comes out as it was. -/
theorem scan_quoted (content more rest : List Char) :
    scan (.quoted content) (Lexeme.escapeQuotes more ++ rest) = scan (.quoted (content ++ more)) rest := by
  induction more generalizing content with
  | nil => simp [Lexeme.escapeQuotes]
  | cons char more ih =>
    by_cases quote : char = '\''
    · subst quote
      simpa [Lexeme.escapeQuotes, scan, step] using ih (content ++ ['\''])
    · simpa [Lexeme.escapeQuotes, scan, step, quote] using ih (content ++ [char])

end Pending

namespace Lexeme

def tokens : Lexeme → List Token
  | .opening => [.opening]
  | .closing => [.closing]
  | .comma => [.comma]
  | .dot => [.dot]
  | .keyword word => [.keyword word]
  | .sign symbol => [.sign symbol]
  | .name text => [.name text]
  | .integer value =>
    if value.toInt < 0 then [.sign .minus, .numeral value.toInt.natAbs]
    else [.numeral value.toInt.natAbs]
  | .quoted content => [.quoted content]
  | .space | .bar | .spatial _ | .number _ | .gap _ => []

/-- A lexeme that the scanner can tell from what follows it. -/
def Parted (dialect : Dialect) (rest : List Lexeme) : Lexeme → Prop
  | .space | .opening | .closing | .comma | .dot => True
  | .keyword word => word ∈ Keyword.reserved ∧ Breaks rest
  | .name text => isIdentifier text ∧ Breaks rest
  | .integer _ | .quoted _ => Breaks rest
  | .sign .minus => startsWith dialect '-' rest = false
  | .sign _ => Breaks rest
  | .bar | .spatial _ | .number _ | .gap _ => False

/-- Every lexeme of the row is parted from the rest. -/
def Legible (dialect : Dialect) : List Lexeme → Prop
  | [] => True
  | lexeme :: rest => lexeme.Parted dialect rest ∧ Legible dialect rest

/-- A token that none of these characters goes on with is whole in front of such a row. -/
theorem Breaks.scan {row : List Lexeme} (ends : Breaks row) (pending : Pending)
    (other : ∀ char ∈ [' ', '(', ')', ',', '.'], pending.step char = pending.turn char)
    (whole : pending.close = some ended)
    (scanned : Pending.scan .nothing (chars dialect row) = some after) :
    pending.scan (chars dialect row) = some (ended ++ after) :=
  Pending.scan_settled (fun char first => other char (ends.head first)) whole scanned

private theorem settled_minus {row : List Lexeme} (apart : startsWith dialect '-' row = false) :
    (Pending.sign '-').Settled (chars dialect row) := by
  intro char first
  have different : char ≠ '-' := by
    rintro rfl
    rw [startsWith_eq] at apart
    exact beq_eq_false_iff_ne.mp apart first
  simp [Pending.step, different, Token.longSign?]

end Lexeme

/-- A letter and then any word characters. -/
inductive IsWord : List Char → Prop where
  | letters {first : Char} {more : List Char} (alpha : first.isAlpha = true)
      (inWord : ∀ char ∈ more, isWordChar char = true) : IsWord (first :: more)

/-- An identifier is a word, and as such a name. -/
theorem identifier_word {text : String} (identifier : isIdentifier text = true) :
    IsWord text.toList ∧ Token.ofWord text.toList = .name text := by
  obtain ⟨shape, free⟩ := Bool.and_eq_true_iff.mp identifier
  have absent : Keyword.reserved.find? (fun word => word.spelling.toList == text.toList) = none := by
    apply List.find?_eq_none.mpr
    intro word member
    have different := List.all_eq_true.mp free word member
    simpa [String.toList_inj] using different
  constructor
  · cases letters : text.toList with
    | nil => simp [letters] at shape
    | cons first more =>
      have parts : first.isAlpha = true ∧ ∀ char ∈ more, isWordChar char = true := by
        simpa [letters] using shape
      exact .letters parts.1 parts.2
  · rw [Token.ofWord, absent, String.ofList_toList]

theorem identifier_of_word {text : String} (word : IsWord text.toList)
    (free : ∀ reserved ∈ Keyword.reserved, reserved.spelling ≠ text) : isIdentifier text = true := by
  have unreserved : Keyword.reserved.all (fun reserved => reserved.spelling != text) = true := by
    simpa [List.all_eq_true] using free
  rw [isIdentifier, unreserved, Bool.and_true]
  cases letters : text.toList with
  | nil =>
    rw [letters] at word
    cases word
  | cons first more =>
    rw [letters] at word
    obtain ⟨alpha, inWord⟩ := word
    simp [alpha, List.all_eq_true.mpr inWord]

theorem Keyword.isWord_spelling (word : Keyword) : IsWord word.spelling.toList := by
  cases word <;> exact .letters rfl (List.all_eq_true.mp rfl)

/-- A reserved word is a word, and as such a keyword. -/
theorem keyword_word {word : Keyword} (reserved : word ∈ Keyword.reserved) :
    IsWord word.spelling.toList ∧ Token.ofWord word.spelling.toList = .keyword word := by
  refine ⟨word.isWord_spelling, ?_⟩
  cases word with
  | forAll | thereIs => simp [Keyword.reserved] at reserved
  | null | true | false | and | or | not | like | is | between | «in» => decide

private theorem solid_of_wordChar {char : Char} (inWord : isWordChar char = true) :
    char.isWhitespace = false := by
  cases blank : char.isWhitespace with
  | false => rfl
  | true =>
    simp only [Char.isWhitespace, Bool.or_eq_true, decide_eq_true_eq] at blank
    rcases blank with ((rfl | rfl) | rfl) | rfl <;> simp [isWordChar] at inWord

namespace Pending

private theorem scan_letters {letters : List Char} (word : IsWord letters) (rest : List Char) :
    scan .nothing (letters ++ rest) = scan (.word letters) rest := by
  obtain @⟨first, more, alpha, inWord⟩ := word
  have solid : first.isWhitespace = false :=
    solid_of_wordChar (by simp [isWordChar, Char.isAlphanum, alpha])
  have inside := scan_word [first] inWord rest
  simpa [scan, step, start, solid, alpha] using inside

private theorem start_digit {char : Char} (digit : char.isDigit = true) :
    start char = some ([], .numeral (shift 0 char)) := by
  have solid : char.isWhitespace = false :=
    solid_of_wordChar (by simp [isWordChar, Char.isAlphanum, digit])
  have letterless : char.isAlpha = false := by
    have value : char.val.toNat = char.toNat := rfl
    have bounds : 48 ≤ char.toNat ∧ char.toNat ≤ 57 := Char.isDigit_iff_toNat.mp digit
    have upper : 'A'.val.toNat = 65 := rfl
    have lower : 'a'.val.toNat = 97 := rfl
    change (decide (char.val ≥ 'A'.val ∧ char.val ≤ 'Z'.val) ||
      (decide (char.val ≥ 'a'.val) && decide (char.val ≤ 'z'.val))) = false
    simp only [Bool.or_eq_false_iff, Bool.and_eq_false_iff, decide_eq_false_iff_not,
      UInt32.le_iff_toNat_le, ge_iff_le]
    omega
  simp [start, solid, letterless, digit]

/-- The digits of a number are scanned as one numeral of its value. -/
theorem scan_toDigits (value : Nat) (rest : List Char) :
    scan .nothing (Nat.toDigits 10 value ++ rest) = scan (.numeral value) rest := by
  have each (char : Char) (member : char ∈ Nat.toDigits 10 value) : char.isDigit = true :=
    Nat.isDigit_of_mem_toDigits (by decide) (by decide) member
  have whole : Nat.ofDigitChars 10 (Nat.toDigits 10 value) 0 = value :=
    Nat.ofDigitChars_toDigits (by decide) (by decide)
  cases digits : Nat.toDigits 10 value with
  | nil => exact absurd digits Nat.toDigits_ne_nil
  | cons first more =>
    rw [digits] at each whole
    have begun := start_digit (each first List.mem_cons_self)
    have inside := scan_numeral (shift 0 first)
      (fun char member => each char (List.mem_cons_of_mem _ member)) rest
    rw [shift, ← Nat.ofDigitChars_append, List.singleton_append, whole] at inside
    simpa [scan, step, begun, shift] using inside

end Pending

namespace Lexeme

private theorem scan_integer {rest : List Lexeme} (value : Int64) (ends : Breaks rest)
    (scanned : Pending.scan .nothing (chars dialect rest) = some after) :
    Pending.scan .nothing ((spelling dialect (.integer value)).toList ++ chars dialect rest) =
      some ((integer value).tokens ++ after) := by
  have magnitude : Pending.scan .nothing (Nat.toDigits 10 value.toInt.natAbs ++ chars dialect rest) =
      some (.numeral value.toInt.natAbs :: after) := by
    rw [Pending.scan_toDigits]
    exact ends.scan (.numeral value.toInt.natAbs) (by simp [Pending.step]) rfl scanned
  rw [toList_spelling_integer]
  by_cases negative : value.toInt < 0
  · have digits : (Pending.sign '-').Settled
        (Nat.toDigits 10 value.toInt.natAbs ++ chars dialect rest) := by
      intro char first
      have digit : char.isDigit = true := by
        cases shape : Nat.toDigits 10 value.toInt.natAbs with
        | nil => exact absurd shape Nat.toDigits_ne_nil
        | cons head more =>
          have same : head = char := by simpa [shape] using first
          have member : head ∈ Nat.toDigits 10 value.toInt.natAbs := by simp [shape]
          exact same ▸ Nat.isDigit_of_mem_toDigits (by decide) (by decide) member
      have different : char ≠ '-' := by
        rintro rfl
        simp at digit
      simp [Pending.step, different, Token.longSign?]
    have whole := Pending.scan_settled digits rfl magnitude
    simpa [negative, tokens, Pending.scan, Pending.step, Pending.start, Token.opensSign] using whole
  · simpa [negative, tokens] using magnitude

private theorem scan_sign {rest : List Lexeme} (symbol : Sign)
    (parted : (sign symbol).Parted dialect rest)
    (scanned : Pending.scan .nothing (chars dialect rest) = some after) :
    Pending.scan .nothing ((symbol.spelling dialect.notEqual).toList ++ chars dialect rest) =
      some (.sign symbol :: after) := by
  cases symbol with
  | plus | times | divide | modulo | equal =>
    simp [Sign.spelling, Pending.scan, Pending.step, Pending.start, Token.opensSign,
      Token.ofChar?, scanned]
  | minus =>
    have whole := Pending.scan_settled (settled_minus parted) rfl scanned
    simpa [Sign.spelling, Pending.scan, Pending.step, Pending.start, Token.opensSign] using whole
  | less =>
    have ends : Breaks rest := parted
    have whole := ends.scan (.sign '<') (by simp [Pending.step, Token.longSign?]) rfl scanned
    simpa [Sign.spelling, Pending.scan, Pending.step, Pending.start, Token.opensSign] using whole
  | greater =>
    have ends : Breaks rest := parted
    have whole := ends.scan (.sign '>') (by simp [Pending.step, Token.longSign?]) rfl scanned
    simpa [Sign.spelling, Pending.scan, Pending.step, Pending.start, Token.opensSign] using whole
  | lessEqual | greaterEqual | concat =>
    simp [Sign.spelling, Pending.scan, Pending.step, Pending.start, Token.opensSign,
      Token.longSign?, scanned]
  | notEqual =>
    cases style : dialect.notEqual with
    | standard | bang =>
      simp [Sign.spelling, NotEqualStyle.spelling, Pending.scan, Pending.step,
        Pending.start, Token.opensSign, Token.longSign?, scanned]

theorem scan_whole_word {rest : List Lexeme} (word : IsWord letters) (ends : Breaks rest)
    (scanned : Pending.scan .nothing (chars dialect rest) = some after) :
    Pending.scan .nothing (letters ++ chars dialect rest) =
      some (Token.ofWord letters :: after) := by
  rw [Pending.scan_letters word]
  exact ends.scan (.word letters) (by simp [Pending.step, isWordChar]) rfl scanned

/-- A lexeme that is parted from the rest is scanned apart from it. -/
theorem scan_cons {lexeme : Lexeme} {rest : List Lexeme} (parted : lexeme.Parted dialect rest)
    (scanned : Pending.scan .nothing (chars dialect rest) = some after) :
    Pending.scan .nothing (chars dialect (lexeme :: rest)) = some (lexeme.tokens ++ after) := by
  have split : chars dialect (lexeme :: rest) =
      (lexeme.spelling dialect).toList ++ chars dialect rest := List.flatMap_cons
  rw [split]
  cases lexeme with
  | space | opening | closing | comma | dot =>
    simp [spelling, Pending.scan, Pending.step, Pending.start, Token.opensSign, Token.ofChar?,
      scanned, tokens]
  | keyword word =>
    obtain ⟨reserved, ends⟩ := parted
    obtain ⟨isWord, known⟩ := keyword_word reserved
    have whole := scan_whole_word isWord ends scanned
    rwa [known] at whole
  | sign symbol => exact scan_sign symbol parted scanned
  | name text =>
    obtain ⟨identifier, ends⟩ := parted
    obtain ⟨isWord, known⟩ := identifier_word identifier
    have whole := scan_whole_word isWord ends scanned
    rwa [known] at whole
  | integer value => exact scan_integer value parted scanned
  | quoted content =>
    have ends : Breaks rest := parted
    have whole := ends.scan (.quote content.toList) (by simp [Pending.step]) rfl scanned
    have inside := Pending.scan_quoted [] content.toList ('\'' :: chars dialect rest)
    have last : Pending.scan (.quoted content.toList) ('\'' :: chars dialect rest) =
        Pending.scan (.quote content.toList) (chars dialect rest) := by
      simp [Pending.scan, Pending.step]
    rw [List.nil_append, last, whole] at inside
    simpa [spelling, quote, Pending.scan, Pending.step, Pending.start, tokens] using inside
  | bar | spatial constructor | number value | gap missing => exact parted.elim

/-- The text of a legible row is scanned into the tokens of its lexemes, in their order. -/
theorem ofText?_text {row : List Lexeme} (legible : Legible dialect row) :
    Token.ofText? (text dialect row) = some (row.flatMap tokens) := by
  rw [Token.ofText?, toList_text]
  induction row with
  | nil => rfl
  | cons lexeme rest ih => exact scan_cons legible.1 (ih legible.2)

end Lexeme
end ConstraintTree
