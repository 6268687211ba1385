import ConstraintTree.Proofs.Grammar.Glyph
import ConstraintTree.Proofs.Grammar.Normal

namespace ConstraintTree

namespace Glyph

/-- The word that a glyph is, whatever the scanner took it for. -/
def word? : Glyph → Option String
  | .token (.name text) => some text
  | .token (.keyword word) => some word.spelling
  | _ => none

/-- The tokens in front of the first bar, and what is behind them. -/
def leading : List Glyph → List Token × List Glyph
  | .token value :: rest => (value :: (leading rest).1, (leading rest).2)
  | rest => ([], rest)

private theorem leading_append (tokens : List Token) (rest : List Glyph) :
    leading (tokens.map token ++ rest) = (tokens ++ (leading rest).1, (leading rest).2) := by
  induction tokens with
  | nil => rfl
  | cons head tail ih => rw [List.map_cons, List.cons_append, leading, ih, List.cons_append]

private theorem leading_whole (rest : List Glyph) :
    (leading rest).1.map token ++ (leading rest).2 = rest := by
  induction rest with
  | nil => rfl
  | cons glyph rest ih =>
    cases glyph with
    | bar => rfl
    | token value => rw [leading, List.map_cons, List.cons_append, ih]

end Glyph

/-- What a word in front of a parenthesis announces. -/
inductive Heading where
  | quantified (quantifier : Quantifier)
  | negated
  | named (name : String)
  deriving DecidableEq, Repr

def Heading.ofWord (text : String) : Heading :=
  if text = Keyword.forAll.spelling then .quantified .universal
  else if text = Keyword.thereIs.spelling then .quantified .existential
  else if text = Keyword.not.spelling then .negated
  else .named text

namespace PredicateDescent

/-- Terms with commas between them up to a closing parenthesis, or that parenthesis alone. -/
def terms (tokens : List Token) : Option (List Term × List Token) :=
  match tokens with
  | .closing :: rest => some ([], rest)
  | tokens => Descent.list tokens

def arguments (glyphs : List Glyph) : Option (List Expr × List Glyph) :=
  let (tokens, others) := Glyph.leading glyphs
  (terms tokens).map fun (args, rest) => (Term.exprs args, rest.map .token ++ others)

mutual

def predicate (glyphs : List Glyph) : Option (Predicate × List Glyph) :=
  match glyphs with
  | .token .opening :: rest =>
    match predicate rest with
    | some (operand, .token .closing :: after) => some (.junction .and [operand], after)
    | some (first, .token (.keyword word) :: after) =>
      -- The comparison of lengths only lets the descent end: no predicate is empty.
      if after.length < rest.length then
        match [Junction.and, .or].find? fun op => op.keyword == word with
        | some op =>
          match operands op after with
          | some (others, after) => some (.junction op (first :: others), after)
          | none => none
        | none => none
      else none
    | _ => none
  | head :: .token .opening :: rest =>
    match head.word?.map Heading.ofWord with
    | some (.quantified quantifier) =>
      match rest with
      | bound :: .bar :: rest =>
        match bound.word?, predicate rest with
        | some bound, some (condition, .token .closing :: after) =>
          some (.quantification quantifier (some bound) (some condition), after)
        | _, _ => none
      | _ => none
    | some .negated =>
      match predicate rest with
      | some (operand, .token .closing :: after) => some (.negation operand, after)
      | _ => none
    | some (.named name) =>
      match arguments rest with
      | some (args, after) => some (.atom name args, after)
      | none => none
    | none => none
  | _ => none
termination_by (glyphs.length, 0)

/-- Predicates with the connective between them, up to the closing parenthesis. -/
def operands (op : Junction) (glyphs : List Glyph) : Option (List Predicate × List Glyph) :=
  match predicate glyphs with
  | some (last, .token .closing :: after) => some ([last], after)
  | some (next, .token (.keyword word) :: after) =>
    if word = op.keyword ∧ after.length < glyphs.length then
      match operands op after with
      | some (others, after) => some (next :: others, after)
      | none => none
    else none
  | _ => none
termination_by (glyphs.length, 1)

end

private theorem terms_append {parts : List (List Token × Term)}
    (each : ∀ part ∈ parts, Derives .disjunction part.1 part.2) (rest : List Token) :
    terms (Token.listing (parts.map Prod.fst) ++ .closing :: rest) =
      some (parts.map Prod.snd, rest) := by
  by_cases empty : parts = []
  · subst empty
    rfl
  · have found := Descent.list_append empty
      (fun part member => Descent.reads_of_derives (each part member)) rest
    obtain ⟨token, more, begins, closed⟩ := Descent.listing_begins empty each
    rw [terms, found]
    intro after same
    rw [begins] at same
    exact closed (List.cons.inj same).1

/-- Phrases in front of a parenthesis are read as arguments, whatever follows. -/
theorem arguments_append {parts : List (List Token × Term)}
    (each : ∀ part ∈ parts, Derives .disjunction part.1 part.2) (rest : List Glyph) :
    arguments ((Token.listing (parts.map Prod.fst)).map .token ++ .token .closing :: rest) =
      some (Term.exprs (parts.map Prod.snd), rest) := by
  rw [arguments, Glyph.leading_append, Glyph.leading]
  simp only [terms_append each, Option.map_some, Glyph.leading_whole]

/-- The glyphs are read as one predicate, whatever follows. -/
def Reads (glyphs : List Glyph) (said : Predicate) : Prop :=
  ∀ rest, predicate (glyphs ++ rest) = some (said, rest)

/-- What a word announces is read if it is no parenthesis. -/
theorem word_ne_opening {head : Glyph} (word : head.word? = some text) : head ≠ .token .opening := by
  rintro rfl
  cases word

theorem reads_quantification {head bound : Glyph} (quantifier : Quantifier)
    (word : head.word? = some text) (announced : Heading.ofWord text = .quantified quantifier)
    (named : bound.word? = some name) (condition : Reads glyphs said) :
    Reads (head :: .token .opening :: bound :: .bar :: (glyphs ++ [.token .closing]))
      (.quantification quantifier (some name) (some said)) := by
  intro rest
  have found := condition (.token .closing :: rest)
  simp only [List.cons_append]
  rw [predicate]
  · simp [word, announced, named, found]
  · exact word_ne_opening word

theorem reads_negation {head : Glyph} (word : head.word? = some text)
    (announced : Heading.ofWord text = .negated) (operand : Reads glyphs said) :
    Reads (head :: .token .opening :: (glyphs ++ [.token .closing])) (.negation said) := by
  intro rest
  have found := operand (.token .closing :: rest)
  simp only [List.cons_append]
  rw [predicate]
  · simp [word, announced, found]
  · exact word_ne_opening word

theorem reads_atom {head : Glyph} (word : head.word? = some text)
    (announced : Heading.ofWord text = .named name) {parts : List (List Token × Term)}
    (each : ∀ part ∈ parts, Derives .disjunction part.1 part.2) :
    Reads (head :: .token .opening ::
        ((Token.listing (parts.map Prod.fst)).map .token ++ [.token .closing]))
      (.atom name (Term.exprs (parts.map Prod.snd))) := by
  intro rest
  have found := arguments_append each rest
  simp only [List.cons_append, List.append_assoc, List.nil_append]
  rw [predicate]
  · simp [word, announced, found]
  · exact word_ne_opening word

/-- Predicates with a connective between them. -/
def joined (op : Junction) (parts : List (List Glyph)) : List Glyph :=
  [Glyph.token (.keyword op.keyword)].intercalate parts

private theorem joined_cons (op : Junction) (head next : List Glyph) (rest : List (List Glyph)) :
    joined op (head :: next :: rest) =
      head ++ .token (.keyword op.keyword) :: joined op (next :: rest) := by
  simp [joined, List.intercalate]

private theorem operands_append (op : Junction)
    {parts : List (List Glyph × Predicate)} (nonempty : parts ≠ [])
    (each : ∀ part ∈ parts, Reads part.1 part.2) (rest : List Glyph) :
    operands op (joined op (parts.map Prod.fst) ++ .token .closing :: rest) =
      some (parts.map Prod.snd, rest) := by
  induction parts with
  | nil => exact absurd rfl nonempty
  | cons head tail ih =>
    have first := each head List.mem_cons_self
    cases tail with
    | nil =>
      rw [operands]
      simp [joined, List.intercalate, first _]
    | cons next tail =>
      have inTail := ih (by simp) fun part member => each part (List.mem_cons_of_mem _ member)
      rw [List.map_cons, List.map_cons, joined_cons, List.append_assoc, List.cons_append, operands,
        first _]
      rw [List.map_cons] at inTail
      simp only [inTail]
      exact if_pos ⟨trivial, by simp; omega⟩

private theorem find_junction (op : Junction) :
    [Junction.and, .or].find? (fun other => other.keyword == op.keyword) = some op := by
  cases op <;> rfl

theorem reads_junction (op : Junction) {parts : List (List Glyph × Predicate)} (nonempty : parts ≠ [])
    (each : ∀ part ∈ parts, Reads part.1 part.2) :
    Reads (.token .opening :: (joined op (parts.map Prod.fst) ++ [.token .closing]))
      (.junction (if parts.length = 1 then .and else op) (parts.map Prod.snd)) := by
  intro rest
  cases parts with
  | nil => exact absurd rfl nonempty
  | cons head tail =>
    have first := each head List.mem_cons_self
    cases tail with
    | nil =>
      rw [List.cons_append, predicate]
      simp [joined, List.intercalate, first _]
    | cons next tail =>
      have inTail : ∀ part ∈ next :: tail, Reads part.1 part.2 := fun part member =>
        each part (List.mem_cons_of_mem _ member)
      have others := operands_append op (List.cons_ne_nil next tail) inTail rest
      have glyphs := first (.token (.keyword op.keyword) ::
        (joined op ((next :: tail).map Prod.fst) ++ .token .closing :: rest))
      rw [List.map_cons] at others glyphs
      rw [List.map_cons, List.map_cons, joined_cons]
      simp only [List.cons_append, List.append_assoc, List.nil_append]
      rw [predicate, glyphs]
      simp only [find_junction, others]
      rw [if_pos (by simp; omega)]
      simp

end PredicateDescent

def Predicate.ofText? (text : String) : Option Predicate := do
  let glyphs ← Glyph.ofText? text
  match PredicateDescent.predicate glyphs with
  | some (predicate, []) => some predicate
  | _ => none

end ConstraintTree
