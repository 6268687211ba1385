import ConstraintTree.Proofs.Grammar.Derivation

/-!
A reader of phrases, by recursive descent. It takes operators that associate to the left in a loop,
and looks at no more than the next tokens. Whatever the grammar derives, the reader finds, so the
grammar derives at most one term from any tokens.
-/
namespace ConstraintTree

/-- A term and the tokens behind it. -/
abbrev Found := Option (Term × List Token)

namespace Descent

def operator? (ops : List BinaryOp) (token : Token) : Option BinaryOp :=
  ops.find? fun op => op.token == token

mutual

/-- Reads a phrase of a stratum off the front of the tokens. -/
def phrase (stratum : Stratum) (tokens : List Token) : Found :=
  match stratum, tokens with
  | .negation, .keyword .not :: rest =>
    match phrase .negation rest with
    | some (operand, rest) => some (.unary .not operand, rest)
    | none => none
  | .signed, .sign .minus :: rest =>
    match phrase .signed rest with
    | some (operand, rest) => some (.unary .minus operand, rest)
    | none => none
  | stratum, tokens =>
    match _next : stratum.next? with
    | some finer =>
      match phrase finer tokens with
      -- The comparison of lengths only lets the descent end: no phrase is empty.
      | some (left, rest) => if rest.length < tokens.length then extend stratum left rest else none
      | none => none
    | none => atom tokens
termination_by (tokens.length, 10 - stratum.rank)
decreasing_by
  · exact Prod.Lex.left _ _ (by simp)
  · exact Prod.Lex.left _ _ (by simp)
  · have deeper := Stratum.rank_next _next
    have bound : stratum.rank ≤ 8 := by cases stratum <;> decide
    exact Prod.Lex.right _ (by omega)
  · exact Prod.Lex.left _ _ ‹_›
  · have bound : stratum.rank ≤ 8 := by cases stratum <;> decide
    exact Prod.Lex.right _ (by omega)

/-- Goes on behind a phrase, as long as operators of the stratum follow. -/
def extend (stratum : Stratum) (left : Term) (tokens : List Token) : Found :=
  match stratum, tokens with
  | .comparison, tokens => test left tokens
  | _, [] => some (left, [])
  | stratum, token :: rest =>
    match operator? stratum.chained token, stratum.next? with
    | some op, some finer =>
      match phrase finer rest with
      | some (right, after) =>
        if after.length ≤ rest.length then extend stratum (.binary op left right) after else none
      | none => none
    | _, _ => some (left, token :: rest)
termination_by (tokens.length, 1)

/-- Goes on behind the first operand of a test, if one follows. -/
def test (left : Term) (tokens : List Token) : Found :=
  match tokens with
  | .keyword .is :: .keyword .null :: rest => some (.unary .isNull left, rest)
  | .keyword .is :: .keyword .not :: .keyword .null :: rest => some (.unary .isNotNull left, rest)
  | .keyword .between :: rest => range false left rest
  | .keyword .not :: .keyword .between :: rest => range true left rest
  | .keyword .in :: .opening :: rest =>
    match list rest with
    | some (choices, rest) => some (.inList left choices false, rest)
    | none => none
  | .keyword .not :: .keyword .in :: .opening :: rest =>
    match list rest with
    | some (choices, rest) => some (.inList left choices true, rest)
    | none => none
  | token :: rest =>
    match operator? BinaryOp.comparisons token with
    | some op =>
      match phrase .sum rest with
      | some (right, rest) => some (.binary op left right, rest)
      | none => none
    | none => some (left, token :: rest)
  | [] => some (left, [])
termination_by (tokens.length, 0)

def range (negated : Bool) (left : Term) (tokens : List Token) : Found :=
  match phrase .sum tokens with
  | some (lower, .keyword .and :: rest) =>
    if rest.length < tokens.length then
      match phrase .sum rest with
      | some (upper, rest) => some (.between left lower upper negated, rest)
      | none => none
    else none
  | _ => none
termination_by (tokens.length, 11)

def atom (tokens : List Token) : Found :=
  match tokens with
  | .keyword .null :: rest => some (.null, rest)
  | .keyword .true :: rest => some (.boolean true, rest)
  | .keyword .false :: rest => some (.boolean false, rest)
  | .numeral value :: rest => some (.integer value, rest)
  | .quoted content :: rest => some (.text content, rest)
  | .name name :: .opening :: .closing :: rest => some (.call name [], rest)
  | .name name :: .opening :: rest =>
    match list rest with
    | some (args, rest) => some (.call name args, rest)
    | none => none
  | .name table :: .dot :: .name name :: rest => some (.column { table := some table, name }, rest)
  | .name name :: rest => some (.column { name }, rest)
  | .opening :: rest =>
    match phrase .disjunction rest with
    | some (inner, .closing :: rest) => some (inner, rest)
    | _ => none
  | _ => none
termination_by (tokens.length, 0)

/-- Phrases with commas between them, up to the closing parenthesis. -/
def list (tokens : List Token) : Option (List Term × List Token) :=
  match phrase .disjunction tokens with
  | some (head, .closing :: rest) => some ([head], rest)
  | some (head, .comma :: rest) =>
    if rest.length < tokens.length then
      match list rest with
      | some (tail, rest) => some (head :: tail, rest)
      | none => none
    else none
  | _ => none
termination_by (tokens.length, 11)

end

end Descent

/-- Rank of the stratum that a token goes on with behind a phrase, or zero if it goes on with none. A
dot and an opening parenthesis go on with a name. -/
def Token.tightness : Token → Nat
  | .keyword .or => 1
  | .keyword .and => 2
  | .keyword .not | .keyword .is | .keyword .between | .keyword .in | .keyword .like => 4
  | .sign .plus | .sign .minus | .sign .concat => 5
  | .sign .times | .sign .divide | .sign .modulo => 6
  | .sign _ => 4
  | .dot | .opening => 8
  | _ => 0

/-- The next token, if there is one, goes on with no phrase of the stratum. -/
def Stops (stratum : Stratum) (rest : List Token) : Prop :=
  ∀ token ∈ rest.head?, token.tightness < stratum.rank

/-- The next token does not go on inside the phrase. Operators of a stratum that associates to the
left go on behind it. -/
def Follows (stratum : Stratum) (rest : List Token) : Prop :=
  ∀ token ∈ rest.head?, token.tightness < stratum.rank ∨
    stratum.chained ≠ [] ∧ token.tightness = stratum.rank

theorem Follows.finer {stratum finer : Stratum} {rest : List Token} (follows : Follows stratum rest)
    (next : stratum.next? = some finer) : Stops finer rest := by
  intro token first
  have step := Stratum.rank_next next
  rcases follows token first with looser | ⟨_, same⟩ <;> omega

theorem Follows.stops {stratum : Stratum} {rest : List Token} (follows : Follows stratum rest)
    (single : stratum.chained = []) : Stops stratum rest := by
  intro token first
  rcases follows token first with looser | ⟨chained, _⟩
  · exact looser
  · exact absurd single chained

theorem Stops.follows {stratum : Stratum} {rest : List Token} (stops : Stops stratum rest) :
    Follows stratum rest :=
  fun token first => .inl (stops token first)

theorem Stops.mono {stratum finer : Stratum} {rest : List Token} (stops : Stops stratum rest)
    (tighter : stratum.rank ≤ finer.rank) : Stops finer rest :=
  fun token first => Nat.lt_of_lt_of_le (stops token first) tighter

private theorem tightness_chained {stratum : Stratum} {op : BinaryOp} (member : op ∈ stratum.chained) :
    op.token.tightness = stratum.rank := by
  cases stratum <;> simp only [Stratum.chained, List.mem_cons, List.not_mem_nil, or_false] at member
  · subst member; rfl
  · subst member; rfl
  · rcases member with rfl | rfl | rfl <;> rfl
  · rcases member with rfl | rfl | rfl <;> rfl

private theorem tightness_comparison {op : BinaryOp} (member : op ∈ BinaryOp.comparisons) :
    op.token.tightness = 4 := by
  simp only [BinaryOp.comparisons, List.mem_cons, List.not_mem_nil, or_false] at member
  rcases member with rfl | rfl | rfl | rfl | rfl | rfl | rfl <;> rfl

private theorem BinaryOp.token_injective {first second : BinaryOp} (same : first.token = second.token) :
    first = second := by
  cases first <;> cases second <;> simp [BinaryOp.token] at same ⊢

/-- No phrase is empty or begins with a closing parenthesis, only loose ones begin with `NOT`, and no
atom with a minus. -/
theorem Derives.head (phrase : Derives stratum tokens term) :
    ∃ token rest, tokens = token :: rest ∧ token ≠ .closing ∧
      (3 < stratum.rank → token ≠ .keyword .not) ∧ (7 < stratum.rank → token ≠ .sign .minus) := by
  induction phrase with
  | tighter next phrase ih =>
    obtain ⟨token, rest, shape, opens, plain, unsigned⟩ := ih
    have step := Stratum.rank_next next
    exact ⟨token, rest, shape, opens, fun deep => plain (by omega), fun deep => unsigned (by omega)⟩
  | chain op member next left right inLeft inRight =>
    obtain ⟨token, rest, shape, facts⟩ := inLeft
    exact ⟨token, _, by rw [shape]; rfl, facts⟩
  | negation operand ih => exact ⟨_, _, rfl, by simp, by simp [Stratum.rank], by simp⟩
  | comparison op member left right inLeft inRight =>
    obtain ⟨token, rest, shape, opens, plain, unsigned⟩ := inLeft
    exact ⟨token, _, by rw [shape]; rfl, opens, fun _ => plain (by decide), by simp [Stratum.rank]⟩
  | isNull operand ih | isNotNull operand ih =>
    obtain ⟨token, rest, shape, opens, plain, unsigned⟩ := ih
    exact ⟨token, _, by rw [shape]; rfl, opens, fun _ => plain (by decide), by simp [Stratum.rank]⟩
  | between negated test lower upper inTest inLower inUpper =>
    obtain ⟨token, rest, shape, opens, plain, unsigned⟩ := inTest
    exact ⟨token, _, by rw [shape]; rfl, opens, fun _ => plain (by decide), by simp [Stratum.rank]⟩
  | inList negated operand choices nonempty each ih inEach =>
    obtain ⟨token, rest, shape, opens, plain, unsigned⟩ := ih
    exact ⟨token, _, by rw [shape]; rfl, opens, fun _ => plain (by decide), by simp [Stratum.rank]⟩
  | minus operand ih => exact ⟨_, _, rfl, by simp, by simp, by simp [Stratum.rank]⟩
  | boolean value => cases value <;> exact ⟨_, _, rfl, by simp, by simp, by simp⟩
  | null | numeral | quoted | column | qualified | call | enclosed =>
    exact ⟨_, _, rfl, by simp, by simp, by simp⟩

namespace Descent

private theorem operator?_token {ops : List BinaryOp} {op : BinaryOp} (member : op ∈ ops) :
    operator? ops op.token = some op := by
  cases found : operator? ops op.token with
  | none =>
    have absent := List.find?_eq_none.mp found op member
    simp at absent
  | some other =>
    have same : other.token = op.token := by
      simpa using List.find?_some (p := fun other : BinaryOp => other.token == op.token) found
    rw [BinaryOp.token_injective same]

private theorem operator?_none {ops : List BinaryOp} {token : Token}
    (different : ∀ op ∈ ops, op.token.tightness ≠ token.tightness) : operator? ops token = none := by
  apply List.find?_eq_none.mpr
  intro op member same
  exact different op member (congrArg Token.tightness (beq_iff_eq.mp same))

private theorem test_stops {left : Term} {rest : List Token} (stops : Stops .comparison rest) :
    test left rest = some (left, rest) := by
  cases rest with
  | nil => rw [test]
  | cons token rest =>
    have loose : token.tightness < 4 := stops token rfl
    have other : operator? BinaryOp.comparisons token = none :=
      operator?_none fun op member same => by rw [tightness_comparison member] at same; omega
    rw [test, other]
    all_goals
      intros
      subst_vars
      simp [Token.tightness] at loose

/-- Nothing is taken behind a phrase whose stratum the next token does not go on with. -/
theorem extend_stops {stratum : Stratum} {left : Term} {rest : List Token}
    (stops : Stops stratum rest) : extend stratum left rest = some (left, rest) := by
  by_cases comparison : stratum = .comparison
  · subst comparison
    rw [extend, test_stops stops]
  · cases rest with
    | nil => rw [extend]; exact comparison
    | cons token rest =>
      have loose := stops token rfl
      have other : operator? stratum.chained token = none :=
        operator?_none fun op member same => by rw [tightness_chained member] at same; omega
      rw [extend, other]
      exact comparison

/-- A phrase of the next stratum is read as one of this stratum, and then gone on with. -/
theorem phrase_of_finer (next : stratum.next? = some finer) (inner : Derives finer tokens term)
    (rest : List Token) (read : phrase finer (tokens ++ rest) = some (term, rest)) :
    phrase stratum (tokens ++ rest) = extend stratum term rest := by
  obtain ⟨token, more, shape, _, plain, unsigned⟩ := inner.head
  have shorter : rest.length < (tokens ++ rest).length := by
    rw [shape, List.length_append, List.length_cons]
    omega
  rw [phrase]
  · split
    · rename_i other same
      rw [Option.some.inj (same.symm.trans next), read]
      exact if_pos shorter
    · rename_i last
      cases last.symm.trans next
  · rintro _ rfl same
    have first : token = .keyword .not := by simpa [shape] using (List.cons.inj (shape ▸ same)).1
    cases next
    exact plain (by decide) first
  · rintro _ rfl same
    have first : token = .sign .minus := by simpa [shape] using (List.cons.inj (shape ▸ same)).1
    cases next
    exact unsigned (by decide) first

/-- The tokens are read as one phrase, and then gone on with as far as what follows allows. -/
def Reads (stratum : Stratum) (tokens : List Token) (term : Term) : Prop :=
  ∀ rest, Follows stratum rest → phrase stratum (tokens ++ rest) = extend stratum term rest

theorem Reads.found (reads : Reads stratum tokens term) (stops : Stops stratum rest) :
    phrase stratum (tokens ++ rest) = some (term, rest) :=
  (reads rest stops.follows).trans (extend_stops stops)

private theorem reads_tighter (next : stratum.next? = some finer) (inner : Derives finer tokens term)
    (reads : Reads finer tokens term) : Reads stratum tokens term :=
  fun rest follows => phrase_of_finer next inner rest (reads.found (follows.finer next))

private theorem reads_chain {op : BinaryOp} (member : op ∈ stratum.chained)
    (next : stratum.next? = some finer) (left : Reads stratum before leftTerm)
    (right : Reads finer after rightTerm) :
    Reads stratum (before ++ op.token :: after) (.binary op leftTerm rightTerm) := by
  intro rest follows
  have goesOn : Follows stratum (op.token :: (after ++ rest)) := by
    rintro token ⟨⟩
    exact .inr ⟨List.ne_nil_of_mem member, tightness_chained member⟩
  rw [List.append_assoc, List.cons_append, left _ goesOn, extend]
  · rw [operator?_token member, next]
    simp only [right.found (follows.finer next)]
    exact if_pos (by simp)
  · rintro rfl
    simp [Stratum.chained] at member

theorem reads_negation (operand : Reads .negation tokens term) :
    Reads .negation (.keyword .not :: tokens) (.unary .not term) := by
  intro rest follows
  have stops := follows.stops rfl
  rw [List.cons_append, phrase, operand.found stops, extend_stops stops]

private theorem reads_minus (operand : Reads .signed tokens term) :
    Reads .signed (.sign .minus :: tokens) (.unary .minus term) := by
  intro rest follows
  have stops := follows.stops rfl
  rw [List.cons_append, phrase, operand.found stops, extend_stops stops]

/-- A test is read by its first operand and by what the tokens behind it make of that. -/
theorem reads_test (left : Derives .sum tokens term) (reads : Reads .sum tokens term)
    {more : List Token} (head : ∃ token rest, more = token :: rest ∧ token.tightness = 4)
    (taken : ∀ rest, Stops .comparison rest → test term (more ++ rest) = some (result, rest)) :
    Reads .comparison (tokens ++ more) result := by
  intro rest follows
  have stops := follows.stops rfl
  obtain ⟨token, tail, shape, tightness⟩ := head
  have ends : Stops .sum (more ++ rest) := by
    subst shape
    rintro _ ⟨⟩
    rw [tightness]
    decide
  rw [List.append_assoc, phrase_of_finer rfl left _ (reads.found ends), extend, taken rest stops,
    extend_stops stops]

private theorem test_comparison {op : BinaryOp} (member : op ∈ BinaryOp.comparisons)
    (right : Reads .sum after rightTerm) (leftTerm : Term) (stops : Stops .comparison rest) :
    test leftTerm (op.token :: after ++ rest) = some (.binary op leftTerm rightTerm, rest) := by
  have found := right.found (stops.mono (by decide))
  have chosen := operator?_token member
  rw [List.cons_append, test]
  · rw [chosen]
    simp only [found]
  all_goals
    intros
    simp only [BinaryOp.comparisons, List.mem_cons, List.not_mem_nil, or_false] at member
    rcases member with rfl | rfl | rfl | rfl | rfl | rfl | rfl <;> contradiction

private theorem range_append (negated : Bool) (lower : Reads .sum low lowTerm)
    (upper : Reads .sum high highTerm) (left : Term) (stops : Stops .comparison rest) :
    range negated left (low ++ .keyword .and :: high ++ rest) =
      some (.between left lowTerm highTerm negated, rest) := by
  have ends : Stops .sum (.keyword .and :: (high ++ rest)) := by
    rintro _ ⟨⟩
    decide
  rw [List.append_assoc, List.cons_append, range, lower.found ends]
  simp only [upper.found (stops.mono (by decide))]
  exact if_pos (by simp; omega)

/-- Phrases in a list are read up to its closing parenthesis. -/
theorem list_append {parts : List (List Token × Term)} (nonempty : parts ≠ [])
    (each : ∀ part ∈ parts, Reads .disjunction part.1 part.2) (rest : List Token) :
    list (Token.listing (parts.map Prod.fst) ++ .closing :: rest) =
      some (parts.map Prod.snd, rest) := by
  induction parts with
  | nil => exact absurd rfl nonempty
  | cons head tail ih =>
    have first := each head List.mem_cons_self
    have ends (token : Token) (loose : token.tightness = 0) (more : List Token) :
        Stops .disjunction (token :: more) := by
      rintro _ ⟨⟩
      simp [loose, Stratum.rank]
    cases tail with
    | nil =>
      rw [list]
      simp [Token.listing, List.intercalate, first.found (ends .closing rfl _)]
    | cons next tail =>
      have inTail := ih (by simp) fun part member => each part (List.mem_cons_of_mem _ member)
      have shape : Token.listing ((head :: next :: tail).map Prod.fst) ++ .closing :: rest =
          head.1 ++ .comma :: (Token.listing ((next :: tail).map Prod.fst) ++ .closing :: rest) := by
        simp [Token.listing, List.intercalate]
      rw [shape, list, first.found (ends .comma rfl _)]
      simp only [inTail]
      exact if_pos (by simp; omega)

private theorem reads_between (negated : Bool) (derived : Derives .sum tested testTerm)
    (operand : Reads .sum tested testTerm) (lower : Reads .sum low lowTerm)
    (upper : Reads .sum high highTerm) :
    Reads .comparison (tested ++ (Token.negationMark negated ++
      .keyword .between :: (low ++ .keyword .and :: high)))
      (.between testTerm lowTerm highTerm negated) := by
  refine reads_test derived operand ?_ ?_
  · cases negated <;> exact ⟨_, _, rfl, rfl⟩
  · intro rest stops
    have bounds := range_append negated lower upper testTerm stops
    cases negated <;> simpa [Token.negationMark, test] using bounds

private theorem reads_inList (negated : Bool) (derived : Derives .sum tested testTerm)
    (operand : Reads .sum tested testTerm) {choices : List (List Token × Term)}
    (nonempty : choices ≠ []) (each : ∀ choice ∈ choices, Reads .disjunction choice.1 choice.2) :
    Reads .comparison (tested ++ (Token.negationMark negated ++
      .keyword .in :: .opening :: (Token.listing (choices.map Prod.fst) ++ [.closing])))
      (.inList testTerm (choices.map Prod.snd) negated) := by
  refine reads_test derived operand ?_ ?_
  · cases negated <;> exact ⟨_, _, rfl, rfl⟩
  · intro rest stops
    have found := list_append nonempty each rest
    cases negated <;> simp [Token.negationMark, test, found]

theorem reads_atom (taken : ∀ rest, Stops .atom rest → atom (tokens ++ rest) = some (term, rest)) :
    Reads .atom tokens term := by
  intro rest follows
  have stops := follows.stops rfl
  rw [phrase, extend_stops stops]
  · exact taken rest stops
  all_goals
    intros
    contradiction

/-- A name is a column only in front of a token that does not go on with it. -/
theorem reads_column (name : String) : Reads .atom [.name name] (.column { name }) := by
  apply reads_atom
  intro rest stops
  rw [List.singleton_append, atom]
  all_goals
    intros
    subst_vars
    exact absurd (stops _ rfl) (by decide)

/-- A list of phrases does not begin with its closing parenthesis. -/
theorem listing_begins {parts : List (List Token × Term)} (nonempty : parts ≠ [])
    (each : ∀ part ∈ parts, Derives .disjunction part.1 part.2) :
    ∃ token more, Token.listing (parts.map Prod.fst) = token :: more ∧ token ≠ .closing := by
  cases parts with
  | nil => exact absurd rfl nonempty
  | cons head tail =>
    obtain ⟨token, more, shape, closed, _⟩ := (each head List.mem_cons_self).head
    refine ⟨token, ?_⟩
    cases tail <;> simp [Token.listing, List.intercalate, shape, closed]

private theorem reads_call (name : String) {args : List (List Token × Term)}
    (derived : ∀ arg ∈ args, Derives .disjunction arg.1 arg.2)
    (each : ∀ arg ∈ args, Reads .disjunction arg.1 arg.2) :
    Reads .atom (.name name :: .opening :: (Token.listing (args.map Prod.fst) ++ [.closing]))
      (.call name (args.map Prod.snd)) := by
  apply reads_atom
  intro rest stops
  cases args with
  | nil => simp [Token.listing, List.intercalate, atom]
  | cons head tail =>
    have found := list_append (List.cons_ne_nil head tail) each rest
    obtain ⟨token, more, begins, closed⟩ := listing_begins (List.cons_ne_nil head tail) derived
    simp only [List.cons_append, List.append_assoc, List.nil_append]
    rw [atom, found]
    intro after same
    rw [begins] at same
    exact closed (List.cons.inj same).1

private theorem reads_enclosed (inner : Reads .disjunction tokens term) :
    Reads .atom (.opening :: (tokens ++ [.closing])) term := by
  apply reads_atom
  intro rest stops
  have ends : Stops .disjunction (.closing :: rest) := by
    rintro _ ⟨⟩
    decide
  simp [atom, inner.found ends]

/-- Whatever the grammar derives is read as one phrase, and then gone on with as far as the next token
allows. -/
theorem reads_of_derives (derived : Derives stratum tokens term) : Reads stratum tokens term := by
  -- Each stratum is read from tighter ones, so the cases need only what the parts are read as.
  induction derived with
  | tighter next inner ih => exact reads_tighter next inner ih
  | chain op member next left right inLeft inRight => exact reads_chain member next inLeft inRight
  | negation operand ih => exact reads_negation ih
  | comparison op member left right inLeft inRight =>
    exact reads_test left inLeft ⟨_, _, rfl, tightness_comparison member⟩
      fun rest stops => test_comparison member inRight _ stops
  | isNull operand ih =>
    exact reads_test operand ih ⟨_, _, rfl, rfl⟩ fun rest stops => by simp [test]
  | isNotNull operand ih =>
    exact reads_test operand ih ⟨_, _, rfl, rfl⟩ fun rest stops => by simp [test]
  | between negated operand lower upper inTest inLower inUpper =>
    exact reads_between negated operand inTest inLower inUpper
  | inList negated operand choices nonempty each ih inEach =>
    exact reads_inList negated operand ih nonempty inEach
  | minus operand ih => exact reads_minus ih
  | null => exact reads_atom fun rest stops => by simp [atom]
  | boolean value => cases value <;> exact reads_atom fun rest stops => by simp [atom]
  | numeral value => exact reads_atom fun rest stops => by simp [atom]
  | quoted content => exact reads_atom fun rest stops => by simp [atom]
  | column name => exact reads_column name
  | qualified table name => exact reads_atom fun rest stops => by simp [atom]
  | call name args each inEach => exact reads_call name each inEach
  | enclosed phrase ih => exact reads_enclosed ih

end Descent

namespace Derives

/-- Two phrases that begin the same tokens, and end where nothing goes on with them, are one and say
the same. -/
theorem unique_front (first : Derives stratum front term) (second : Derives stratum other term')
    (same : front ++ rest = other ++ rest') (stops : Stops stratum rest)
    (stops' : Stops stratum rest') : front = other ∧ term = term' ∧ rest = rest' := by
  have read := (Descent.reads_of_derives first).found stops
  have read' := (Descent.reads_of_derives second).found stops'
  rw [same, read'] at read
  obtain ⟨sameTerm, sameRest⟩ := Prod.mk.inj (Option.some.inj read)
  subst sameRest
  exact ⟨List.append_cancel_right same, sameTerm.symm, rfl⟩

/-- The grammar is unambiguous: tokens say at most one term. -/
theorem unique (first : Derives stratum tokens term) (second : Derives stratum tokens term') :
    term = term' := by
  have stops : Stops stratum [] := by simp [Stops]
  obtain ⟨-, same, -⟩ := unique_front first second rfl stops stops
  exact same

end Derives
end ConstraintTree
