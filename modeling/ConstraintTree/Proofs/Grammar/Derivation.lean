import ConstraintTree.Expr
import ConstraintTree.Proofs.Grammar.Token

/-!
The grammar of expressions over tokens. It is stratified: a phrase of one stratum is made of phrases
of tighter ones, and parentheses make an atom of any phrase. Operators that associate to the left
take their own stratum on the left alone, comparisons on neither side.
-/
namespace ConstraintTree

/-- What a text says, apart from blanks and parentheses. An integer has a magnitude only: in a text a
minus in front of it is an operator. -/
inductive Term where
  | column (reference : Column)
  | null
  | boolean (value : Bool)
  | integer (magnitude : Nat)
  | text (content : String)
  | binary (op : BinaryOp) (left right : Term)
  | unary (op : UnaryOp) (operand : Term)
  | call (name : String) (args : List Term)
  | between (test lower upper : Term) (negated : Bool)
  | inList (tested : Term) (choices : List Term) (negated : Bool)
  deriving Repr

/-- The levels of the grammar, from the loosest to the tightest. -/
inductive Stratum where
  | disjunction
  | conjunction
  | negation
  | comparison
  | sum
  | product
  | signed
  | atom
  deriving DecidableEq, Repr

def BinaryOp.token : BinaryOp → Token
  | .add => .sign .plus
  | .sub => .sign .minus
  | .mul => .sign .times
  | .div => .sign .divide
  | .mod => .sign .modulo
  | .eq => .sign .equal
  | .ne => .sign .notEqual
  | .lt => .sign .less
  | .le => .sign .lessEqual
  | .gt => .sign .greater
  | .ge => .sign .greaterEqual
  | .and => .keyword .and
  | .or => .keyword .or
  | .concat => .sign .concat
  | .like => .keyword .like

namespace Stratum

/-- The stratum of which every phrase belongs to this one too. -/
def next? : Stratum → Option Stratum
  | .disjunction => some .conjunction
  | .conjunction => some .negation
  | .negation => some .comparison
  | .comparison => some .sum
  | .sum => some .product
  | .product => some .signed
  | .signed => some .atom
  | .atom => none

/-- The operators of the stratum that associate to the left. -/
def chained : Stratum → List BinaryOp
  | .disjunction => [.or]
  | .conjunction => [.and]
  | .sum => [.add, .sub, .concat]
  | .product => [.mul, .div, .mod]
  | .negation | .comparison | .signed | .atom => []

def rank : Stratum → Nat
  | .disjunction => 1
  | .conjunction => 2
  | .negation => 3
  | .comparison => 4
  | .sum => 5
  | .product => 6
  | .signed => 7
  | .atom => 8

theorem rank_next {stratum finer : Stratum} (next : stratum.next? = some finer) :
    finer.rank = stratum.rank + 1 := by
  cases stratum <;> cases next <;> rfl

private theorem rank_injective {first second : Stratum} (same : first.rank = second.rank) :
    first = second := by
  cases first <;> cases second <;> simp [rank] at same ⊢

end Stratum

/-- The operators of comparisons, which do not associate. -/
def BinaryOp.comparisons : List BinaryOp := [.eq, .ne, .lt, .le, .gt, .ge, .like]

namespace Token

def listing (parts : List (List Token)) : List Token := [Token.comma].intercalate parts

/-- The `NOT` of a negated test. -/
def negationMark (negated : Bool) : List Token := if negated then [.keyword .not] else []

end Token

/-- The tokens are a phrase of the stratum, and say the term. -/
inductive Derives : Stratum → List Token → Term → Prop where
  | tighter (next : stratum.next? = some finer) (phrase : Derives finer tokens term) :
      Derives stratum tokens term
  | chain (op : BinaryOp) (member : op ∈ stratum.chained) (next : stratum.next? = some finer)
      (left : Derives stratum before leftTerm) (right : Derives finer after rightTerm) :
      Derives stratum (before ++ op.token :: after) (.binary op leftTerm rightTerm)
  | negation (operand : Derives .negation tokens term) :
      Derives .negation (.keyword .not :: tokens) (.unary .not term)
  | comparison (op : BinaryOp) (member : op ∈ BinaryOp.comparisons)
      (left : Derives .sum before leftTerm) (right : Derives .sum after rightTerm) :
      Derives .comparison (before ++ op.token :: after) (.binary op leftTerm rightTerm)
  | isNull (operand : Derives .sum tokens term) :
      Derives .comparison (tokens ++ [.keyword .is, .keyword .null]) (.unary .isNull term)
  | isNotNull (operand : Derives .sum tokens term) :
      Derives .comparison (tokens ++ [.keyword .is, .keyword .not, .keyword .null])
        (.unary .isNotNull term)
  | between (negated : Bool) (test : Derives .sum tested testTerm)
      (lower : Derives .sum low lowTerm) (upper : Derives .sum high highTerm) :
      Derives .comparison
        (tested ++ (Token.negationMark negated ++
          .keyword .between :: (low ++ .keyword .and :: high)))
        (.between testTerm lowTerm highTerm negated)
  | inList (negated : Bool) (operand : Derives .sum tested testTerm)
      (choices : List (List Token × Term)) (nonempty : choices ≠ [])
      (each : ∀ choice ∈ choices, Derives .disjunction choice.1 choice.2) :
      Derives .comparison
        (tested ++ (Token.negationMark negated ++
          .keyword .in :: .opening :: (Token.listing (choices.map Prod.fst) ++ [.closing])))
        (.inList testTerm (choices.map Prod.snd) negated)
  | minus (operand : Derives .signed tokens term) :
      Derives .signed (.sign .minus :: tokens) (.unary .minus term)
  | null : Derives .atom [.keyword .null] .null
  | boolean (value : Bool) :
      Derives .atom [.keyword (if value then .true else .false)] (.boolean value)
  | numeral (value : Nat) : Derives .atom [.numeral value] (.integer value)
  | quoted (content : String) : Derives .atom [.quoted content] (.text content)
  | column (name : String) : Derives .atom [.name name] (.column { name })
  | qualified (table name : String) :
      Derives .atom [.name table, .dot, .name name] (.column { table := some table, name })
  | call (name : String) (args : List (List Token × Term))
      (each : ∀ arg ∈ args, Derives .disjunction arg.1 arg.2) :
      Derives .atom (.name name :: .opening :: (Token.listing (args.map Prod.fst) ++ [.closing]))
        (.call name (args.map Prod.snd))
  | enclosed (phrase : Derives .disjunction tokens term) :
      Derives .atom (.opening :: (tokens ++ [.closing])) term

namespace Derives

/-- A phrase of a stratum is a phrase of every looser one. -/
theorem loosen (phrase : Derives finer tokens term) (looser : stratum.rank ≤ finer.rank) :
    Derives stratum tokens term := by
  obtain ⟨steps, distance⟩ := Nat.exists_eq_add_of_le looser
  induction steps generalizing stratum with
  | zero => exact Stratum.rank_injective distance ▸ phrase
  | succ steps ih =>
    cases next : stratum.next? with
    | none => cases stratum <;> cases finer <;> simp [Stratum.next?, Stratum.rank] at *
    | some inner =>
      have step := Stratum.rank_next next
      exact .tighter next (ih (by omega) (by omega))

theorem whole (phrase : Derives stratum tokens term) : Derives .disjunction tokens term :=
  phrase.loosen (by cases stratum <;> decide)

end Derives
end ConstraintTree
