import ConstraintTree.Number.Binary64

/-!
Decimal text of a number: the fewest significant digits that read back as the same number, the
nearest such digits, and of two equally near ones the larger. The digits are found by exact
integer arithmetic on the interval of reals that round to the number.
-/
namespace ConstraintTree

/-- The reals that round to one positive finite number, as integers over one denominator. -/
structure RoundingInterval where
  low : Nat
  centre : Nat
  high : Nat
  closed : Bool
  deriving Repr

/-- A decimal numeral `digits * 10 ^ (place - origin)`. -/
structure Numeral where
  digits : Nat
  place : Nat
  deriving DecidableEq, Repr

namespace Numeral

/-- Place of the units digit. Places left of it are larger, and every double has its digits at
places above zero. -/
def origin : Nat := 400

def trimFraction (fraction : List Char) : List Char :=
  (fraction.reverse.dropWhile (· == '0')).reverse

/-- Positional notation: all zeros are written out, and a point stands only before a fraction. -/
def text (numeral : Numeral) : List Char :=
  let digits := Nat.toDigits 10 numeral.digits
  if origin ≤ numeral.place then
    digits ++ List.replicate (numeral.place - origin) '0'
  else
    let places := origin - numeral.place
    let padded := List.replicate (places + 1 - digits.length) '0' ++ digits
    let fraction := trimFraction (padded.drop (padded.length - places))
    let whole := padded.take (padded.length - places)
    if fraction.isEmpty then whole else whole ++ '.' :: fraction

end Numeral

namespace RoundingInterval

def denominator : Nat := Nat.pow 2 1076

/-- Half way to both neighbours. The smaller neighbour of a power of two is half as far away, and
an end point rounds to the number whose significand is even. -/
def ofNumber (number : Binary64) : RoundingInterval :=
  let shift := Nat.pow 10 Numeral.origin
  let centre := 4 * number.magnitude
  let below := if number.fraction = 0 ∧ 1 < number.biasedExponent then 1 else 2
  { low := (centre - below * number.spacing) * shift
    centre := centre * shift
    high := (centre + 2 * number.spacing) * shift
    closed := number.significand % 2 == 0 }

def contains (interval : RoundingInterval) (numeral : Numeral) : Bool :=
  let value := numeral.digits * Nat.pow 10 numeral.place * denominator
  if interval.closed then decide (interval.low ≤ value ∧ value ≤ interval.high)
  else decide (interval.low < value ∧ value < interval.high)

def floorAt (interval : RoundingInterval) (place : Nat) : Numeral :=
  ⟨interval.centre / (Nat.pow 10 place * denominator), place⟩

def ceilingAt (interval : RoundingInterval) (place : Nat) : Numeral :=
  ⟨interval.centre / (Nat.pow 10 place * denominator) + 1, place⟩

/-- The upper grid neighbour is at least as near as the lower one. -/
def roundsUp (interval : RoundingInterval) (place : Nat) : Bool :=
  let step := Nat.pow 10 place * denominator
  decide (step ≤ 2 * (interval.centre % step))

/-- The numeral at one place that reads back as the number, the nearer of two. -/
def numeralAt? (interval : RoundingInterval) (place : Nat) : Option Numeral :=
  let lower := interval.floorAt place
  let upper := interval.ceilingAt place
  match interval.contains lower, interval.contains upper with
  | true, true => some (if interval.roundsUp place then upper else lower)
  | true, false => some lower
  | false, true => some upper
  | false, false => none

/-- Tries finer and finer places; the last one is taken as it is. -/
def search (interval : RoundingInterval) (place : Nat) : Nat → Numeral
  | 0 => interval.floorAt place
  | tries + 1 =>
    match interval.numeralAt? place with
    | some numeral => numeral
    | none => interval.search (place - 1) tries

def leadingPlace (interval : RoundingInterval) : Nat :=
  (Nat.toDigits 10 (interval.centre / denominator)).length - 1

/-- Seventeen digits always suffice to tell a number from its neighbours. -/
def shortest (interval : RoundingInterval) : Numeral :=
  interval.search interval.leadingPlace 17

end RoundingInterval

namespace Binary64

def magnitudeText (number : Binary64) : List Char :=
  if number.isZero then ['0'] else (RoundingInterval.ofNumber number).shortest.text

/-- Text of a number. Negative zero keeps its sign; values without digits are spelled out. -/
def chars (number : Binary64) : List Char :=
  if number.isNaN then ['N', 'a', 'N']
  else
    let sign := if number.isNegative then ['-'] else []
    sign ++ if number.isFinite then number.magnitudeText else ['i', 'n', 'f']

def text (number : Binary64) : String := String.ofList number.chars

end Binary64
end ConstraintTree
