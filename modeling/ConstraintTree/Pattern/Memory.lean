import ConstraintTree.Pattern.ByteRanges
import ConstraintTree.Pattern.Regular
import ConstraintTree.Pattern.WordTree

/-!
Memory that the searches for an expression take. A match is found by a machine that reads forwards
from byte to byte, and its beginning by one that reads backwards. Both write repetitions out, and
neither grows any more when it has become too large.
-/
namespace ConstraintTree.Pattern

inductive Direction where
  | forwards
  | backwards
  deriving DecidableEq, Repr, Inhabited

def Direction.bytes (direction : Direction) (char : Char) : List UInt8 :=
  match direction with
  | .forwards => String.utf8EncodeChar char
  | .backwards => (String.utf8EncodeChar char).reverse

namespace Regular

mutual

/-- Rows and words are turned round. -/
def mirrored : Regular → Regular
  | .word chars => .word chars.reverse
  | .sequence items => .sequence (mirroredOnto [] items)
  | .choice branches => .choice (mirroredOnto [] branches).reverse
  | .repeated least most greedy body => .repeated least most greedy body.mirrored
  | .group body => .group body.mirrored
  | other => other

def mirroredOnto (done : List Regular) : List Regular → List Regular
  | [] => done
  | item :: rest => mirroredOnto (item.mirrored :: done) rest

end

def growSet (direction : Direction) (set : Runs) (tally : Tally) : Tally :=
  if set.upTo 0x7f then tally.add 2 (Tally.byteWay * set.length)
  else
    match direction with
    | .forwards => ByteRanges.growForwards (ByteRanges.ofRuns set) tally
    | .backwards => ByteRanges.growBackwards (ByteRanges.ofRuns set) tally

def word? : Regular → Option (List Char)
  | .word chars => some chars
  | _ => none

mutual

def grow (direction : Direction) : Regular → Tally → Tally
  | .empty, tally | .look _, tally => tally.add 1
  | .word chars, tally => tally.add (chars.foldl (fun count char => count + char.utf8Size) 0)
  | .oneOf _ set, tally => growSet direction set tally
  | .sequence items, tally => growAll direction items tally
  | .choice branches, tally =>
    let words := branches.filterMap word?
    if words.length = branches.length then
      WordTree.grow (words.map fun chars => chars.flatMap direction.bytes) tally
    else
      (growBranches direction branches tally).add 0 (Tally.freeWay * branches.length)
  | .repeated least none _ body, tally =>
    if least ≠ 0 then (Tally.repeatedly (body.grow direction) least tally).fork
    else if body.takesCharacter then body.grow direction tally.fork
    else (body.grow direction tally).fork.fork.add 1
  | .repeated least (some most) _ body, tally =>
    if least = most then Tally.repeatedly (body.grow direction) least tally
    else if least = 0 ∧ most = 1 then (body.grow direction tally.fork).add 1
    else
      let tally := if least = 0 then tally.add 1
        else Tally.repeatedly (body.grow direction) least tally
      Tally.repeatedly (fun tally => body.grow direction tally.fork) (most - least) (tally.add 1)
  | .group body, tally =>
    match direction with
    | .forwards => (body.grow direction (tally.add 1)).add 1
    | .backwards => body.grow direction tally

def growAll (direction : Direction) : List Regular → Tally → Tally
  | [], tally => tally
  | item :: rest, tally =>
    if tally.isFull then tally else growAll direction rest (item.grow direction tally)

/-- Adds the states for branches. The one where they part and the one where they meet come behind
those for the first two. -/
def growBranches (direction : Direction) : List Regular → Tally → Tally
  | [], tally => tally.add 2
  | first :: [], tally => (first.grow direction tally).add 2
  | first :: second :: rest, tally =>
    growAll direction rest
      ((second.grow direction (first.grow direction tally)).add 2)

end

def start (anchored : Bool) : Tally :=
  if anchored then { states := 1 }
  else { states := 3, ways := Tally.byteWay + 2 * Tally.freeWay }

/-- The machine that reads forwards. Two of its states remember where the match lies. -/
def forwards (sought : Regular) : Tally :=
  (sought.grow .forwards ((start sought.opensText).add 1)).add 2

def backwards (sought : Regular) : Tally :=
  (sought.mirrored.grow .backwards (start sought.closesText)).add 1

end Regular
end ConstraintTree.Pattern
