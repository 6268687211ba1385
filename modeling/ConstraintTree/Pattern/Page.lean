import ConstraintTree.Pattern.Spot
import ConstraintTree.Text.Runs
import Std.Data.HashMap

namespace ConstraintTree.Pattern

/-- A set of places as a number: a place belongs to it if its bit is one. -/
abbrev Places := Nat

namespace Places

def without (places excluded : Places) : Places := places ^^^ (places &&& excluded)

/-- Joins neighbours: each is a set of places counted from a place of its own, which come in
ascending order. -/
def joinPairs (joined : List (Nat × Places)) : List (Nat × Places) → List (Nat × Places)
  | (start, places) :: (further, others) :: rest =>
    joinPairs ((start, places ||| (others <<< (further - start))) :: joined) rest
  | [only] => (only :: joined).reverse
  | [] => joined.reverse

/-- Joins all of them. Half as many are left after every round. -/
def joinAll : Nat → List (Nat × Places) → Places
  | _, [] => 0
  | _, [(start, places)] => places <<< start
  | 0, _ => 0
  | rounds + 1, parts => joinAll rounds (joinPairs [] parts)

def ofAscending (places : List Nat) : Places :=
  joinAll places.length (places.map fun place => (place, 1))

end Places

structure Page where
  /-- The places in front of each character, by its code point. -/
  chars : Std.HashMap Nat (Thunk Places)
  /-- The places that satisfy each condition. -/
  looks : List (Look × Thunk Places)
  size : Nat
  longest : Nat
  sizes : List Nat

namespace Page

/-- The spots of a text behind others, of which the last one comes first. -/
def spotsOnto (done : List Spot) (before : Option Char) : List Char → List Spot
  | [] => ⟨before, none⟩ :: done
  | char :: rest => spotsOnto (⟨before, some char⟩ :: done) (some char) rest

def spots (texts : List (List Char)) : List Spot :=
  (texts.foldl (fun done text => spotsOnto done none text) []).reverse

def placesOf (spots : List (Spot × Nat)) (condition : Look) : Places :=
  Places.ofAscending <| spots.filterMap fun (spot, place) =>
    if spot.satisfies condition then some place else none

/-- The places in front of each character, in descending order. -/
def charPlaces (spots : List (Spot × Nat)) : Std.HashMap Nat (List Nat) :=
  spots.foldl (fun places (spot, place) =>
    match spot.behind with
    | some char => places.alter char.toNat fun earlier => some (place :: earlier.getD [])
    | none => places) {}

def ofTexts (texts : List String) : Page :=
  let chars := texts.map String.toList
  let spots := (spots chars).zipIdx
  { chars := (charPlaces spots).map fun _ places =>
      Thunk.mk fun _ => Places.ofAscending places.reverse
    looks := Look.all.map fun look => (look, Thunk.mk fun _ => placesOf spots look)
    size := spots.length
    longest := chars.foldl (fun longest text => max longest text.length) 0
    sizes := chars.map fun text => text.length + 1 }

def inFrontOf (page : Page) (char : Char) : Places :=
  ((page.chars.get? char.toNat).map Thunk.get).getD 0

def inFrontOfAny (page : Page) (set : Runs) : Places :=
  page.chars.fold (fun found point places =>
    if set.hasPoint point then found ||| places.get else found) 0

def satisfying (page : Page) (condition : Look) : Places :=
  ((page.looks.lookup condition).map Thunk.get).getD 0

def all (page : Page) : Places := (1 <<< page.size) - 1

/-- Which of the texts have a place in a set. -/
def textsAt (page : Page) (places : Places) : List Bool :=
  (page.sizes.foldl (fun (found, places) size =>
    ((places % (1 <<< size) != 0) :: found, places >>> size)) ([], places)).1.reverse

end Page
end ConstraintTree.Pattern
