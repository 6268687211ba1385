namespace ConstraintTree

/-- Bounds of runs, both included. A set in normal form lists its runs in ascending order, and a gap
is left between any two of them. -/
abbrev Runs := List (Nat × Nat)

namespace Runs

def hasPoint (point : Nat) : Runs → Bool
  | [] => false
  | (first, last) :: rest => first ≤ point && (point ≤ last || hasPoint point rest)

def contains (runs : Runs) (char : Char) : Bool := runs.hasPoint char.toNat

/-- Joins runs in ascending order where they overlap or touch. The first one is still open, and the
joined ones are listed from the last one on. -/
def joined (first last : Nat) (done : Runs) : Runs → Runs
  | [] => ((first, last) :: done).reverse
  | (low, high) :: rest =>
    if low ≤ last + 1 then joined first (max last high) done rest
    else joined low high ((first, last) :: done) rest

def ofList (runs : List (Nat × Nat)) : Runs :=
  match runs.mergeSort fun left right => left.1 ≤ right.1 with
  | [] => []
  | (first, last) :: rest => joined first last [] rest

def union (left right : Runs) : Runs := ofList (left ++ right)

/-- The first character behind a code point. The surrogates are none. -/
def next (point : Nat) : Nat := if point = 0xd7ff then 0xe000 else point + 1

def previous (point : Nat) : Nat := if point = 0xe000 then 0xd7ff else point - 1

/-- What lies between two runs. If only the surrogates divide them, nothing does; there the next
character lies behind the previous one, and the run of both is taken. -/
def between : (Nat × Nat) × (Nat × Nat) → Nat × Nat
  | ((_, high), (low, _)) => (min (next high) (previous low), max (next high) (previous low))

/-- What is outside a set in normal form, up to a last code point. -/
def complement (last : Nat) (runs : Runs) : Runs :=
  match runs.head?, runs.getLast? with
  | some (low, _), some (_, high) =>
    (if low = 0 then [] else [(0, previous low)]) ++ (runs.zip runs.tail).map between ++
      if high < last then [(next high, last)] else []
  | _, _ => [(0, last)]

/-- What two sets in normal form have in common, behind what has been found, the last run first. The
steps are bounded by a count, which is sufficient from the number of all runs on. -/
def common (found : Runs) : Nat → Runs → Runs → Runs
  | steps + 1, (first, last) :: left, (low, high) :: right =>
    let found :=
      if max first low ≤ min last high then (max first low, min last high) :: found else found
    if last < high then common found steps left ((low, high) :: right)
    else common found steps ((first, last) :: left) right
  | _, _, _ => found.reverse

def intersection (left right : Runs) : Runs := common [] (left.length + right.length) left right

def withoutSurrogates : Nat × Nat → Option (Nat × Nat)
  | (first, last) =>
    let first := if 0xd800 ≤ first ∧ first ≤ 0xdfff then 0xe000 else first
    let last := if 0xd800 ≤ last ∧ last ≤ 0xdfff then 0xd7ff else last
    if first ≤ last then some (first, last) else none

/-- All code points up to a last one that are not in a set in normal form. -/
def gaps (last : Nat) (runs : Runs) : Runs :=
  let starts := 0 :: runs.map fun run => run.2 + 1
  let stops := runs.map Prod.fst ++ [last + 1]
  (starts.zip stops).filterMap fun (start, stop) =>
    if start < stop then some (start, stop - 1) else none

/-- What one set in normal form has and another one does not. -/
def difference (last : Nat) (left right : Runs) : Runs :=
  (left.intersection (right.gaps last)).filterMap withoutSurrogates

def single? : Runs → Option Char
  | [(first, last)] => if first = last then some (Char.ofNat first) else none
  | _ => none

def upTo (last : Nat) (runs : Runs) : Bool := runs.all fun run => run.2 ≤ last

def size (runs : Runs) : Nat := runs.foldl (fun count (first, last) => count + (last + 1 - first)) 0

end Runs

/-! Blank characters. -/

namespace Blank

/-- Bounds of the runs of blank characters, both included, in ascending order (Unicode 17). -/
def runs : Runs :=
  [(0x9, 0xd), (0x20, 0x20), (0x85, 0x85), (0xa0, 0xa0), (0x1680, 0x1680), (0x2000, 0x200a),
    (0x2028, 0x2029), (0x202f, 0x202f), (0x205f, 0x205f), (0x3000, 0x3000)]

def contains (char : Char) : Bool := Runs.contains runs char

def trim (text : String) : String :=
  String.ofList ((text.toList.dropWhile contains).reverse.dropWhile contains).reverse

end Blank

end ConstraintTree
