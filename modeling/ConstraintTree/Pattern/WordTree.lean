import ConstraintTree.Pattern.Tally

namespace ConstraintTree.Pattern

/-- What is left of the words that lead through a state, in their order. -/
abbrev WordTree := List (List UInt8)

namespace WordTree

/-- Puts the open group of rests, of which the last one comes first, behind the finished groups. -/
def closed (finished : List WordTree) (rests : WordTree) : List WordTree := rests.reverse :: finished

/-- The rests in groups that ended words divide. Only the first word that ends in front of all rests
divides. -/
def groupsFrom (finished : List WordTree) (rests : WordTree) : WordTree → List WordTree
  | [] => (closed finished rests).reverse
  | [] :: further =>
    if rests.isEmpty ∧ finished = [[]] then groupsFrom finished rests further
    else groupsFrom (closed finished rests) [] further
  | rest :: further => groupsFrom finished (rest :: rests) further

def groups (tree : WordTree) : List WordTree := groupsFrom [] [] tree

def branches (group : WordTree) : List WordTree :=
  let sorted := group.mergeSort fun left right => decide (left.headD 0 ≤ right.headD 0)
  (sorted.splitBy fun left right => left.head? == right.head?).map fun alike => alike.map List.tail

def isLeaf (tree : WordTree) : Bool := tree.all List.isEmpty

def growRoot (tally : Tally) (tree : WordTree) : Tally × List WordTree :=
  let groups := tree.groups
  let branching := (groups.filter fun group => !group.isEmpty).map branches
  let ways := branching.map fun trees =>
    if trees.length = 1 then 0 else Tally.byteWay * trees.length
  let free := Tally.freeWay * (branching.length + groups.length - 1)
  let tally := tally.add (branching.length + 1) (ways.foldl (· + ·) free)
  (tally, branching.flatten.filter fun tree => !tree.isLeaf)

/-- Adds the states for trees, level by level up to a depth. -/
def growLevels : Nat → List WordTree → Tally → Tally
  | 0, _, tally => tally
  | depth + 1, trees, tally =>
    if trees.isEmpty then tally
    else
      let (tally, further) := trees.foldl (fun (tally, further) tree =>
        let (tally, behind) := growRoot tally tree
        (tally, behind ++ further)) (tally, [])
      growLevels depth further tally

/-- Adds the states that read one of the words, and the one where all of them end. -/
def grow (tree : WordTree) (tally : Tally) : Tally :=
  growLevels (tree.foldl (fun depth word => max depth word.length) 0 + 1) [tree] (tally.add 1)

end WordTree
end ConstraintTree.Pattern
