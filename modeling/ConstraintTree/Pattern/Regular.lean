import ConstraintTree.Pattern.Spot
import ConstraintTree.Text.Runs

namespace ConstraintTree.Pattern

inductive Regular where
  | empty
  /-- At least one character. -/
  | word (chars : List Char)
  /-- One character out of a set, which may have been given as a set of bytes. -/
  | oneOf (inBytes : Bool) (set : Runs)
  | look (condition : Look)
  | sequence (items : List Regular)
  | choice (branches : List Regular)
  | repeated (least : Nat) (most : Option Nat) (greedy : Bool) (body : Regular)
  /-- A group matches what its body does, but its ends are remembered. -/
  | group (body : Regular)
  deriving Repr, Inhabited

namespace Regular

def never : Regular := .oneOf true []

def ofSet (inBytes : Bool) (set : Runs) : Regular :=
  if set.isEmpty then never
  else
    match Runs.single? set with
    | some char => .word [char]
    | none => .oneOf inBytes set

mutual

def isZeroWidth : Regular → Bool
  | .empty | .look _ => true
  | .word _ | .oneOf .. => false
  | .sequence items => allZeroWidth items
  | .choice branches => allZeroWidth branches
  | .repeated _ _ _ body | .group body => body.isZeroWidth

def allZeroWidth : List Regular → Bool
  | [] => true
  | item :: rest => item.isZeroWidth && allZeroWidth rest

end

/-- An expression, repeated. To repeat what takes no character more than once adds nothing. -/
def times (body : Regular) (least : Nat) (most : Option Nat) (greedy : Bool) : Regular :=
  let (least, most) := if body.isZeroWidth then (min least 1, some (min (most.getD 1) 1))
    else (least, most)
  if most = some 0 then .empty
  else if least = 1 ∧ most = some 1 then body
  else .repeated least most greedy body

/-- An item in front of a row. Words that meet become one. -/
def glue : Regular → List Regular → List Regular
  | .empty, row => row
  | .word chars, .word further :: row => .word (chars ++ further) :: row
  | item, row => item :: row

def ofRow : List Regular → Regular
  | [] => .empty
  | [only] => only
  | items => .sequence items

def join (items : List Regular) : Regular :=
  ofRow (items.foldr (fun item row =>
    match item with
    | .sequence inner => inner.foldr glue row
    | _ => glue item row) [])

mutual

/-- Two expressions are written alike. What different groups remember is never alike. -/
def isAlike : Regular → Regular → Bool
  | .empty, .empty => true
  | .word chars, .word others => chars = others
  | .oneOf inBytes set, .oneOf alsoBytes other => inBytes = alsoBytes && set = other
  | .look condition, .look other => condition = other
  | .sequence items, .sequence others => areAlike items others
  | .choice branches, .choice others => areAlike branches others
  | .repeated least most greedy body, .repeated least' most' greedy' other =>
    least = least' && most = most' && greedy = greedy' && body.isAlike other
  | _, _ => false

def areAlike : List Regular → List Regular → Bool
  | [], [] => true
  | item :: items, other :: others => item.isAlike other && areAlike items others
  | _, _ => false

end

def branches : Regular → List Regular
  | .choice branches => branches
  | alone => [alone]

def char? : Regular → Option Char
  | .word [char] => some char
  | _ => none

def set? : Regular → Option Runs
  | .oneOf _ set => some set
  | _ => none

/-- The set of characters that alternatives are, if all are single characters or all are sets. -/
def commonSet? (branches : List Regular) : Option Runs :=
  let chars := branches.filterMap char?
  let sets := branches.filterMap set?
  if chars.length = branches.length then
    some (Runs.ofList (chars.map fun char => (char.toNat, char.toNat)))
  else if sets.length = branches.length then some (Runs.ofList sets.flatten)
  else none

def eitherOf (expressions : List Regular) : Regular :=
  match expressions.flatMap branches with
  | [] => never
  | [only] => only
  | alternatives =>
    match commonSet? alternatives with
    | some set => ofSet false set
    | none => .choice alternatives

def sharedLength (count : Nat) : List Regular → List Regular → Nat
  | item :: items, other :: others =>
    if item.isAlike other then sharedLength (count + 1) items others else count
  | _, _ => count

def row? : Regular → Option (List Regular)
  | .sequence items => some items
  | _ => none

/-- Alternatives that are rows and begin alike, with the common items in front of them. The rests
begin alike no more. -/
def liftShared (alternatives : List Regular) : Regular :=
  let rows := alternatives.filterMap row?
  match rows with
  | [] => .choice alternatives
  | first :: others =>
    if rows.length ≠ alternatives.length then .choice alternatives
    else
      let shared := others.foldl (fun shared row => shared.take (sharedLength 0 shared row)) first
      if shared.isEmpty then .choice alternatives
      else
        let rests := rows.map fun row => ofRow (row.drop shared.length)
        join (shared ++ [eitherOf rests])

/-- One of several expressions, as short as it gets. -/
def anyOf (expressions : List Regular) : Regular :=
  match eitherOf expressions with
  | .choice alternatives => liftShared alternatives
  | other => other

mutual

def hasAnyScript : Regular → Bool
  | .empty | .word _ | .oneOf .. => false
  | .look condition => condition = .anyScript
  | .sequence items => someHasAnyScript items
  | .choice branches => someHasAnyScript branches
  | .repeated _ _ _ body | .group body => body.hasAnyScript

def someHasAnyScript : List Regular → Bool
  | [] => false
  | item :: rest => item.hasAnyScript || someHasAnyScript rest

end

mutual

/-- The expression looks around or remembers where a part of it has matched. -/
def isWatchful : Regular → Bool
  | .empty | .word _ | .oneOf .. => false
  | .look _ | .group _ => true
  | .sequence items => someIsWatchful items
  | .choice branches => someIsWatchful branches
  | .repeated _ _ _ body => body.isWatchful

def someIsWatchful : List Regular → Bool
  | [] => false
  | item :: rest => item.isWatchful || someIsWatchful rest

end

mutual

/-- Number of characters in the shortest match. It is not known of what contains an empty set, not
even of a choice. -/
def shortest? : Regular → Option Nat
  | .empty | .look _ => some 0
  | .word chars => some chars.length
  | .oneOf _ set => if set.isEmpty then none else some 1
  | .sequence items => shortestOfAll? 0 items
  | .choice branches => shortestOfAny? none branches
  | .repeated least _ _ body => body.shortest?.map (least * ·)
  | .group body => body.shortest?

def shortestOfAll? (before : Nat) : List Regular → Option Nat
  | [] => some before
  | item :: rest =>
    match item.shortest? with
    | none => none
    | some length => shortestOfAll? (before + length) rest

def shortestOfAny? (least : Option Nat) : List Regular → Option Nat
  | [] => least
  | branch :: rest =>
    match branch.shortest? with
    | none => none
    | some length => shortestOfAny? (some (min (least.getD length) length)) rest

end

/-- Every match takes a character. -/
def takesCharacter (sought : Regular) : Bool := sought.shortest?.any (0 < ·)

mutual

/-- Matches are seen to begin where the text does. -/
def opensText : Regular → Bool
  | .look condition => condition = .textStart
  | .empty | .word _ | .oneOf .. => false
  | .sequence items => rowOpensText items
  | .choice branches => allOpenText branches
  | .repeated least _ _ body => least ≠ 0 && body.opensText
  | .group body => body.opensText

def rowOpensText : List Regular → Bool
  | [] => false
  | item :: rest => item.opensText || (item.isZeroWidth && rowOpensText rest)

def allOpenText : List Regular → Bool
  | [] => true
  | branch :: rest => branch.opensText && allOpenText rest

end

mutual

/-- Matches are seen to end where the text does. -/
def closesText : Regular → Bool
  | .look condition => condition = .textEnd
  | .empty | .word _ | .oneOf .. => false
  | .sequence items => rowClosesText false items
  | .choice branches => allCloseText branches
  | .repeated least _ _ body => least ≠ 0 && body.closesText
  | .group body => body.closesText

/-- A row, when it is known whether what lies in front of it closes the text. -/
def rowClosesText (closed : Bool) : List Regular → Bool
  | [] => closed
  | item :: rest => rowClosesText (item.closesText || (item.isZeroWidth && closed)) rest

def allCloseText : List Regular → Bool
  | [] => true
  | branch :: rest => branch.closesText && allCloseText rest

end

end Regular
end ConstraintTree.Pattern
