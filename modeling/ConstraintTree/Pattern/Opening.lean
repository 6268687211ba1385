import ConstraintTree.Pattern.Regular

/-!
Openings of matches: sequences of bytes, with one of which every match begins. Where an opening is
the whole match each time, a text is searched for the openings alone, and no machine is needed.
-/
namespace ConstraintTree.Pattern

namespace ByteRank

/-- How common the bytes below 0xc0 are in texts: the most common ones have the highest rank. -/
def ranks : List Nat :=
  [55, 52, 51, 50, 49, 48, 47, 46, 45, 103, 242, 66, 67, 229, 44, 43, 42, 41, 40, 39, 38, 37, 36,
    35, 34, 33, 56, 32, 31, 30, 29, 28, 255, 148, 164, 149, 136, 160, 155, 173, 221, 222, 134,
    122, 232, 202, 215, 224, 208, 220, 204, 187, 183, 179, 177, 168, 178, 200, 226, 195, 154,
    184, 174, 126, 120, 191, 157, 194, 170, 189, 162, 161, 150, 193, 142, 137, 171, 176, 185,
    167, 186, 112, 175, 192, 188, 156, 140, 143, 123, 133, 128, 147, 138, 146, 114, 223, 151,
    249, 216, 238, 236, 253, 227, 218, 230, 247, 135, 180, 241, 233, 246, 244, 231, 139, 245,
    243, 251, 235, 201, 196, 240, 214, 152, 182, 205, 181, 127, 27, 212, 211, 210, 213, 228, 197,
    169, 159, 131, 172, 105, 80, 98, 96, 97, 81, 207, 145, 116, 115, 144, 130, 153, 121, 107,
    132, 109, 110, 124, 111, 82, 108, 118, 141, 113, 129, 119, 125, 165, 117, 92, 106, 83, 72,
    99, 93, 65, 79, 166, 237, 163, 199, 190, 225, 209, 203, 198, 217, 219, 206, 234, 248, 158,
    239]

/-- Bytes from 0xc0 on, with which the encodings of characters outside ASCII begin, have the highest
rank. -/
def rank (byte : UInt8) : Nat := ranks.getD byte.toNat 255

end ByteRank

structure Opening where
  bytes : ByteArray
  /-- The match ends with the opening. -/
  whole : Bool
  deriving Inhabited

/-- Openings in the order in which matches are preferred, or anything. -/
abbrev Openings := Option (List Opening)

namespace Opening

def setLimit : Nat := 10

def roundLimit : Nat := 10

def lengthLimit : Nat := 100

def countLimit : Nat := 250

/-- What can be an opening only. -/
def inPart (opening : Opening) : Opening := { opening with whole := false }

def shortened (length : Nat) (opening : Opening) : Opening :=
  if opening.bytes.size ≤ length then opening
  else { bytes := opening.bytes.extract 0 length, whole := false }

def followedBy (opening further : Opening) : Opening :=
  { bytes := opening.bytes ++ further.bytes, whole := further.whole }

/-- Neighbours with equal bytes are one, which is whole if all of them are. -/
def deduplicated (openings : List Opening) : List Opening :=
  openings.foldr (fun opening further =>
    match further with
    | next :: rest =>
      if opening.bytes == next.bytes then { next with whole := opening.whole && next.whole } :: rest
      else opening :: next :: rest
    | [] => [opening]) []

def beginsWith (opening earlier : Opening) : Bool :=
  earlier.bytes.size ≤ opening.bytes.size &&
    opening.bytes.extract 0 earlier.bytes.size == earlier.bytes

def minimal (openings : List Opening) : List Opening :=
  (openings.foldl (fun kept opening =>
    if kept.any opening.beginsWith then kept else opening :: kept) []).reverse

def sharedLength (openings : List Opening) : Nat :=
  match openings.map fun opening => opening.bytes.toList with
  | [] => 0
  | first :: others =>
    others.foldl (fun length bytes =>
      (((bytes.zip first).take length).takeWhile fun (byte, other) => byte == other).length)
      first.length

def leastSize? (openings : List Opening) : Option Nat :=
  (openings.map fun opening => opening.bytes.size).min?

end Opening

namespace Openings

open Opening

def nothing : Openings := some [{ bytes := .empty, whole := true }]

def anything : Openings := none

/-- None can be continued. -/
def isClosed (openings : Openings) : Bool := openings.all fun openings => !openings.any whole

def inPart (openings : Openings) : Openings := openings.map fun openings => openings.map .inPart

def ofWord (chars : List Char) : Openings :=
  let bytes := (String.ofList (chars.take (lengthLimit + 1))).toUTF8
  some [({ bytes, whole := true } : Opening).shortened lengthLimit]

def ofSet (set : Runs) : Openings :=
  if setLimit < set.size then anything
  else
    some <| set.flatMap fun (first, last) =>
      (List.range' first (last + 1 - first)).map fun point =>
        { bytes := (Char.ofNat point).toString.toUTF8, whole := true }

/-- Each whole one is continued by each of the others. Too many continuations are anything. -/
def followedBy (openings further : Openings) : Openings :=
  match openings with
  | none => none
  | some openings =>
    match further.filter fun further => openings.length * further.length ≤ countLimit with
    | none =>
      if leastSize? openings = some 0 then anything else some (openings.map .inPart)
    | some further =>
      let continued := openings.flatMap fun opening =>
        if opening.whole then further.map opening.followedBy else [opening]
      some ((deduplicated continued).map (shortened lengthLimit))

/-- The ones or the others. If they are too many, only their first bytes are kept, and if there are
still too many, they are anything. -/
def or (openings others : Openings) : Openings :=
  match openings, others with
  | some openings, some others =>
    let trim := fun openings => deduplicated (openings.map (shortened 4))
    let (openings, others) := if openings.length + others.length ≤ countLimit
      then (openings, others) else (trim openings, trim others)
    if openings.length + others.length ≤ countLimit then some (deduplicated (openings ++ others))
    else anything
  | _, _ => anything

def rounds (round : Openings) : Nat → Openings → Openings
  | 0, openings => openings
  | count + 1, openings =>
    if openings.isClosed then openings else rounds round count (openings.followedBy round)

/-- Lengths and numbers of openings: where there are more, they are cut to the length. -/
def cuts : List (Nat × Nat) := [(5, 10), (4, 10), (3, 64), (2, 64), (1, 10)]

def cut (openings : List Opening) : List (Nat × Nat) → List Opening
  | [] => openings
  | (length, limit) :: further =>
    if openings.length ≤ limit then openings
    else cut (minimal (openings.map (shortened length))) further

def isCommon (opening : Opening) : Bool :=
  match opening.bytes.toList with
  | [] => true
  | [byte] => 250 ≤ ByteRank.rank byte
  | _ => false

/-- Shorter or fewer openings, unless these are better. -/
def sifted (openings : List Opening) : Openings :=
  let few := cut openings cuts
  let tooCommon := few.any isCommon
  if openings.all whole then
    if tooCommon ∨ (leastSize? few).all (· ≤ 2) ∨ 64 < few.length then some openings
    else some few
  else if tooCommon then anything
  else some few

/-- The openings to search for. A rare byte with which all begin is enough, and so is a long common
beginning. -/
def settled (openings : List Opening) : Openings :=
  if leastSize? openings = some 0 then anything
  else
    let minimal := minimal openings
    let shared := sharedLength minimal
    let first := (minimal.head?.bind fun opening => opening.bytes[0]?).getD 0
    if 1 < openings.length ∧ 1 ≤ shared ∧ shared ≤ 3 ∧ ByteRank.rank first < 200 then
      some (deduplicated (minimal.map (shortened 1)))
    else
      let quick := minimal.all whole && minimal.length ≤ 16
      if 4 < shared ∨ (1 < shared ∧ !quick) then
        sifted (deduplicated (minimal.map (shortened shared)))
      else sifted minimal

end Openings

namespace Regular

mutual

def openings : Regular → Openings
  | .empty | .look _ => .nothing
  | .word chars => .ofWord chars
  | .oneOf _ set => .ofSet set
  | .sequence items => openingsOfRow .nothing items
  | .choice branches => openingsOfAny (some []) branches
  | .repeated least most greedy body =>
    if least = 0 then
      let once := if most = some 1 then body.openings else body.openings.inPart
      if greedy then once.or .nothing else .or .nothing once
    else
      let openings := Openings.rounds body.openings (min least Opening.roundLimit) .nothing
      if most = some least ∧ least ≤ Opening.roundLimit then openings else openings.inPart
  | .group body => body.openings

/-- The openings of a row behind those of what lies in front of it. -/
def openingsOfRow (before : Openings) : List Regular → Openings
  | [] => before
  | item :: rest =>
    if before.isClosed then before else openingsOfRow (before.followedBy item.openings) rest

/-- The openings of branches or those of the branches in front of them. -/
def openingsOfAny (before : Openings) : List Regular → Openings
  | [] => before
  | branch :: rest =>
    if before.isNone then before else openingsOfAny (before.or branch.openings) rest

end

def isListed (sought : Regular) : Bool :=
  if sought.isWatchful then false
  else
    match sought.openings.bind fun openings => Openings.settled (Opening.deduplicated openings) with
    | none => false
    | some openings =>
      openings.all Opening.whole && !openings.isEmpty &&
        openings.all fun opening => opening.bytes.size ≠ 0

end Regular
end ConstraintTree.Pattern
