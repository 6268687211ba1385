import ConstraintTree.Pattern.Tally
import ConstraintTree.Text.Runs
import Std.Data.HashMap

namespace ConstraintTree.Pattern

/-- A table with a fixed number of slots. A key has one slot, and what is put there displaces what was
there before, so that only some of the entries are found again. -/
structure SlotTable where
  slots : UInt64
  entries : Std.HashMap UInt64 (List Nat × Nat) := {}

namespace SlotTable

def slot (table : SlotTable) (key : List Nat) : UInt64 :=
  key.foldl (fun hash number => (hash ^^^ number.toUInt64) * 1099511628211) 14695981039346656037 %
    table.slots

def get? (table : SlotTable) (key : List Nat) : Option Nat :=
  match table.entries.get? (table.slot key) with
  | some (owner, value) => if owner = key then some value else none
  | none => none

def insert (table : SlotTable) (key : List Nat) (value : Nat) : SlotTable :=
  { table with entries := table.entries.insert (table.slot key) (key, value) }

end SlotTable

/-- One range for each byte. Every choice of bytes from them encodes a character. -/
abbrev ByteRanges := List (Nat × Nat)

namespace ByteRanges

/-- Bounds of the code points whose encodings are equally long: the number of bytes behind the first
one, and the mark in that one. -/
def kinds : List (Nat × Nat × Nat × Nat) :=
  [(0, 0, 0, 0x7f), (1, 0xc0, 0x80, 0x7ff), (2, 0xe0, 0x800, 0xd7ff), (2, 0xe0, 0xe000, 0xffff),
    (3, 0xf0, 0x10000, 0x10ffff)]

def encode (mark : Nat) : Nat → Nat → List Nat
  | 0, point => [mark + point]
  | further + 1, point => encode mark further (point / 64) ++ [0x80 + point % 64]

/-- Splits a run where a block of one of the sizes, the smallest first, is not covered wholly. -/
def pieces (first last : Nat) : List Nat → List (Nat × Nat)
  | [] => [(first, last)]
  | size :: larger =>
    if first / size = last / size then [(first, last)]
    else
      let start := (first + size - 1) / size * size
      let stop := (last + 1) / size * size
      (if first < start then [(first, start - 1)] else []) ++
        (if start < stop then pieces start (stop - 1) larger else []) ++
        (if stop ≤ last then [(stop, last)] else [])

def blockSizes (further : Nat) : List Nat := [64, 4096, 262144].take further

def ofRuns (runs : Runs) : List ByteRanges :=
  runs.flatMap fun (first, last) => kinds.flatMap fun (further, mark, low, high) =>
    if max first low ≤ min last high then
      (pieces (max first low) (min last high) (blockSizes further)).map fun (first, last) =>
        (encode mark further first).zip (encode mark further last)
    else []

/-- A machine whose states are shared where they are found again. -/
structure Sharing where
  tally : Tally
  known : SlotTable

namespace Sharing

def state (sharing : Sharing) (key : List Nat) (ways : Nat) : Nat × Sharing :=
  match sharing.known.get? key with
  | some state => (state, sharing)
  | none =>
    let state := sharing.tally.states
    (state, { tally := sharing.tally.add 1 ways, known := sharing.known.insert key state })

/-- The state from which ranges are read up to a target. It is found again by its ways out, each of
which has a range and the state behind it. -/
def reader (target : Nat) : Nat → List ByteRanges → Sharing → Nat × Sharing
  | 0, _, sharing => (target, sharing)
  | bytes + 1, sequences, sharing =>
    let (key, sharing) := (sequences.splitBy fun left right => left.head? == right.head?).foldl
      (fun (key, sharing) alike =>
        match alike.flatMap (List.take 1) with
        | [] => (key, sharing)
        | (first, last) :: _ =>
          let rests := (alike.map List.tail).filter (!·.isEmpty)
          let (next, sharing) :=
            if rests.isEmpty then (target, sharing) else reader target bytes rests sharing
          (next :: last :: first :: key, sharing))
      ([], sharing)
    sharing.state key.reverse (Tally.byteWay * (key.length / 3))

/-- The states that read ranges from their last byte to the first one in front of a state. Each is
found again by the state in front of it and its range. -/
def readBack (sharing : Sharing) (front : Nat) (sequence : ByteRanges) : Sharing :=
  (sequence.foldl (fun (front, sharing) (first, last) => sharing.state [front, first, last] 0)
    (front, sharing)).2

end Sharing

def growForwards (sequences : List ByteRanges) (tally : Tally) : Tally :=
  let sharing : Sharing := { tally := tally.add 1, known := { slots := 10000 } }
  (Sharing.reader tally.states 4 sequences sharing).2.tally

def growBackwards (sequences : List ByteRanges) (tally : Tally) : Tally :=
  let sharing : Sharing :=
    { tally := tally.add 2 (Tally.freeWay * sequences.length), known := { slots := 1000 } }
  (sequences.foldl (fun sharing sequence => sharing.readBack (tally.states + 1) sequence)
    sharing).tally

end ByteRanges
end ConstraintTree.Pattern
