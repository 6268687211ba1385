import ConstraintTree.Agreement
import ConstraintTree.ColumnCollector
import ConstraintTree.Rendering
import ConstraintTree.Snapshot.Continuation
import ConstraintTree.Snapshot.Decoding
import ConstraintTree.Validator

/-!
A workbench is a stack of trees together with the dialect in which they are shown. Its operations
combine, store and inspect trees; one that finds too few trees leaves the stack as it is.
-/
namespace ConstraintTree

structure Workbench where
  dialect : Dialect := {}
  /-- The top of the stack comes first. -/
  stack : List Item := []
  deriving Repr, Inhabited

/-- What storing and reading back the whole stack gives. -/
inductive RoundTrip where
  | unencodable (error : TreeError)
  | unreadable (size : Nat) (error : TreeError)
  | restored (size : Nat) (agrees : Bool)
  deriving Repr, Inhabited

namespace Workbench

def push (bench : Workbench) (item : Item) : Workbench :=
  { bench with stack := item :: bench.stack }

def duplicate (bench : Workbench) : Workbench :=
  match bench.stack with
  | top :: _ => bench.push top
  | [] => bench

def drop (bench : Workbench) : Workbench := { bench with stack := bench.stack.tail }

def swap (bench : Workbench) : Workbench :=
  match bench.stack with
  | top :: next :: rest => { bench with stack := next :: top :: rest }
  | _ => bench

/-- Replaces the topmost `count` trees by one built of them, the deepest first. -/
def combine [Monad m] (bench : Workbench) (count : Nat) (build : List Item → m Item) :
    m Workbench := do
  let built ← build (bench.stack.take count).reverse
  return { bench with stack := built :: bench.stack.drop count }

/-- Replaces the top of the stack by a tree built around it, again and again. -/
def wrap [Monad m] (bench : Workbench) (build : Item → m Item) : Nat → m Workbench
  | 0 => return bench
  | times + 1 =>
    match bench.stack with
    | top :: rest => do
      let built ← build top
      wrap { bench with stack := built :: rest } build times
    | [] => return bench

/-- Stores the stack as one snapshot, the bottom first, and continues with what is read back. -/
def roundTrip (bench : Workbench) : Workbench × RoundTrip :=
  let items := bench.stack.reverse
  match Snapshot.encode { items } with
  | .error error => (bench, .unencodable error)
  | .ok bytes =>
    match Snapshot.decode bytes with
    | .error error => (bench, .unreadable bytes.length error)
    | .ok restored =>
      ({ bench with stack := restored.items.reverse },
        .restored bytes.length (Item.allAgree restored.items items))

def show? (bench : Workbench) : Option (Item × Rendering) :=
  bench.stack.head?.map fun top => (top, top.render bench.dialect)

def agrees? (bench : Workbench) : Option Bool :=
  match bench.stack with
  | top :: next :: _ => some (top.agrees next)
  | _ => none

def columns? (bench : Workbench) : Option (List Column) :=
  match bench.stack with
  | .expression tree :: _ => some tree.columns
  | _ => none

end Workbench
end ConstraintTree
