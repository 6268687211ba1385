import ConstraintTree.TreeError
import ConstraintTree.Snapshot.Utf8
import ConstraintTree.Snapshot.Variant

/-!
Readers take values off the front of a byte string. A reader keeps track of the child fields that it
has open; how, and when it refuses to open another, is up to a nesting policy.
-/
namespace ConstraintTree

/-- Bookkeeping of open child fields. Entering one may be refused with the limit that it breaks. -/
structure Nesting (σ : Type) where
  enter : σ → Except Nat σ
  leave : σ → σ

namespace Nesting

/-- Counts the open fields and refuses to open more than the limit. -/
def limited (limit : Nat) : Nesting Nat where
  enter opened := if opened < limit then .ok (opened + 1) else .error limit
  leave opened := opened - 1

/-- Keeps no count and never refuses. -/
def unlimited : Nesting Unit where
  enter _ := .ok ()
  leave _ := ()

end Nesting

/-- What is left to read, and the state of the open fields. -/
structure Cursor (σ : Type) where
  rest : Bytes
  nesting : σ
  deriving Repr

/-- A reader yields a value or an error, and in both cases the cursor where it stopped. -/
abbrev Reader (σ : Type) := EStateM DecodeError (Cursor σ)

namespace Reader

variable {σ α : Type}

def take (count : Nat) (missing : DecodeError) : Reader σ Bytes := fun cursor =>
  match Bytes.split? count cursor.rest with
  | some (front, back) => .ok front { cursor with rest := back }
  | none => .error missing cursor

def nat (width : Nat) : Reader σ Nat := return Bytes.toNat (← take width .endOfInput)

def byte : Reader σ UInt8 := return UInt8.ofNat (← nat 1)

def variant [Listed α] : Reader σ α := do
  let index ← nat 4
  match (Listed.values : List α)[index]? with
  | some value => return value
  | none => throw (.unknownVariant index (Listed.values : List α).length)

def flag : Reader σ Bool := do
  match ← byte with
  | 0 => return false
  | 1 => return true
  | found => throw (.unknownFlag found)

def text : Reader σ String := do
  let length ← nat 8
  let content ← take length .endOfText
  match Utf8.decode content with
  | .ok text => return text
  | .error fault => throw (.malformedText fault)

def number : Reader σ Binary64 := return ⟨UInt64.ofNat (← nat 8)⟩

def option (value : Reader σ α) : Reader σ (Option α) := do
  match ← byte with
  | 0 => return none
  | 1 => return some (← value)
  | found => throw (.unknownPresence found)

/-- The given number of values, one after another. -/
def many (value : Reader σ α) : Nat → Reader σ (List α)
  | 0 => return []
  | count + 1 => do
    let head ← value
    let rest ← many value count
    return head :: rest

def list (value : Reader σ α) : Reader σ (List α) := do many value (← nat 8)

/-- A child field. It is opened before any of its bytes is read, and closed again however its
reading ends. -/
def field (nesting : Nesting σ) (child : Reader σ α) : Reader σ α := fun cursor =>
  match nesting.enter cursor.nesting with
  | .error limit => .error (.nestedTooDeep limit) cursor
  | .ok entered =>
    match child { cursor with nesting := entered } with
    | .ok value after => .ok value { after with nesting := nesting.leave after.nesting }
    | .error fault after => .error fault { after with nesting := nesting.leave after.nesting }

/-! One reader behind another. -/

theorem bind_of_ok {reader : Reader σ α} {next : α → Reader σ β}
    (read : reader cursor = .ok value after) : (reader >>= next) cursor = next value after := by
  change EStateM.bind reader next cursor = _
  rw [EStateM.bind, read]

theorem bind_of_error {reader : Reader σ α} {next : α → Reader σ β}
    (failed : reader cursor = .error fault after) :
    (reader >>= next) cursor = .error fault after := by
  change EStateM.bind reader next cursor = _
  rw [EStateM.bind, failed]

theorem ok_of_bind {reader : Reader σ α} {next : α → Reader σ β}
    (read : (reader >>= next) before = .ok value after) :
    ∃ found middle, reader before = .ok found middle ∧ next found middle = .ok value after := by
  cases first : reader before with
  | error fault middle =>
    rw [bind_of_error first] at read
    cases read
  | ok found middle =>
    rw [bind_of_ok first] at read
    exact ⟨found, middle, rfl, read⟩

theorem ok_of_pure {found value : α} {before after : Cursor σ}
    (read : (pure found : Reader σ α) before = .ok value after) : found = value ∧ before = after :=
  EStateM.Result.ok.inj read

end Reader
end ConstraintTree
