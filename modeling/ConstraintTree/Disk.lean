import ConstraintTree.Snapshot.Continuation
import ConstraintTree.Snapshot.Decoding

/-!
Files as contents by their paths, and what programs ask of them. A program says what it wants of a file
and what it makes of the result; it is up to the system whether it lets the program have it.
-/
namespace ConstraintTree

inductive FileUse (π α : Type) where
  | none (result : α)
  | reading (path : π) (next : Except FileFault Bytes → α)
  | writing (path : π) (content : Bytes) (next : Except FileFault Unit → α)

/-- The purpose for which a path is opened. A file that is written need not exist. -/
inductive Access where
  | reading
  | writing
  deriving DecidableEq, Repr, Inhabited

namespace FileUse

def map (change : α → β) : FileUse π α → FileUse π β
  | .none result => .none (change result)
  | .reading path next => .reading path fun content => change (next content)
  | .writing path content next => .writing path content fun written => change (next written)

/-- What comes of a use that the system refuses. -/
def refused (fault : FileFault) : FileUse π α → α
  | .none result => result
  | .reading _ next => next (.error fault)
  | .writing _ _ next => next (.error fault)

def follow (locate : Access → π → Except FileFault κ) : FileUse π α → FileUse κ α
  | .none result => .none result
  | .reading path next =>
    match locate .reading path with
    | .ok file => .reading file next
    | .error fault => .none (next (.error fault))
  | .writing path content next =>
    match locate .writing path with
    | .ok file => .writing file content next
    | .error fault => .none (next (.error fault))

end FileUse

structure Disk (π : Type) where
  content : π → Option Bytes := fun _ => none

namespace Disk

def read (disk : Disk π) (path : π) : Except FileFault Bytes :=
  match disk.content path with
  | some content => .ok content
  | none => .error .notFound

variable [DecidableEq π]

/-- Writing replaces the whole content. -/
def put (disk : Disk π) (path : π) (content : Bytes) : Disk π where
  content other := if other = path then some content else disk.content other

/-- The result of a use and the files afterwards. A use that the system refuses, for whatever reason,
changes nothing. -/
def serve (disk : Disk π) (refusal : Option FileFault) (use : FileUse π α) : α × Disk π :=
  match refusal, use with
  | some fault, use => (use.refused fault, disk)
  | none, .none result => (result, disk)
  | none, .reading path next => (next (disk.read path), disk)
  | none, .writing path content next => (next (.ok ()), disk.put path content)

end Disk

namespace Snapshot

/-- Stores a snapshot. One that cannot be encoded is refused before a file is touched. -/
def save (path : π) (snapshot : Snapshot) : FileUse π (Except TreeError Unit) :=
  match snapshot.encode with
  | .error error => .none (.error error)
  | .ok bytes => .writing path bytes fun written => written.mapError TreeError.file

def load (path : π) : FileUse π (Except TreeError Snapshot) := .reading path ofFile

end Snapshot
end ConstraintTree
