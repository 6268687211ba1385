import ConstraintTree.Disk

/-!
A file system with directories. A path is walked step by step from the working directory or from the
root; where it leads to a file that can be opened, the disk serves what is asked of it.
-/
namespace ConstraintTree

/-- A directory by the names that lead to it from the root, the innermost first. -/
abbrev Folder := List String

structure Location where
  folder : Folder
  name : String
  deriving DecidableEq, Repr, Inhabited

namespace Location

/-- The directory that stands at a location, if one does. -/
def asFolder (location : Location) : Folder := location.name :: location.folder

def nameLimit : Nat := 255

def isTooLong (location : Location) : Bool := location.name.utf8ByteSize > nameLimit

end Location

structure Path where
  rooted : Bool
  steps : List String
  slashed : Bool
  deriving DecidableEq, Repr, Inhabited

namespace Path

/-- Least number of bytes that is too much for a path. -/
def limit : Nat := 4096

/-- Reads a path: repeated slashes count once, and one in front starts at the root. -/
def ofText (text : String) : Except FileFault Path :=
  let chars := text.toList
  if chars.contains '\x00' then .error .nullInName
  else if chars.isEmpty then .error .notFound
  else if limit ≤ text.utf8ByteSize then .error .nameTooLong
  else .ok {
    rooted := chars.head? == some '/'
    steps := ((chars.splitOn '/').filter fun step => !step.isEmpty).map String.ofList
    slashed := chars.getLast? == some '/' }

end Path

structure FileSystem where
  working : Folder := ["work"]
  /-- Directories besides the working directory and those around it. -/
  folders : List Folder := []
  /-- Why a file must not be opened, such as for want of a permission. -/
  forbidden : Access → Location → Option FileFault := fun _ _ => none
  disk : Disk Location := {}

namespace FileSystem

def isFolder (system : FileSystem) (folder : Folder) : Bool :=
  folder.isSuffixOf system.working || system.folders.contains folder

/-- Why a path does not go on behind a name that is none of a directory. -/
def impasse (system : FileSystem) (location : Location) : FileFault :=
  if location.isTooLong then .nameTooLong
  else if (system.disk.content location).isSome then .notDirectory
  else .notFound

/-- Opens a location for a purpose. Only a directory has a slash behind it. -/
def arrive (system : FileSystem) (access : Access) (slashed : Bool) (location : Location) :
    Except FileFault Location :=
  if system.isFolder location.asFolder then .error .isDirectory
  else if slashed then
    match access with
    | .reading => .error (system.impasse location)
    | .writing => .error .isDirectory
  else if location.isTooLong then .error .nameTooLong
  else
    match system.forbidden access location with
    | some fault => .error fault
    | none => .ok location

/-- Walks from a directory. The root is the directory around itself. -/
def walk (system : FileSystem) (access : Access) (slashed : Bool) (folder : Folder) :
    List String → Except FileFault Location
  | [] => .error .isDirectory
  | "." :: further => walk system access slashed folder further
  | ".." :: further => walk system access slashed folder.tail further
  | [name] => system.arrive access slashed ⟨folder, name⟩
  | name :: next :: further =>
    if system.isFolder (name :: folder) then
      walk system access slashed (name :: folder) (next :: further)
    else .error (system.impasse ⟨folder, name⟩)

def locate (system : FileSystem) (access : Access) (text : String) : Except FileFault Location :=
  match Path.ofText text with
  | .error fault => .error fault
  | .ok path =>
    system.walk access path.slashed (if path.rooted then [] else system.working) path.steps

/-- The result of a use and the files afterwards. A path that leads to no file is refused. -/
def serve (system : FileSystem) (use : FileUse String α) : α × FileSystem :=
  let (result, disk) := system.disk.serve none (use.follow system.locate)
  (result, { system with disk })

def read (system : FileSystem) (path : String) : Except FileFault Bytes :=
  (system.serve (.reading path id)).1

def write (system : FileSystem) (path : String) (content : Bytes) :
    Except FileFault Unit × FileSystem := system.serve (.writing path content id)

def save (system : FileSystem) (path : String) (snapshot : Snapshot) :
    Except TreeError Unit × FileSystem := system.serve (snapshot.save path)

def load (system : FileSystem) (path : String) : Except TreeError Snapshot :=
  (system.serve (Snapshot.load path)).1

end FileSystem
end ConstraintTree
