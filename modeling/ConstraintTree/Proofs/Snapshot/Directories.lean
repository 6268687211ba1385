import ConstraintTree.FileSystem
import ConstraintTree.Proofs.Snapshot.Files

namespace ConstraintTree

namespace FileCall

def access : FileCall π → Access
  | .save .. => .writing
  | .load _ => .reading

def path : FileCall π → π
  | .save path _ => path
  | .load path => path

/-- The same call for another path. -/
def toward (path : κ) : FileCall π → FileCall κ
  | .save _ items => .save path items
  | .load _ => .load path

end FileCall

namespace FileSystem

variable {system : FileSystem}

/-- Names that lead from one directory to another, by directories that there are. -/
inductive Leads (system : FileSystem) : Folder → List String → Folder → Prop
  | here : Leads system folder [] folder
  | stay (further : Leads system folder names last) : Leads system folder ("." :: names) last
  | out (further : Leads system folder.tail names last) : Leads system folder (".." :: names) last
  | into (still : name ≠ ".") (inside : name ≠ "..") (there : system.isFolder (name :: folder))
    (further : Leads system (name :: folder) names last) :
    Leads system folder (name :: names) last

private theorem walk_of_leads (leads : system.Leads folder names last) (more : rest ≠ []) :
    system.walk access slashed folder (names ++ rest) = system.walk access slashed last rest := by
  induction leads with
  | here => rfl
  | stay further ih => rw [List.cons_append, walk, ih]
  | out further ih => rw [List.cons_append, walk, ih]
  | @into name folder names last still inside there further ih =>
    obtain ⟨next, others, continued⟩ : ∃ next others, names ++ rest = next :: others :=
      List.exists_cons_of_ne_nil (List.append_ne_nil_of_right_ne_nil names more)
    rw [List.cons_append, ← ih, continued, walk]
    · exact if_pos there
    · exact still
    · exact inside

private theorem walk_last (still : name ≠ ".") (inside : name ≠ "..") :
    system.walk access slashed folder [name] = system.arrive access slashed ⟨folder, name⟩ := by
  rw [walk]
  · exact still
  · exact inside

private theorem location_of_arrive (arrived : system.arrive access slashed location = .ok found) :
    found = location := by
  unfold arrive at arrived
  grind

/-- A walk ends at a location exactly if its steps lead to the directory there, and the last one is a
name by which a file in it can be opened. -/
theorem walk_eq_ok_iff :
    system.walk access slashed folder steps = .ok location ↔
      ∃ names, steps = names ++ [location.name] ∧ system.Leads folder names location.folder ∧
        location.name ≠ "." ∧ location.name ≠ ".." ∧
        system.arrive access slashed location = .ok location := by
  constructor
  · intro walked
    fun_induction walk system access slashed folder steps with
    | case1 => cases walked
    | case2 folder further ih =>
      obtain ⟨names, rfl, leads, opened⟩ := ih walked
      exact ⟨"." :: names, rfl, .stay leads, opened⟩
    | case3 folder further ih =>
      obtain ⟨names, rfl, leads, opened⟩ := ih walked
      exact ⟨".." :: names, rfl, .out leads, opened⟩
    | case4 folder name still inside =>
      obtain rfl := location_of_arrive walked
      exact ⟨[], rfl, .here, still, inside, walked⟩
    | case5 folder name next further still inside there ih =>
      obtain ⟨names, same, leads, opened⟩ := ih walked
      exact ⟨name :: names, by rw [same]; rfl, .into still inside there leads, opened⟩
    | case6 => cases walked
  · rintro ⟨names, rfl, leads, still, inside, opened⟩
    rw [walk_of_leads leads (by simp), walk_last still inside, opened]

/-- A file in a directory of a directory, reached in two ways. Another directory is not there. -/
example :
    let system : FileSystem := { folders := [["tmp"], ["d", "tmp"]] }
    let file : Location := ⟨["d", "tmp"], "trees.snap"⟩
    system.locate .writing "/tmp/d/trees.snap" = .ok file ∧
      system.locate .reading "../tmp/./d//trees.snap" = .ok file ∧
      system.locate .writing "/tmp/e/trees.snap" = .error .notFound :=
  ⟨rfl, rfl, rfl⟩

private theorem Leads.of_disk (leads : system.Leads folder names last) (disk : Disk Location) :
    FileSystem.Leads { system with disk } folder names last := by
  induction leads with
  | here => exact .here
  | stay further ih => exact .stay ih
  | out further ih => exact .out ih
  | into still inside there further ih => exact .into still inside there ih

private theorem arrive_of_disk (arrived : system.arrive access slashed location = .ok found)
    (disk : Disk Location) :
    FileSystem.arrive { system with disk } access slashed location = .ok found := by
  unfold arrive isFolder at arrived ⊢
  grind

/-- What the files hold decides at most why a path leads nowhere. -/
theorem locate_of_disk (located : system.locate access path = .ok location) (disk : Disk Location) :
    FileSystem.locate { system with disk } access path = .ok location := by
  unfold locate at located ⊢
  cases spelled : Path.ofText path with
  | error fault =>
    rw [spelled] at located
    cases located
  | ok way =>
    rw [spelled] at located
    obtain ⟨names, same, leads, still, inside, opened⟩ := walk_eq_ok_iff.mp located
    exact walk_eq_ok_iff.mpr
      ⟨names, same, leads.of_disk disk, still, inside, arrive_of_disk opened disk⟩

/-! Calls by paths are calls by locations, of which those whose paths lead nowhere are refused. -/

def admitted (system : FileSystem) (call : FileCall String) :
    FileCall Location × Option FileFault :=
  match system.locate call.access call.path with
  | .ok location => (call.toward location, none)
  | .error fault => (call.toward default, some fault)

def answer (system : FileSystem) : FileCall String → FileReply × FileSystem
  | .save path items =>
    let (outcome, after) := system.save path { items }
    (.saved outcome, after)
  | .load path =>
    let (outcome, after) := system.serve (Snapshot.load path)
    (.loaded outcome, after)

def answers (system : FileSystem) : List (FileCall String) → List FileReply
  | [] => []
  | call :: further =>
    let (reply, after) := system.answer call
    reply :: after.answers further

/-- The calls of a run as those by locations, each as the files stand when it is made. -/
def admissions (system : FileSystem) :
    List (FileCall String) → List (FileCall Location × Option FileFault)
  | [] => []
  | call :: further => system.admitted call :: (system.answer call).2.admissions further

private theorem answer_eq (system : FileSystem) (call : FileCall String) :
    let event := system.disk.event (system.admitted call).1 (system.admitted call).2
    system.answer call = (event.reply, { system with disk := event.after }) := by
  cases call with
  | load path =>
    cases located : system.locate .reading path <;>
      simp only [answer, serve, admitted, FileCall.access, FileCall.path, FileCall.toward, located,
        Snapshot.load, FileUse.follow, Disk.event, Disk.serve, FileUse.refused]
  | save path items =>
    cases encoded : Snapshot.encode { items } <;>
      cases located : system.locate .writing path <;>
      simp only [answer, save, serve, admitted, FileCall.access, FileCall.path, FileCall.toward, located,
        Snapshot.save, encoded, FileUse.follow, Disk.event, Disk.serve, FileUse.refused]

/-- The replies of a run are those of the disk at the locations that its paths lead to. -/
theorem answers_eq (system : FileSystem) (calls : List (FileCall String)) :
    system.answers calls = (system.disk.history (system.admissions calls)).map FileEvent.reply := by
  induction calls generalizing system with
  | nil => rfl
  | cons call further ih =>
    simp only [answers, admissions, Disk.history, answer_eq, ih, List.map_cons]

/-- What is saved at a path is loaded from it, if it leads to a file that can be opened for both. -/
theorem load_save (writable : system.locate .writing path = .ok location)
    (readable : system.locate .reading path = .ok location) (nonempty : items ≠ [])
    (few : Countable items.length) (storable : ∀ item ∈ items, item.Storable)
    (shallow : ∀ item ∈ items, item.depth ≤ Snapshot.maxNesting) :
    (system.save path { items }).2.load path = .ok { items } := by
  have saved : (system.save path { items }).2 =
      { system with disk := system.disk.put location (Snapshot.bytes { items }) } := by
    have written := congrArg Prod.snd (answer_eq system (.save path items))
    simpa [answer, admitted, FileCall.access, FileCall.path, FileCall.toward, writable, Disk.event,
      Disk.serve, Snapshot.save, Snapshot.encode, nonempty] using written
  rw [saved, load, serve, Snapshot.load, FileUse.follow, locate_of_disk readable]
  simp only [Disk.serve, Disk.read, Disk.content_put_same]
  have read := Snapshot.decode_shallow { items } rfl few storable [] nonempty shallow
  rwa [List.append_nil] at read

end FileSystem
end ConstraintTree
