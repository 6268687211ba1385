import ConstraintTree.Disk
import ConstraintTree.Proofs.Snapshot.RoundTrip

/-!
Files as a store of snapshots. Whatever is saved and loaded in a row, at whatever paths, and whichever
of it the system refuses: what was last saved at a path is all that is there, and is what loading gives,
unless it nests too deep to be read. What is refused changes nothing.
-/
namespace ConstraintTree

namespace Disk

variable {π : Type} [DecidableEq π]

@[simp] theorem content_put_same (disk : Disk π) (path : π) (content : Bytes) :
    (disk.put path content).content path = some content := if_pos rfl

theorem content_put_other (disk : Disk π) (content : Bytes) {path other : π} (apart : other ≠ path) :
    (disk.put path content).content other = disk.content other := if_neg apart

/-- Saving fails on the spot where there are no items, is refused, or replaces the whole content. -/
theorem save_cases (disk : Disk π) (refusal : Option FileFault) (path : π) (items : List Item) :
    (items = [] ∧ disk.serve refusal (Snapshot.save path { items }) = (.error .emptySnapshot, disk)) ∨
      (items ≠ [] ∧ ∃ fault, refusal = some fault ∧
        disk.serve refusal (Snapshot.save path { items }) = (.error (.file fault), disk)) ∨
      (items ≠ [] ∧ refusal = none ∧ disk.serve refusal (Snapshot.save path { items }) =
        (.ok (), disk.put path (Snapshot.bytes { items }))) := by
  by_cases empty : items = []
  · subst empty
    left
    cases refusal <;> exact ⟨rfl, rfl⟩
  · have encoded : Snapshot.encode { items } = .ok (Snapshot.bytes { items }) := by
      simp [Snapshot.encode, empty]
    right
    cases refusal with
    | some fault =>
      refine .inl ⟨empty, fault, rfl, ?_⟩
      simp only [Snapshot.save, encoded]
      rfl
    | none =>
      refine .inr ⟨empty, rfl, ?_⟩
      simp only [Snapshot.save, encoded]
      rfl

end Disk

/-! Runs of calls, and what came of each. -/

inductive FileCall (π : Type) where
  | save (path : π) (items : List Item)
  | load (path : π)

inductive FileReply where
  | saved (outcome : Except TreeError Unit)
  | loaded (outcome : Except TreeError Snapshot)

/-- A call, the reason if the system refuses it, the reply, and the files before and after. -/
structure FileEvent (π : Type) where
  before : Disk π
  call : FileCall π
  refusal : Option FileFault
  reply : FileReply
  after : Disk π

/-- Calls that save only items of which all texts and lists can be counted. -/
def FileCall.Storable : FileCall π → Prop
  | .save _ items => Countable items.length ∧ ∀ item ∈ items, item.Storable
  | .load _ => True

variable {π : Type} [DecidableEq π]

namespace Disk

def event (disk : Disk π) (call : FileCall π) (refusal : Option FileFault) : FileEvent π :=
  match call with
  | .save path items =>
    let (outcome, after) := disk.serve refusal (Snapshot.save path { items })
    { before := disk, call, refusal, reply := .saved outcome, after }
  | .load path =>
    let (outcome, after) := disk.serve refusal (Snapshot.load path)
    { before := disk, call, refusal, reply := .loaded outcome, after }

/-- The events of a run, each of which begins with the files that the one before it leaves. -/
def history (disk : Disk π) : List (FileCall π × Option FileFault) → List (FileEvent π)
  | [] => []
  | (call, refusal) :: further =>
    let event := disk.event call refusal
    event :: event.after.history further

end Disk

def FileEvent.saved? (path : π) (event : FileEvent π) : Option (List Item) :=
  match event.call, event.reply with
  | .save target items, .saved (.ok ()) => if target = path then some items else none
  | _, _ => none

/-- The items of the last snapshot that was saved at a path. -/
def lastSaved (path : π) (events : List (FileEvent π)) : Option (List Item) :=
  (events.filterMap (FileEvent.saved? path)).getLast?

theorem lastSaved_append (path : π) (events : List (FileEvent π)) (event : FileEvent π) :
    lastSaved path (events ++ [event]) = (event.saved? path).or (lastSaved path events) := by
  rw [lastSaved, List.filterMap_append]
  cases saved : event.saved? path <;> simp [saved, lastSaved]

/-- What holds of an event that saves items at a path. -/
structure FileEvent.Saves (event : FileEvent π) (path : π) (items : List Item) : Prop where
  empty : items = [] → event.reply = .saved (.error .emptySnapshot)
  refused : items ≠ [] → ∀ fault, event.refusal = some fault →
    event.reply = .saved (.error (.file fault))
  /-- Any other snapshot becomes the whole content of the file. -/
  written : items ≠ [] → event.refusal = none →
    event.reply = .saved (.ok ()) ∧ event.after.content path = some (Snapshot.bytes { items })
  unchanged : ∀ error, event.reply = .saved (.error error) → event.after = event.before
  confined : ∀ other, other ≠ path → event.after.content other = event.before.content other

/-- What holds of an event that loads from a path, given the files at the beginning of the run and the
events before it. -/
structure FileEvent.Loads (start : Disk π) (front : List (FileEvent π)) (event : FileEvent π)
    (path : π) : Prop where
  unchanged : event.after = event.before
  refused : ∀ fault, event.refusal = some fault → event.reply = .loaded (.error (.file fault))
  shallow : event.refusal = none → ∀ items, lastSaved path front = some items →
    (∀ item ∈ items, item.depth ≤ 128) → event.reply = .loaded (.ok { items })
  deep : event.refusal = none → ∀ items, lastSaved path front = some items →
    (∃ item ∈ items, 128 < item.depth) →
      event.reply = .loaded (.error (.malformed (.nestedTooDeep 128)))
  /-- Where nothing was saved, the file is the one from the beginning. -/
  untouched : event.refusal = none → lastSaved path front = none →
    event.reply = .loaded (Snapshot.ofFile (start.read path))

/-- What holds of an event by the call that it answers. -/
def FileEvent.Faithful (start : Disk π) (front : List (FileEvent π)) (event : FileEvent π) : Prop :=
  match event.call with
  | .save path items => event.Saves path items
  | .load path => event.Loads start front path

/-- After these events the files hold what was saved last, and what was there at the beginning
otherwise. -/
structure Remembers (start : Disk π) (events : List (FileEvent π)) (disk : Disk π) : Prop where
  last : ∀ path items, lastSaved path events = some items →
    disk.content path = some (Snapshot.bytes { items }) ∧ items ≠ [] ∧
      Countable items.length ∧ ∀ item ∈ items, item.Storable
  otherwise : ∀ path, lastSaved path events = none → disk.content path = start.content path

namespace Remembers

variable {start disk : Disk π} {events past front : List (FileEvent π)}

theorem nothing (start : Disk π) : Remembers start [] start where
  last _ _ saved := by cases saved
  otherwise _ _ := rfl

theorem idle {event : FileEvent π} (remembers : Remembers start events disk)
    (silent : ∀ path, event.saved? path = none) : Remembers start (events ++ [event]) disk where
  last path items saved := by
    rw [lastSaved_append, silent] at saved
    exact remembers.last path items saved
  otherwise path unsaved := by
    rw [lastSaved_append, silent] at unsaved
    exact remembers.otherwise path unsaved

/-- What is saved at a path takes the place of what was remembered of it. -/
theorem replaced {event : FileEvent π} {path : π} (remembers : Remembers start events disk)
    (nonempty : items ≠ []) (storable : Countable items.length ∧ ∀ item ∈ items, item.Storable)
    (saves : ∀ other, event.saved? other = if path = other then some items else none) :
    Remembers start (events ++ [event]) (disk.put path (Snapshot.bytes { items })) := by
  have told (other : π) : lastSaved other (events ++ [event]) =
      if path = other then some items else lastSaved other events := by
    rw [lastSaved_append, saves]
    split <;> rfl
  constructor
  · intro other found saved
    rw [told] at saved
    by_cases same : path = other
    · subst same
      rw [if_pos rfl] at saved
      obtain rfl := Option.some.inj saved
      exact ⟨disk.content_put_same path _, nonempty, storable⟩
    · rw [if_neg same] at saved
      rw [disk.content_put_other _ (Ne.symm same)]
      exact remembers.last other found saved
  · intro other unsaved
    rw [told] at unsaved
    by_cases same : path = other
    · rw [if_pos same] at unsaved
      cases unsaved
    · rw [if_neg same] at unsaved
      rw [disk.content_put_other _ (Ne.symm same)]
      exact remembers.otherwise other unsaved

theorem step {call : FileCall π} (remembers : Remembers start events disk)
    (storable : call.Storable) (refusal : Option FileFault) :
    Remembers start (events ++ [disk.event call refusal]) (disk.event call refusal).after := by
  cases call with
  | load path =>
    have unchanged : (disk.event (.load path) refusal).after = disk := by cases refusal <;> rfl
    rw [unchanged]
    exact remembers.idle fun _ => rfl
  | save path items =>
    rcases disk.save_cases refusal path items with
      ⟨-, failed⟩ | ⟨-, fault, -, failed⟩ | ⟨nonempty, -, saved⟩
    case inl =>
      rw [Disk.event, failed]
      exact remembers.idle fun _ => rfl
    case inr.inl =>
      rw [Disk.event, failed]
      exact remembers.idle fun _ => rfl
    case inr.inr =>
      rw [Disk.event, saved]
      exact remembers.replaced nonempty storable fun other => rfl

/-- The files that a run has come to are those that its events so far account for. -/
theorem run {calls : List (FileCall π × Option FileFault)} {event : FileEvent π}
    (remembers : Remembers start past disk) (storable : ∀ call ∈ calls, call.1.Storable)
    (split : disk.history calls = front ++ event :: further) :
    ∃ before call refusal, event = before.event call refusal ∧
      Remembers start (past ++ front) before := by
  -- What is past grows by the event of each call, so the invariant is carried from one to the next.
  induction calls generalizing disk past front with
  | nil => simp [Disk.history] at split
  | cons call calls ih =>
    cases front with
    | nil =>
      obtain ⟨same, -⟩ := List.cons.inj split
      exact ⟨disk, call.1, call.2, same.symm, by rwa [List.append_nil]⟩
    | cons first front =>
      obtain ⟨rfl, splitThen⟩ := List.cons.inj split
      have answered := remembers.step (storable call List.mem_cons_self) call.2
      have storableThen other member := storable other (List.mem_cons_of_mem call member)
      obtain ⟨before, other, refusal, same, remembersThen⟩ := ih answered storableThen splitThen
      exact ⟨before, other, refusal, same, by rwa [List.append_assoc] at remembersThen⟩

/-- What was saved last is read as it was, unless it nests too deep. -/
theorem read {path : π} (remembers : Remembers start events disk)
    (saved : lastSaved path events = some items) :
    ((∀ item ∈ items, item.depth ≤ 128) → Snapshot.ofFile (disk.read path) = .ok { items }) ∧
      ((∃ item ∈ items, 128 < item.depth) →
        Snapshot.ofFile (disk.read path) = .error (.malformed (.nestedTooDeep 128))) := by
  obtain ⟨held, nonempty, few, storable⟩ := remembers.last path items saved
  have read : Snapshot.ofFile (disk.read path) =
      Snapshot.decode (Snapshot.bytes { items } ++ []) := by
    rw [Disk.read, held, List.append_nil]
    rfl
  rw [read]
  exact ⟨Snapshot.decode_shallow { items } rfl few storable [] nonempty,
    Snapshot.decode_deep { items } rfl few storable []⟩

private theorem read_untouched {path : π} (remembers : Remembers start events disk)
    (unsaved : lastSaved path events = none) : disk.read path = start.read path := by
  rw [Disk.read, Disk.read, remembers.otherwise path unsaved]

end Remembers

namespace Disk

theorem saves_event (disk : Disk π) (refusal : Option FileFault) (path : π) (items : List Item) :
    (disk.event (.save path items) refusal).Saves path items := by
  rcases disk.save_cases refusal path items with
    ⟨rfl, outcome⟩ | ⟨nonempty, fault, rfl, outcome⟩ | ⟨nonempty, rfl, outcome⟩
  case inl =>
    rw [event, outcome]
    exact {
      empty := fun _ => rfl
      refused := fun nonempty => absurd rfl nonempty
      written := fun nonempty => absurd rfl nonempty
      unchanged := fun _ _ => rfl
      confined := fun _ _ => rfl }
  case inr.inl =>
    rw [event, outcome]
    exact {
      empty := fun empty => absurd empty nonempty
      refused := fun _ reason same => by cases same; rfl
      written := fun _ accepted => by cases accepted
      unchanged := fun _ _ => rfl
      confined := fun _ _ => rfl }
  case inr.inr =>
    rw [event, outcome]
    exact {
      empty := fun empty => absurd empty nonempty
      refused := fun _ _ refused => by cases refused
      written := fun _ _ => ⟨rfl, disk.content_put_same path _⟩
      unchanged := fun _ failed => by cases failed
      confined := fun _ apart => disk.content_put_other _ apart }

theorem loads_event {start disk : Disk π} {front : List (FileEvent π)}
    (remembers : Remembers start front disk) (refusal : Option FileFault) (path : π) :
    (disk.event (.load path) refusal).Loads start front path := by
  cases refusal with
  | some fault => exact {
      unchanged := rfl
      refused := fun _ same => by cases same; rfl
      shallow := fun accepted => by cases accepted
      deep := fun accepted => by cases accepted
      untouched := fun accepted => by cases accepted }
  | none => exact {
      unchanged := rfl
      refused := fun _ refused => by cases refused
      shallow := fun _ _ saved shallow =>
        congrArg FileReply.loaded ((remembers.read saved).1 shallow)
      deep := fun _ _ saved deep => congrArg FileReply.loaded ((remembers.read saved).2 deep)
      untouched := fun _ unsaved =>
        congrArg (FileReply.loaded ∘ Snapshot.ofFile) (remembers.read_untouched unsaved) }

/-- In every run, whatever files there are at its beginning and whatever the system refuses, each save
replaces the content of its own file or changes nothing, and each load gives what was saved last, if it
does not nest too deep. -/
theorem history_faithful (start : Disk π) (calls : List (FileCall π × Option FileFault))
    (storable : ∀ call ∈ calls, call.1.Storable) (front : List (FileEvent π)) (event : FileEvent π)
    (further : List (FileEvent π)) (split : start.history calls = front ++ event :: further) :
    event.Faithful start front := by
  obtain ⟨before, call, refusal, rfl, remembers⟩ := (Remembers.nothing start).run storable split
  cases call with
  | save path items => exact before.saves_event refusal path items
  | load path => exact loads_event remembers refusal path

/-- A file that holds no snapshot, and more bytes than are saved in it. -/
def occupied : Disk String where
  content path := if path = "/tmp/d/trees.snap" then some (List.replicate 100 7) else none

/-- The last snapshot that has items and is not refused is what the file holds, whatever is saved
elsewhere. -/
theorem history_faithful_occupied :
    let path := "/tmp/d/trees.snap"
    let empty := FileCall.save path []
    let filled := FileCall.save path [.expression .null]
    let first := occupied.event empty none
    let second := first.after.event filled none
    let third := second.after.event (.save path [.predicate (.all [])]) (some .notDirectory)
    let fourth := third.after.event (.save "/tmp/d/t" [.predicate (.all [])]) none
    let fifth := fourth.after.event (.load path) none
    first.reply = .saved (.error .emptySnapshot) ∧ first.after = occupied ∧
      third.reply = .saved (.error (.file .notDirectory)) ∧
      fourth.after.content path = some (Snapshot.bytes { items := [.expression .null] }) ∧
      fifth.reply = .loaded (.ok { items := [.expression .null] }) := by
  intro path empty filled first second third fourth fifth
  have storable : ∀ call ∈ ([(empty, none), (filled, none),
      (.save path [.predicate (.all [])], some FileFault.notDirectory),
      (.save "/tmp/d/t" [.predicate (.all [])], none), (.load path, none)] :
        List (FileCall String × Option FileFault)), call.1.Storable := by
    have few : 1 < UInt64.size := by decide
    have literal : (Item.expression .null).Storable := .literal trivial
    have junction : (Item.predicate (.all [])).Storable := .junction .and (by decide) (by simp)
    simp [empty, filled, FileCall.Storable, Countable, literal, junction, few]
  have faithful := history_faithful occupied _ storable
  have atFirst : first.Saves path [] := faithful [] first [second, third, fourth, fifth] rfl
  have atSecond : second.Saves path [.expression .null] :=
    faithful [first] second [third, fourth, fifth] rfl
  have atThird : third.Saves path [.predicate (.all [])] :=
    faithful [first, second] third [fourth, fifth] rfl
  have atFourth : fourth.Saves "/tmp/d/t" [.predicate (.all [])] :=
    faithful [first, second, third] fourth [fifth] rfl
  have atFifth : fifth.Loads occupied [first, second, third, fourth] path :=
    faithful [first, second, third, fourth] fifth [] rfl
  have refused := atThird.refused (by simp) .notDirectory rfl
  have kept : fourth.after.content path = second.after.content path :=
    (atFourth.confined path (by decide)).trans
      (congrArg (Disk.content · path) (atThird.unchanged _ refused))
  exact ⟨atFirst.empty rfl, atFirst.unchanged _ (atFirst.empty rfl), refused,
    kept.trans (atSecond.written (by simp) rfl).2,
    atFifth.shallow rfl [.expression .null] rfl (by decide)⟩

end Disk
end ConstraintTree
