import ConstraintTree.Proofs.Snapshot.Passage

namespace ConstraintTree

/-- Books beside a record of all their changes, the last one first: what they said before and after. -/
structure Traced (σ : Type) where
  current : σ
  changes : List (σ × σ) := []

def Traced.turn (books : Traced σ) (next : σ) : Traced σ where
  current := next
  changes := (books.current, next) :: books.changes

/-- Keeps the same books, and a record of their changes. -/
def Nesting.traced (nesting : Nesting σ) : Nesting (Traced σ) where
  enter books :=
    match nesting.enter books.current with
    | .ok entered => .ok (books.turn entered)
    | .error limit => .error limit
  leave books := books.turn (nesting.leave books.current)

/-- A change of the count by one, up or down, between two bounds that it does not leave. -/
structure WithinBounds (least greatest : Nat) (change : Nat × Nat) : Prop where
  above : least ≤ change.1 ∧ least ≤ change.2
  below : change.1 ≤ greatest ∧ change.2 ≤ greatest
  single : change.2 = change.1 + 1 ∨ change.1 = change.2 + 1

theorem WithinBounds.mono (within : WithinBounds least greatest change) (lower : least' ≤ least) :
    WithinBounds least' greatest change where
  above := ⟨Nat.le_trans lower within.above.1, Nat.le_trans lower within.above.2⟩
  below := within.below
  single := within.single

namespace Reader

def untraced (cursor : Cursor (Traced σ)) : Cursor σ :=
  { rest := cursor.rest, nesting := cursor.nesting.current }

def untracedResult : EStateM.Result DecodeError (Cursor (Traced σ)) α →
    EStateM.Result DecodeError (Cursor σ) α
  | .ok value cursor => .ok value (untraced cursor)
  | .error fault cursor => .error fault (untraced cursor)

/-! Recording changes nothing that is found. -/

/-- Runs of which the second alone records the changes of its books. -/
def Pairing.overTrace (σ : Type) : Pairing σ (Traced σ) where
  Abreast before before' := before = untraced before'
  Shared _ := True
  Parted _ _ := False

private theorem sound_overTrace (nesting : Nesting σ) :
    (Pairing.overTrace σ).Sound nesting nesting.traced where
  shared _ _ := trivial
  take count missing _ := by
    constructor
    · rintro _ before rfl
      simp only [take, untraced]
      cases Bytes.split? count before.rest with
      | none => exact .fault trivial rfl
      | some parts => exact .value _ rfl
    · intro fault before parted
      exact parted.elim
  field := by
    intro α first second runs
    constructor
    · rintro _ before rfl
      simp only [Reader.field, untraced, Nesting.traced]
      cases nesting.enter before.nesting.current with
      | error limit => exact .fault trivial rfl
      | ok entered =>
        have here := runs.outcome { rest := before.rest, nesting := entered }
          { rest := before.rest, nesting := before.nesting.turn entered } rfl
        dsimp only
        generalize first _ = left at here ⊢
        generalize second _ = right at here ⊢
        cases here with
        | value found abreast =>
          subst abreast
          exact .value found rfl
        | fault shared abreast =>
          subst abreast
          exact .fault shared rfl
        | alone result parted => exact parted.elim
    · intro fault before parted
      exact parted.elim

theorem Pairing.Sound.decoder {pairing : Pairing σ τ} {outer : Nesting σ} {inner : Nesting τ}
    (sound : pairing.Sound outer inner) (decoder : Decoder α) :
    pairing.Runs (decoder.read outer) (decoder.read inner) := by
  induction decoder with
  | done value => exact .pure value
  | andThen first next inFirst inNext => exact inFirst.bind inNext
  | natural width => exact sound.nat width
  | variant => exact sound.variant
  | flag => exact sound.flag
  | text => exact sound.text
  | number => exact sound.number
  | option inner ih => exact sound.option ih
  | list inner ih => exact sound.list ih
  | field child ih => exact sound.field ih
  | column => exact sound.column
  | literal => exact sound.literal
  | dimElement => exact sound.dimElement
  | expr nodes => exact sound.expr (.inl rfl)
  | predicate nodes => exact sound.predicate (.inl rfl)
  | item nodes => exact sound.item (.inl rfl)
  | version => exact sound.version
  | snapshot nodes => exact sound.snapshot (.inl rfl)

/-- A run with a record of the changes is the run without it. -/
theorem untracedResult_read (decoder : Decoder α) (nesting : Nesting σ) (before : Cursor (Traced σ)) :
    untracedResult (decoder.read nesting.traced before) = decoder.read nesting (untraced before) := by
  have outcome := ((sound_overTrace nesting).decoder decoder).outcome (untraced before) before rfl
  generalize decoder.read nesting (untraced before) = left at outcome ⊢
  generalize decoder.read nesting.traced before = right at outcome ⊢
  cases outcome with
  | value found abreast => rw [untracedResult, abreast]
  | fault shared abreast => rw [untracedResult, abreast]
  | alone result parted => exact parted.elim

/-! The count unwinds. -/

/-- The count is what it was before, and all changes behind the earlier ones keep between that and the
limit. -/
def Unwound (limit : Nat) (before after : Cursor (Traced Nat)) : Prop :=
  before.nesting.current ≤ limit →
    after.nesting.current = before.nesting.current ∧
      ∃ changes, after.nesting.changes = changes ++ before.nesting.changes ∧
        ∀ change ∈ changes, WithinBounds before.nesting.current limit change

theorem Unwound.trans (first : Unwound limit before middle) (second : Unwound limit middle after) :
    Unwound limit before after := by
  intro room
  obtain ⟨level, changes, recorded, within⟩ := first room
  obtain ⟨level', changes', recorded', within'⟩ := second (level ▸ room)
  refine ⟨level'.trans level, changes' ++ changes, ?_, ?_⟩
  · rw [recorded', recorded, List.append_assoc]
  · intro change member
    rcases List.mem_append.mp member with later | earlier
    · exact level ▸ within' change later
    · exact within change earlier

/-- A field is one change up and one change down, around those of its content. -/
theorem moves_field {child : Reader (Traced Nat) α} (moves : Moves (Unwound limit) child) :
    Moves (Unwound limit) (Reader.field (Nesting.limited limit).traced child) := by
  intro before room
  by_cases below : before.nesting.current < limit
  · have entered : (Nesting.limited limit).traced.enter before.nesting =
        .ok (before.nesting.turn (before.nesting.current + 1)) := by
      simp [Nesting.traced, Nesting.limited, below]
    obtain ⟨level, changes, recorded, within⟩ :=
      moves { before with nesting := before.nesting.turn (before.nesting.current + 1) } below
    rw [stop_field child entered]
    generalize stop (child _) = last at level recorded within ⊢
    change last.nesting.current = before.nesting.current + 1 at level
    have closed : (last.nesting.current, last.nesting.current - 1) =
        (before.nesting.current + 1, before.nesting.current) := by rw [level, Nat.add_sub_cancel]
    refine ⟨congrArg Prod.snd closed, (before.nesting.current + 1, before.nesting.current) ::
      (changes ++ [(before.nesting.current, before.nesting.current + 1)]), ?_, ?_⟩
    · change (last.nesting.current, last.nesting.current - 1) :: last.nesting.changes = _
      rw [closed, recorded]
      simp [Traced.turn]
    · intro change member
      rcases List.mem_cons.mp member with rfl | member
      · exact ⟨by simp, ⟨below, room⟩, .inr rfl⟩
      · rcases List.mem_append.mp member with member | member
        · exact (within change member).mono (Nat.le_succ _)
        · obtain rfl := List.mem_singleton.mp member
          exact ⟨by simp, ⟨room, below⟩, .inl rfl⟩
  · have refused : (Nesting.limited limit).traced.enter before.nesting = .error limit := by
      simp [Nesting.traced, Nesting.limited, below]
    rw [stop_refused child refused]
    exact ⟨rfl, [], rfl, by simp⟩

private theorem passage_unwound (limit : Nat) :
    Passage (Nesting.limited limit).traced (Unwound limit) where
  refl cursor _ := ⟨rfl, [], rfl, by simp⟩
  trans _ _ _ first second := first.trans second
  take count missing := by
    intro before room
    simp only [take]
    cases Bytes.split? count before.rest with
    | none => exact ⟨rfl, [], rfl, by simp⟩
    | some parts => exact ⟨rfl, [], rfl, by simp⟩
  field := moves_field

end Reader

namespace Decoder

open Reader (stop)

/-- How a run ends that starts on some bytes where so many fields are open. -/
def run (decoder : Decoder α) (limit opened : Nat) (stored : Bytes) :
    EStateM.Result DecodeError (Cursor Nat) α :=
  decoder.read (Nesting.limited limit) { rest := stored, nesting := opened }

def tracedRun (decoder : Decoder α) (limit opened : Nat) (stored : Bytes) :
    EStateM.Result DecodeError (Cursor (Traced Nat)) α :=
  decoder.read (Nesting.limited limit).traced { rest := stored, nesting := { current := opened } }

private theorem untracedResult_tracedRun (decoder : Decoder α) (limit opened : Nat) (stored : Bytes) :
    Reader.untracedResult (decoder.tracedRun limit opened stored) = decoder.run limit opened stored :=
  Reader.untracedResult_read decoder _ _

private theorem unwound_tracedRun (decoder : Decoder α) (room : opened ≤ limit) (stored : Bytes) :
    (stop (decoder.tracedRun limit opened stored)).nesting.current = opened ∧
      ∀ change ∈ (stop (decoder.tracedRun limit opened stored)).nesting.changes,
        WithinBounds opened limit change := by
  obtain ⟨level, changes, recorded, within⟩ := (Reader.passage_unwound limit).decoder decoder
    { rest := stored, nesting := { current := opened } } room
  refine ⟨level, ?_⟩
  rw [tracedRun, recorded, List.append_nil]
  exact within

/-- However a run ends, as many fields are open as at its start. -/
theorem opened_run (decoder : Decoder α) (room : opened ≤ limit) (stored : Bytes) :
    (stop (decoder.run limit opened stored)).nesting = opened := by
  obtain ⟨level, -⟩ := decoder.unwound_tracedRun room stored
  rw [← untracedResult_tracedRun]
  cases ending : decoder.tracedRun limit opened stored <;> rw [ending] at level <;> exact level

end Decoder

namespace Snapshot

/-- Decodings one after another, each from the books that the one before it has left. -/
def decodeEach (nesting : Nesting σ) (opened : σ) :
    List Bytes → List (Except TreeError Snapshot) × σ
  | [] => ([], opened)
  | stored :: rest =>
    let first := decodeFrom nesting opened stored
    let others := decodeEach nesting first.2 rest
    (first.1 :: others.1, others.2)

private theorem decodeFrom_unwinds (room : opened ≤ limit) (stored : Bytes) :
    (decodeFrom (Nesting.limited limit) opened stored).2 = opened := by
  have versioned := Decoder.version.opened_run room stored
  have whole := (Decoder.snapshot (stored.length / 4)).opened_run room stored
  simp only [Decoder.run, Decoder.read] at versioned whole
  simp only [decodeFrom]
  cases first : readVersion { rest := stored, nesting := opened } with
  | error fault after => rwa [first] at versioned
  | ok found after =>
    rw [first] at versioned
    by_cases foreign : found ≠ version
    · dsimp only
      rw [if_pos foreign]
      exact versioned
    · dsimp only
      rw [if_neg foreign]
      cases second : read (Nesting.limited limit) (stored.length / 4)
          { rest := stored, nesting := opened } with
      | error fault after => rwa [second] at whole
      | ok snapshot after =>
        rw [second] at whole
        dsimp only
        split <;> exact whole

/-- What is decoded in a row is decoded as if each were the first. -/
theorem decodeEach_eq (room : opened ≤ limit) (inputs : List Bytes) :
    decodeEach (Nesting.limited limit) opened inputs =
      (inputs.map fun stored => (decodeFrom (Nesting.limited limit) opened stored).1, opened) := by
  induction inputs with
  | nil => rfl
  | cons stored rest ih => simp only [decodeEach, decodeFrom_unwinds room, ih, List.map_cons]

end Snapshot

namespace Decoder

open Reader (stop)

/-- The count of open fields unwinds. Whatever is decoded from whatever bytes, and whether that succeeds
or fails, the count is the same afterwards as before. On the way it is raised and lowered by one at a
time, and stays between its start and the limit, so it is never lowered from zero. Snapshots that are
decoded one after another are therefore decoded as if each were the first. -/
theorem count_unwinds (decoder : Decoder α) (opened : Nat) (room : opened ≤ 128) (stored : Bytes) :
    (stop (decoder.run 128 opened stored)).nesting = opened ∧
      Reader.untracedResult (decoder.tracedRun 128 opened stored) = decoder.run 128 opened stored ∧
      (∀ change ∈ (stop (decoder.tracedRun 128 opened stored)).nesting.changes,
        WithinBounds opened 128 change) ∧
      ∀ inputs, Snapshot.decodeEach (Nesting.limited Snapshot.maxNesting) 0 inputs =
        (inputs.map Snapshot.decode, 0) := by
  refine ⟨decoder.opened_run room stored, decoder.untracedResult_tracedRun 128 opened stored, ?_, ?_⟩
  · exact (decoder.unwound_tracedRun room stored).2
  · intro inputs
    exact Snapshot.decodeEach_eq (Nat.zero_le Snapshot.maxNesting) inputs

/-- A negation of a negation, where one more field can be opened: the second field is refused, and the
first is closed again. Afterwards a snapshot is decoded as ever. -/
theorem count_unwinds_negations :
    (Decoder.expr 3).run 128 127 [3, 0, 0, 0, 0, 0, 0, 0, 3, 0, 0, 0, 0, 0, 0, 0, 0] =
        .error (.nestedTooDeep 128) { rest := [0], nesting := 127 } ∧
      (stop ((Decoder.expr 3).tracedRun 128 127
        [3, 0, 0, 0, 0, 0, 0, 0, 3, 0, 0, 0, 0, 0, 0, 0, 0])).nesting.changes =
          [(128, 127), (127, 128)] ∧
      WithinBounds 127 128 (128, 127) ∧
      Snapshot.decodeEach (Nesting.limited Snapshot.maxNesting) 0
          [[1, 0], [1, 0, 0, 0, 1, 0, 0, 0, 0, 0, 0, 0, 0, 0, 0, 0, 1, 0, 0, 0, 0, 0, 0, 0]] =
        ([.error (.malformed .endOfInput), .ok { items := [.expression .null] }], 0) := by
  have failed : (Decoder.expr 3).run 128 127 [3, 0, 0, 0, 0, 0, 0, 0, 3, 0, 0, 0, 0, 0, 0, 0, 0] =
      .error (.nestedTooDeep 128) { rest := [0], nesting := 127 } := rfl
  have recorded : (stop ((Decoder.expr 3).tracedRun 128 127
      [3, 0, 0, 0, 0, 0, 0, 0, 3, 0, 0, 0, 0, 0, 0, 0, 0])).nesting.changes =
        [(128, 127), (127, 128)] := rfl
  obtain ⟨-, -, within, each⟩ := count_unwinds (.expr 3) 127 (by decide)
    [3, 0, 0, 0, 0, 0, 0, 0, 3, 0, 0, 0, 0, 0, 0, 0, 0]
  refine ⟨failed, recorded, within _ (by simp [recorded]), (each _).trans ?_⟩
  rfl

end Decoder
end ConstraintTree
