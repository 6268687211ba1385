import ConstraintTree.Proofs.Snapshot.Spelling
import ConstraintTree.Snapshot.Continuation
import ConstraintTree.Snapshot.Decoding

namespace ConstraintTree

open Reader (Spells Took ok_of_bind ok_of_pure)

theorem Column.spells_read : Spells limit Column.read Column.encode fun _ => 0 := by
  intro before column after room read
  obtain ⟨table, _, took, read⟩ := (Took.nothing room).step (.option .text) read
  obtain ⟨name, _, took, read⟩ := took.step .text read
  obtain ⟨rfl, rfl⟩ := ok_of_pure read
  refine took.as rfl ?_
  cases table <;> rfl

theorem Literal.spells_read : Spells limit Literal.read Literal.encode fun _ => 0 := by
  intro before literal after room read
  obtain ⟨kind, middle, took, read⟩ := (Took.nothing room).step .variant read
  cases kind with
  | null =>
    obtain ⟨rfl, rfl⟩ := ok_of_pure read
    exact took
  | boolean =>
    obtain ⟨value, _, took, read⟩ := took.step .flag read
    obtain ⟨rfl, rfl⟩ := ok_of_pure read
    exact took
  | integer =>
    obtain ⟨value, _, counted, read⟩ := ok_of_bind read
    obtain ⟨rfl, rfl⟩ := ok_of_pure read
    obtain ⟨inside, small⟩ := Reader.took_nat took.room counted
    refine (took.trans inside).as ?_ rfl
    rw [encode, UInt64.toUInt64_toInt64, UInt64.toNat_ofNat_of_lt' small]
    rfl
  | number =>
    obtain ⟨value, _, took, read⟩ := took.step .number read
    obtain ⟨rfl, rfl⟩ := ok_of_pure read
    exact took
  | text =>
    obtain ⟨value, _, took, read⟩ := took.step .text read
    obtain ⟨rfl, rfl⟩ := ok_of_pure read
    exact took

theorem DimElement.spells_read : Spells limit DimElement.read DimElement.encode fun _ => 0 := by
  intro before element after room read
  obtain ⟨name, _, took, read⟩ := (Took.nothing room).step .text read
  obtain ⟨lower, _, took, read⟩ := took.step .number read
  obtain ⟨upper, _, took, read⟩ := took.step .number read
  obtain ⟨tolerance, _, took, read⟩ := took.step .number read
  obtain ⟨rfl, rfl⟩ := ok_of_pure read
  exact took

namespace Expr

/-- What an expression is read from is what would be written for it. -/
theorem spells_read (nodes : Nat) :
    Spells limit (Expr.read (Nesting.limited limit) nodes) encode depth := by
  induction nodes with
  | zero =>
    intro before expr after room read
    cases read
  | succ nodes ih =>
    intro before expr after room read
    obtain ⟨kind, middle, took, read⟩ := (Took.nothing room).step .variant read
    cases kind with
    | column =>
      obtain ⟨reference, _, took, read⟩ := took.step Column.spells_read read
      obtain ⟨rfl, rfl⟩ := ok_of_pure read
      exact took
    | literal =>
      obtain ⟨value, _, took, read⟩ := took.step Literal.spells_read read
      obtain ⟨rfl, rfl⟩ := ok_of_pure read
      exact took
    | binary =>
      obtain ⟨op, _, took, read⟩ := took.step .variant read
      obtain ⟨left, _, took, read⟩ := took.step (.field ih) read
      obtain ⟨right, _, took, read⟩ := took.step (.field ih) read
      obtain ⟨rfl, rfl⟩ := ok_of_pure read
      refine took.as ?_ ?_
      · simp [encode]
      · rw [depth]
        omega
    | unary =>
      obtain ⟨op, _, took, read⟩ := took.step .variant read
      obtain ⟨operand, _, took, read⟩ := took.step (.field ih) read
      obtain ⟨rfl, rfl⟩ := ok_of_pure read
      refine took.as ?_ ?_
      · simp [encode]
      · rw [depth]
        omega
    | call =>
      obtain ⟨name, _, took, read⟩ := took.step .text read
      obtain ⟨args, _, took, read⟩ := took.step (.field (.list ih)) read
      obtain ⟨rfl, rfl⟩ := ok_of_pure read
      refine took.as ?_ ?_
      · simp [encode, encodeEach_eq_flatMap, Bytes.ofList]
      · rw [depth, depthEach_eq]
        omega
    | between =>
      obtain ⟨test, _, took, read⟩ := took.step (.field (.option ih)) read
      obtain ⟨lower, _, took, read⟩ := took.step (.field (.option ih)) read
      obtain ⟨upper, _, took, read⟩ := took.step (.field (.option ih)) read
      obtain ⟨negated, _, took, read⟩ := took.step .flag read
      obtain ⟨rfl, rfl⟩ := ok_of_pure read
      refine took.as ?_ ?_
      · simp [encode, encodeOperand_eq_ofOption]
      · simp only [depth, depthOperand_eq]
        omega
    | inList =>
      obtain ⟨tested, _, took, read⟩ := took.step (.field ih) read
      obtain ⟨choices, _, took, read⟩ := took.step (.field (.list ih)) read
      obtain ⟨negated, _, took, read⟩ := took.step .flag read
      obtain ⟨rfl, rfl⟩ := ok_of_pure read
      refine took.as ?_ ?_
      · simp [encode, encodeEach_eq_flatMap, Bytes.ofList]
      · rw [depth, depthEach_eq]
        omega
    | dimArray =>
      obtain ⟨elements, _, took, read⟩ := took.step (.list DimElement.spells_read) read
      obtain ⟨rfl, rfl⟩ := ok_of_pure read
      refine took.as ?_ ?_
      · simp [encode]
      · simp [depth]

end Expr

namespace Predicate

theorem spells_read (nodes : Nat) :
    Spells limit (Predicate.read (Nesting.limited limit) nodes) encode depth := by
  induction nodes with
  | zero =>
    intro before predicate after room read
    cases read
  | succ nodes ih =>
    intro before predicate after room read
    obtain ⟨kind, middle, took, read⟩ := (Took.nothing room).step .variant read
    cases kind with
    | quantification =>
      obtain ⟨quantifier, _, took, read⟩ := took.step .variant read
      obtain ⟨bound, _, took, read⟩ := took.step (.option .text) read
      obtain ⟨condition, _, took, read⟩ := took.step (.field (.option ih)) read
      obtain ⟨rfl, rfl⟩ := ok_of_pure read
      refine took.as ?_ ?_
      · simp [encode, encodeCondition_eq_ofOption]
      · rw [depth, depthCondition_eq]
        cases bound <;> simp
    | atom =>
      obtain ⟨name, _, took, read⟩ := took.step .text read
      obtain ⟨args, _, took, read⟩ := took.step (.field (.list (Expr.spells_read nodes))) read
      obtain ⟨rfl, rfl⟩ := ok_of_pure read
      refine took.as ?_ ?_
      · simp [encode]
      · rw [depth]
        omega
    | negation =>
      obtain ⟨operand, _, took, read⟩ := took.step (.field ih) read
      obtain ⟨rfl, rfl⟩ := ok_of_pure read
      refine took.as ?_ ?_
      · simp [encode]
      · rw [depth]
        omega
    | junction =>
      obtain ⟨op, _, took, read⟩ := took.step .variant read
      obtain ⟨operands, _, took, read⟩ := took.step (.field (.list ih)) read
      obtain ⟨rfl, rfl⟩ := ok_of_pure read
      refine took.as ?_ ?_
      · simp [encode, encodeEach_eq_flatMap, Bytes.ofList]
      · rw [depth, depthEach_eq]
        omega

end Predicate

theorem Item.spells_read (nodes : Nat) :
    Spells limit (Item.read (Nesting.limited limit) nodes) encode depth := by
  intro before item after room read
  obtain ⟨kind, middle, took, read⟩ := (Took.nothing room).step .variant read
  cases kind with
  | expression =>
    obtain ⟨tree, _, took, read⟩ := took.step (Expr.spells_read nodes) read
    obtain ⟨rfl, rfl⟩ := ok_of_pure read
    exact took.as rfl (by simp [depth])
  | predicate =>
    obtain ⟨tree, _, took, read⟩ := took.step (Predicate.spells_read nodes) read
    obtain ⟨rfl, rfl⟩ := ok_of_pure read
    exact took.as rfl (by simp [depth])

namespace Snapshot

theorem spells_readVersion :
    Spells limit readVersion (fun found => Bytes.ofNat 4 found.toNat) fun _ => 0 := by
  intro before found after room read
  obtain ⟨value, _, counted, read⟩ := ok_of_bind read
  obtain ⟨rfl, rfl⟩ := ok_of_pure read
  obtain ⟨took, small⟩ := Reader.took_nat room counted
  refine took.as ?_ rfl
  exact congrArg (Bytes.ofNat 4) (UInt32.toNat_ofNat_of_lt' small)

/-- The version that is read by itself is the one of the snapshot. -/
theorem readVersion_of_read (read : Snapshot.read nesting nodes before = .ok snapshot after) :
    ∃ middle, readVersion before = .ok snapshot.formVersion middle := by
  obtain ⟨found, middle, versioned, read⟩ := ok_of_bind read
  obtain ⟨items, _, -, read⟩ := ok_of_bind read
  obtain ⟨rfl, rfl⟩ := ok_of_pure read
  exact ⟨middle, versioned⟩

theorem spells_read (nodes : Nat) :
    Spells limit (Snapshot.read (Nesting.limited limit) nodes) bytes
      fun snapshot => deepest Item.depth snapshot.items := by
  intro before snapshot after room read
  obtain ⟨found, _, took, read⟩ := (Took.nothing room).step spells_readVersion read
  obtain ⟨items, _, took, read⟩ := took.step (.list (Item.spells_read nodes)) read
  obtain ⟨rfl, rfl⟩ := ok_of_pure read
  refine took.as ?_ ?_
  · simp [bytes_eq]
  · simp

/-- All of the bytes, read as a snapshot. -/
def readAll (stored : Bytes) : EStateM.Result DecodeError (Cursor Nat) Snapshot :=
  read (Nesting.limited maxNesting) (stored.length / 4) { rest := stored, nesting := 0 }

/-- What reading leaves behind the last item, or where it fails. -/
def unread (stored : Bytes) : Bytes :=
  match readAll stored with
  | .ok _ after | .error _ after => after.rest

/-- What successful decoding has checked. -/
theorem checked_of_decode (decoded : decode stored = .ok snapshot) :
    snapshot.formVersion = version ∧ snapshot.items ≠ [] ∧
      ∃ after, readAll stored = .ok snapshot after := by
  simp only [decode, decodeFrom] at decoded
  cases versioned : readVersion { rest := stored, nesting := 0 } with
  | error fault after => simp [versioned] at decoded
  | ok found middle =>
    by_cases current : found = version
    · cases whole : readAll stored with
      | error fault after =>
        unfold readAll at whole
        simp [versioned, current, whole] at decoded
      | ok result after =>
        have same : result = snapshot ∧ result.items ≠ [] := by
          unfold readAll at whole
          simp only [versioned, current, whole] at decoded
          by_cases empty : result.items = [] <;> simp_all
        obtain ⟨rfl, nonempty⟩ := same
        obtain ⟨_, again⟩ := readVersion_of_read whole
        rw [versioned] at again
        obtain ⟨rfl, -⟩ := EStateM.Result.ok.inj again
        exact ⟨current, nonempty, after, rfl⟩
    · simp [versioned, current] at decoded

/-- Bytes that decode are what would be written, and then whatever was not read. -/
theorem split_of_decode (decoded : decode stored = .ok snapshot) :
    stored = snapshot.bytes ++ unread stored ∧
      ∀ item ∈ snapshot.items, item.depth ≤ maxNesting := by
  obtain ⟨-, -, after, whole⟩ := checked_of_decode decoded
  have took := spells_read _ _ _ _ (Nat.zero_le maxNesting) whole
  have rest : unread stored = after.rest := by
    rw [unread, whole]
  have within : 0 + deepest Item.depth snapshot.items ≤ maxNesting := took.within
  rw [Nat.zero_add] at within
  exact ⟨rest ▸ took.bytes, deepest_le_iff.mp within⟩

/-- Only what was written decodes: the snapshot is of the current version, has items, and none of them
nests too deep; the bytes are its own with what was not read behind them. So exactly the bytes that
were read to their end are encoded again, and no others without a remainder decode to it. -/
theorem decode_canonical (decoded : decode stored = .ok snapshot) :
    snapshot.formVersion = 1 ∧ snapshot.items ≠ [] ∧ (∀ item ∈ snapshot.items, item.depth ≤ 128) ∧
      (∃ front, encode snapshot = .ok front ∧ stored = front ++ unread stored) ∧
      (encode snapshot = .ok stored ↔ unread stored = []) ∧
      ∀ other, decode other = .ok snapshot → unread stored = [] → unread other = [] →
        other = stored := by
  obtain ⟨current, nonempty, -⟩ := checked_of_decode decoded
  obtain ⟨split, shallow⟩ := split_of_decode decoded
  have encoded : encode snapshot = .ok snapshot.bytes := by simp [encode, nonempty]
  refine ⟨current, nonempty, shallow, ⟨_, encoded, split⟩, ?_, ?_⟩
  · constructor
    · intro again
      rw [encoded] at again
      have whole : snapshot.bytes = stored := Except.ok.inj again
      have size := congrArg List.length split
      rw [List.length_append, whole] at size
      exact List.length_eq_zero_iff.mp (by omega)
    · intro nothing
      rw [nothing, List.append_nil] at split
      rw [encoded, ← split]
  · intro other decodedOther nothing nothingOther
    obtain ⟨splitOther, -⟩ := split_of_decode decodedOther
    rw [nothing, List.append_nil] at split
    rw [nothingOther, List.append_nil] at splitOther
    exact splitOther.trans split.symm

/-- The byte behind the only item is not its own. -/
theorem decode_canonical_null :
    decode [1, 0, 0, 0, 1, 0, 0, 0, 0, 0, 0, 0, 0, 0, 0, 0, 1, 0, 0, 0, 0, 0, 0, 0, 9] =
        .ok { items := [.expression .null] } ∧
      ∃ front, encode { items := [.expression .null] } = .ok front ∧
        [1, 0, 0, 0, 1, 0, 0, 0, 0, 0, 0, 0, 0, 0, 0, 0, 1, 0, 0, 0, 0, 0, 0, 0, 9] =
          front ++ [9] := by
  have decoded : decode [1, 0, 0, 0, 1, 0, 0, 0, 0, 0, 0, 0, 0, 0, 0, 0, 1, 0, 0, 0, 0, 0, 0, 0, 9] =
      .ok { items := [.expression .null] } := by rfl
  obtain ⟨-, -, -, split, -⟩ := decode_canonical decoded
  exact ⟨decoded, split⟩

end Snapshot
end ConstraintTree
