import ConstraintTree.Proofs.Snapshot.Lockstep

namespace ConstraintTree

/-- Splitting off a front does not depend on what follows. -/
theorem Bytes.split?_extended {bytes front back : Bytes} (found : split? count bytes = some (front, back))
    (trailing : Bytes) : split? count (bytes ++ trailing) = some (front, back ++ trailing) := by
  obtain ⟨rfl, rfl⟩ := eq_append_of_split? found
  rw [List.append_assoc]
  exact split?_append front (back ++ trailing)

namespace Reader

/-- Runs with the same books, of which the second has further bytes. The first alone may stop, and
only for want of input. -/
def Pairing.overMoreBytes (σ : Type) (trailing : Bytes) : Pairing σ σ where
  Abreast before before' :=
    before'.rest = before.rest ++ trailing ∧ before'.nesting = before.nesting
  Shared _ := True
  Parted fault _ := fault.isEndOfInput = true

namespace Extended

variable {σ : Type} (trailing : Bytes)

theorem take (count : Nat) (missing : DecodeError) (atEnd : missing.isEndOfInput) :
    (Pairing.overMoreBytes σ trailing).Runs (Reader.take count missing)
      (Reader.take count missing) := by
  constructor
  · rintro before before' ⟨longer, books⟩
    simp only [Reader.take, longer]
    cases found : Bytes.split? count before.rest with
    | none => exact .alone _ atEnd
    | some parts =>
      obtain ⟨front, back⟩ := parts
      rw [Bytes.split?_extended found]
      exact .value front ⟨rfl, books⟩
  · intro fault before' parted
    exact parted

theorem field (nesting : Nesting σ) {first second : Reader σ α}
    (runs : (Pairing.overMoreBytes σ trailing).Runs first second) :
    (Pairing.overMoreBytes σ trailing).Runs (Reader.field nesting first)
      (Reader.field nesting second) := by
  constructor
  · rintro before before' ⟨longer, books⟩
    simp only [Reader.field, books]
    cases opened : nesting.enter before.nesting with
    | error limit => exact .fault trivial ⟨longer, books⟩
    | ok entered =>
      have here := runs.outcome { before with nesting := entered }
        { before' with nesting := entered } ⟨longer, rfl⟩
      dsimp only
      generalize first { before with nesting := entered } = left at here ⊢
      generalize second { before' with nesting := entered } = right at here ⊢
      cases here with
      | value found abreast => exact .value found ⟨abreast.1, congrArg nesting.leave abreast.2⟩
      | fault shared abreast => exact .fault shared ⟨abreast.1, congrArg nesting.leave abreast.2⟩
      | alone result parted => exact .alone _ parted
  · intro fault before' parted
    exact parted

theorem sound (nesting : Nesting σ) :
    (Pairing.overMoreBytes σ trailing).Sound nesting nesting where
  shared _ _ := trivial
  take := take trailing
  field := field trailing nesting

theorem loose : (Pairing.overMoreBytes σ trailing).Loose where
  short _ := rfl
  blind _ _ _ parted := parted

end Extended
end Reader

namespace Snapshot

/-- Decoding finds the same with further bytes, and in the same way, unless it stopped for want of
bytes. -/
theorem decodeFrom_extended (nesting : Nesting σ) (opened : σ) (stored trailing : Bytes) :
    (decodeFrom nesting opened (stored ++ trailing)).1 = (decodeFrom nesting opened stored).1 ∨
      ∃ fault, fault.isEndOfInput = true ∧
        (decodeFrom nesting opened stored).1 = .error (.malformed fault) := by
  have enough : (Reader.Pairing.overMoreBytes σ trailing).Suffices (stored.length / 4)
      ((stored ++ trailing).length / 4) := by
    refine .inr ⟨?_, Reader.Extended.loose trailing⟩
    rw [List.length_append]
    omega
  have sound := Reader.Extended.sound trailing nesting
  have versions := sound.version.outcome { rest := stored, nesting := opened }
    { rest := stored ++ trailing, nesting := opened } ⟨rfl, rfl⟩
  have wholes := (sound.snapshot enough).outcome { rest := stored, nesting := opened }
    { rest := stored ++ trailing, nesting := opened } ⟨rfl, rfl⟩
  simp only [decodeFrom]
  generalize readVersion { rest := stored, nesting := opened } = left at versions ⊢
  generalize readVersion { rest := stored ++ trailing, nesting := opened } = right at versions ⊢
  generalize read nesting _ { rest := stored, nesting := opened } = left' at wholes ⊢
  generalize read nesting _ { rest := stored ++ trailing, nesting := opened } = right' at wholes ⊢
  cases versions with
  | alone _ short => exact .inr ⟨_, short, rfl⟩
  | fault _ _ => exact .inl rfl
  | value found _ =>
    by_cases foreign : found ≠ version
    · simp [foreign]
    · simp only [foreign, if_false]
      cases wholes with
      | alone _ short => exact .inr ⟨_, short, rfl⟩
      | fault _ _ => exact .inl rfl
      | value snapshot _ =>
        left
        dsimp only
        split <;> rfl

/-- What decoding finds in some bytes, be it a snapshot or an error, it finds whatever follows them.
Only an error for want of bytes can change: too few of them for a value of fixed size, or fewer than a
string announces. -/
theorem decode_append {stored : Bytes} (decided : ∀ fault, fault = .endOfInput ∨ fault = .endOfText →
    decode stored ≠ .error (.malformed fault)) (trailing : Bytes) :
    decode (stored ++ trailing) = decode stored := by
  rcases decodeFrom_extended (Nesting.limited maxNesting) 0 stored trailing with
    same | ⟨fault, short, failed⟩
  · exact same
  · exact absurd failed (decided fault (DecodeError.isEndOfInput_iff.mp short))

/-- A call of two arguments, of which the second is of an unknown variant. -/
def brokenCall : Bytes :=
  [1, 0, 0, 0, 1, 0, 0, 0, 0, 0, 0, 0, 0, 0, 0, 0, 4, 0, 0, 0, 1, 0, 0, 0, 0, 0, 0, 0, 102,
    2, 0, 0, 0, 0, 0, 0, 0, 1, 0, 0, 0, 0, 0, 0, 0, 9, 0, 0, 0]

/-- A fault deep in a tree and a foreign version stay what they are. -/
theorem decode_append_broken :
    decode brokenCall = .error (.malformed (.unknownVariant 9 8)) ∧
      decode (brokenCall ++ [1, 2, 3]) = .error (.malformed (.unknownVariant 9 8)) ∧
      decode ([2, 0, 0, 0] ++ brokenCall) = .error (.unsupportedVersion 2 1) := by
  have broken : decode brokenCall = .error (.malformed (.unknownVariant 9 8)) := rfl
  have foreign : decode [2, 0, 0, 0] = .error (.unsupportedVersion 2 1) := rfl
  refine ⟨broken, ?_, ?_⟩
  · exact (decode_append (by simp [broken]) [1, 2, 3]).trans broken
  · exact (decode_append (by simp [foreign]) brokenCall).trans foreign

end Snapshot
end ConstraintTree
