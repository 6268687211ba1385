import ConstraintTree.Proofs.Snapshot.Depth
import ConstraintTree.Snapshot.Reader

namespace ConstraintTree.Reader

/-- From one cursor to another, exactly these bytes were taken, and the fields went so deep. -/
structure Took (limit depth : Nat) (written : Bytes) (before after : Cursor Nat) : Prop where
  bytes : before.rest = written ++ after.rest
  closed : after.nesting = before.nesting
  within : before.nesting + depth ≤ limit

/-- Every successful reading takes the bytes that are written for its value. -/
def Spells (limit : Nat) (reader : Reader Nat α) (write : α → Bytes) (depth : α → Nat) : Prop :=
  ∀ before value after, before.nesting ≤ limit → reader before = .ok value after →
    Took limit (depth value) (write value) before after

namespace Took

theorem nothing (room : before.nesting ≤ limit) : Took limit 0 [] before before :=
  ⟨rfl, rfl, room⟩

theorem room (took : Took limit depth written before after) : after.nesting ≤ limit := by
  have within := took.within
  rw [took.closed]
  omega

theorem trans (first : Took limit depth written before middle)
    (second : Took limit depth' written' middle after) :
    Took limit (max depth depth') (written ++ written') before after := by
  refine ⟨?_, second.closed.trans first.closed, ?_⟩
  · rw [first.bytes, second.bytes, List.append_assoc]
  · have outer := first.within
    have inner := second.within
    rw [first.closed] at inner
    omega

/-- One more step of a reader, behind what has been taken so far. -/
theorem step {reader : Reader Nat α} {next : α → Reader Nat β}
    (took : Took limit depth written start before) (spells : Spells limit reader write below)
    (read : (reader >>= next) before = .ok value after) :
    ∃ found middle, Took limit (max depth (below found)) (written ++ write found) start middle ∧
      next found middle = .ok value after := by
  obtain ⟨found, middle, first, rest⟩ := ok_of_bind read
  exact ⟨found, middle, took.trans (spells before found middle took.room first), rest⟩

theorem as (took : Took limit depth written before after) (bytes : written' = written)
    (deep : depth' = depth) : Took limit depth' written' before after := by
  rwa [bytes, deep]

end Took

private theorem took_take (room : before.nesting ≤ limit)
    (read : take count missing before = .ok front after) :
    Took limit 0 front before after ∧ front.length = count := by
  unfold take at read
  split at read
  · rename_i taken back found
    obtain ⟨rfl, rfl⟩ := EStateM.Result.ok.inj read
    obtain ⟨same, size⟩ := Bytes.eq_append_of_split? found
    exact ⟨⟨same, rfl, room⟩, size⟩
  · cases read

theorem took_nat (room : before.nesting ≤ limit) (read : nat width before = .ok value after) :
    Took limit 0 (Bytes.ofNat width value) before after ∧ value < Bytes.capacity width := by
  obtain ⟨digits, middle, taken, made⟩ := ok_of_bind read
  obtain ⟨rfl, rfl⟩ := ok_of_pure made
  obtain ⟨took, rfl⟩ := took_take room taken
  refine ⟨took.as (Bytes.ofNat_toNat digits) rfl, ?_⟩
  exact Bytes.toNat_lt digits

namespace Spells

theorem variant [DecidableEq α] [Listed α] :
    Spells limit (Reader.variant : Reader Nat α) Bytes.ofVariant fun _ => 0 := by
  intro before value after room read
  obtain ⟨index, middle, counted, found⟩ := ok_of_bind read
  cases place : (Listed.values : List α)[index]? with
  | none =>
    rw [place] at found
    cases found
  | some listed =>
    rw [place] at found
    obtain ⟨rfl, rfl⟩ := ok_of_pure found
    rw [Bytes.ofVariant, Listed.position_of_getElem? place]
    exact (took_nat room counted).1

theorem byte : Spells limit Reader.byte (fun value => [value]) fun _ => 0 := by
  intro before value after room read
  obtain ⟨index, middle, counted, found⟩ := ok_of_bind read
  obtain ⟨rfl, rfl⟩ := ok_of_pure found
  exact (took_nat room counted).1

theorem flag : Spells limit Reader.flag Bytes.ofFlag fun _ => 0 := by
  intro before value after room read
  obtain ⟨found, middle, took, rest⟩ := (Took.nothing room).step byte read
  split at rest
  · obtain ⟨rfl, rfl⟩ := ok_of_pure rest
    exact took
  · obtain ⟨rfl, rfl⟩ := ok_of_pure rest
    exact took
  · cases rest

theorem length : Spells limit (Reader.nat 8) Bytes.ofLength fun _ => 0 :=
  fun _ _ _ room read => (took_nat room read).1

theorem text : Spells limit Reader.text Bytes.ofText fun _ => 0 := by
  intro before value after room read
  obtain ⟨size, middle, took, rest⟩ := (Took.nothing room).step length read
  obtain ⟨content, _, taken, decoded⟩ := ok_of_bind rest
  obtain ⟨inside, rfl⟩ := took_take took.room taken
  cases valid : Utf8.decode content with
  | error fault =>
    rw [valid] at decoded
    cases decoded
  | ok text =>
    rw [valid] at decoded
    obtain ⟨rfl, rfl⟩ := ok_of_pure decoded
    have same := Utf8.eq_encode_of_decode valid
    refine (took.trans inside).as ?_ rfl
    rw [Bytes.ofText, ← same]
    rfl

theorem number : Spells limit Reader.number Bytes.ofNumber fun _ => 0 := by
  intro before value after room read
  obtain ⟨bits, middle, counted, found⟩ := ok_of_bind read
  obtain ⟨rfl, rfl⟩ := ok_of_pure found
  obtain ⟨took, small⟩ := took_nat room counted
  refine took.as ?_ rfl
  exact congrArg (Bytes.ofNat 8) (UInt64.toNat_ofNat_of_lt' small)

theorem option {reader : Reader Nat α} (spells : Spells limit reader write depth) :
    Spells limit (Reader.option reader) (Bytes.ofOption write)
      fun value => (value.map depth).getD 0 := by
  intro before value after room read
  obtain ⟨found, middle, took, rest⟩ := (Took.nothing room).step byte read
  split at rest
  · obtain ⟨rfl, rfl⟩ := ok_of_pure rest
    exact took
  · obtain ⟨inner, _, took, rest⟩ := took.step spells rest
    obtain ⟨rfl, rfl⟩ := ok_of_pure rest
    exact took.as rfl (by simp)
  · cases rest

theorem many {reader : Reader Nat α} (spells : Spells limit reader write depth)
    (room : before.nesting ≤ limit) (read : Reader.many reader count before = .ok values after) :
    Took limit (deepest depth values) (values.flatMap write) before after ∧
      values.length = count := by
  induction count generalizing before values with
  | zero =>
    obtain ⟨rfl, rfl⟩ := ok_of_pure read
    exact ⟨.nothing room, rfl⟩
  | succ count ih =>
    obtain ⟨head, middle, first, read⟩ := ok_of_bind read
    obtain ⟨rest, _, others, read⟩ := ok_of_bind read
    obtain ⟨rfl, rfl⟩ := ok_of_pure read
    have took := spells before head middle room first
    obtain ⟨inRest, rfl⟩ := ih took.room others
    exact ⟨took.trans inRest, rfl⟩

theorem list {reader : Reader Nat α} (spells : Spells limit reader write depth) :
    Spells limit (Reader.list reader) (Bytes.ofList write) (deepest depth) := by
  intro before values after room read
  obtain ⟨count, middle, took, rest⟩ := (Took.nothing room).step length read
  obtain ⟨inside, rfl⟩ := many spells took.room rest
  exact (took.trans inside).as rfl (by simp)

/-- A child field was opened below the limit, and is closed again. -/
theorem field {child : Reader Nat α} (spells : Spells limit child write depth) :
    Spells limit (Reader.field (Nesting.limited limit) child) write
      fun value => depth value + 1 := by
  intro before value after room read
  by_cases below : before.nesting < limit
  · simp only [Reader.field, Nesting.limited, below, if_true] at read
    split at read
    · rename_i found middle inner
      obtain ⟨rfl, rfl⟩ := EStateM.Result.ok.inj read
      have took := spells { before with nesting := before.nesting + 1 } _ _ below inner
      have within : before.nesting + 1 + depth found ≤ limit := took.within
      refine ⟨took.bytes, ?_, ?_⟩
      · simp [took.closed]
      · change before.nesting + (depth found + 1) ≤ limit
        omega
    · cases read
  · simp [Reader.field, Nesting.limited, below] at read

end Spells
end ConstraintTree.Reader
