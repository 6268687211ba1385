import ConstraintTree.Proofs.Snapshot.Depth
import ConstraintTree.Snapshot.Reader

/-!
What a reader makes of bytes that were written for it. While the nesting of the value stays within
the limit, the reader restores the value and leaves what follows; beyond the limit it fails for that
reason. The laws follow the ways in which readers are put together.
-/
namespace ConstraintTree.Reader

/-- The reader restores the value from the bytes where `depth` more fields can be opened, and refuses
to go so deep elsewhere. -/
structure Restores (limit depth : Nat) (reader : Reader Nat α) (written : Bytes) (value : α) :
    Prop where
  within : ∀ opened rest, opened + depth ≤ limit →
    reader { rest := written ++ rest, nesting := opened } = .ok value { rest, nesting := opened }
  beyond : ∀ opened rest, opened ≤ limit → limit < opened + depth →
    ∃ after, reader { rest := written ++ rest, nesting := opened } =
      .error (.nestedTooDeep limit) after

namespace Restores

/-- A reader that opens no field cannot go too deep. -/
theorem flat {reader : Reader Nat α} (read : ∀ opened rest,
    reader { rest := written ++ rest, nesting := opened } = .ok value { rest, nesting := opened }) :
    Restores limit 0 reader written value where
  within opened rest _ := read opened rest
  beyond opened rest shallow deep := by omega

theorem done (value : α) : Restores limit 0 (pure value) [] value := flat fun _ _ => rfl

theorem bind {reader : Reader Nat α} {next : α → Reader Nat β}
    (first : Restores limit depth reader written value)
    (second : Restores limit depth' (next value) written' value') :
    Restores limit (max depth depth') (reader >>= next) (written ++ written') value' where
  within opened rest room := by
    rw [List.append_assoc, bind_of_ok (first.within opened (written' ++ rest) (by omega))]
    exact second.within opened rest (by omega)
  beyond opened rest shallow deep := by
    rw [List.append_assoc]
    by_cases fits : opened + depth ≤ limit
    -- The second part goes too deep, or the first one does before it.
    · rw [bind_of_ok (first.within opened (written' ++ rest) fits)]
      exact second.beyond opened rest shallow (by omega)
    · obtain ⟨after, failed⟩ := first.beyond opened (written' ++ rest) shallow (by omega)
      exact ⟨after, bind_of_error failed⟩

/-- The last step of a reader, behind which only the value is put together. -/
theorem last {reader : Reader Nat α} {next : α → Reader Nat β}
    (restores : Restores limit depth reader written value) (same : next value = pure value') :
    Restores limit depth (reader >>= next) written value' := by
  have whole := restores.bind (same ▸ done value')
  rwa [Nat.max_zero, List.append_nil] at whole

/-- Bytes and depth under other names. -/
theorem as {reader : Reader Nat α} (restores : Restores limit depth reader written value)
    (bytes : written' = written) (deep : depth' = depth) :
    Restores limit depth' reader written' value := by
  rwa [bytes, deep]

/-- A child field takes one level, whatever is in it. -/
theorem field {child : Reader Nat α} (restores : Restores limit depth child written value) :
    Restores limit (depth + 1) (Reader.field (Nesting.limited limit) child) written value where
  within opened rest room := by
    have below : opened < limit := by omega
    have read := restores.within (opened + 1) rest (by omega)
    simp [Reader.field, Nesting.limited, below, read]
  beyond opened rest shallow deep := by
    by_cases below : opened < limit
    · obtain ⟨after, failed⟩ := restores.beyond (opened + 1) rest below (by omega)
      refine ⟨{ after with nesting := after.nesting - 1 }, ?_⟩
      simp [Reader.field, Nesting.limited, below, failed]
    · refine ⟨{ rest := written ++ rest, nesting := opened }, ?_⟩
      simp [Reader.field, Nesting.limited, below]

theorem take {front : Bytes} (missing : DecodeError) (size : front.length = count) :
    Restores limit 0 (Reader.take count missing) front front := by
  refine flat fun opened rest => ?_
  simp [Reader.take, ← size, Bytes.split?_append]

theorem nat (width : Nat) (small : value < Bytes.capacity width) :
    Restores limit 0 (Reader.nat width) (Bytes.ofNat width value) value := by
  refine (take .endOfInput (Bytes.length_ofNat width value)).last ?_
  rw [Bytes.toNat_ofNat, Nat.mod_eq_of_lt small]

theorem byte (value : UInt8) : Restores limit 0 Reader.byte [value] value := by
  have digit : Restores limit 0 (Reader.nat 1) [value] value.toNat := by
    have written : Bytes.ofNat 1 value.toNat = [value] := by simp [Bytes.ofNat]
    exact written ▸ nat 1 value.toNat_lt
  refine digit.last ?_
  rw [UInt8.ofNat_toNat]

theorem variant [DecidableEq α] [Listed α] (value : α)
    (few : (Listed.values : List α).length ≤ Bytes.capacity 4 := by decide) :
    Restores limit 0 (Reader.variant : Reader Nat α) (Bytes.ofVariant value) value := by
  have index : Restores limit 0 (Reader.nat 4) (Bytes.ofVariant value) (Listed.position value) :=
    nat 4 (Nat.lt_of_lt_of_le (Listed.position_lt value) few)
  refine index.last ?_
  rw [Listed.getElem?_position]

theorem flag (value : Bool) : Restores limit 0 Reader.flag (Bytes.ofFlag value) value := by
  refine (byte (if value then 1 else 0)).last ?_
  cases value <;> rfl

theorem length {length : Nat} (few : Countable length) :
    Restores limit 0 (Reader.nat 8) (Bytes.ofLength length) length := nat 8 few

theorem text {text : String} (few : Utf8.Countable text) :
    Restores limit 0 Reader.text (Bytes.ofText text) text := by
  refine (length few).bind ((take .endOfText rfl).last ?_)
  rw [Utf8.decode_encode]

theorem number (value : Binary64) : Restores limit 0 Reader.number (Bytes.ofNumber value) value := by
  refine (nat 8 value.bits.toNat_lt).last ?_
  rw [UInt64.ofNat_toNat]

theorem option {reader : Reader Nat α} {write : α → Bytes} {depth : α → Nat} {value : Option α}
    (present : ∀ inner ∈ value, Restores limit (depth inner) reader (write inner) inner) :
    Restores limit ((value.map depth).getD 0) (Reader.option reader) (Bytes.ofOption write value)
      value := by
  cases value with
  | none => exact (byte 0).last rfl
  | some inner =>
    have found : Restores limit (depth inner) (reader >>= fun found => pure (some found))
        (write inner) (some inner) := (present inner rfl).last rfl
    have whole : Restores limit (max 0 (depth inner)) (Reader.option reader) ([1] ++ write inner)
        (some inner) := (byte 1).bind found
    rwa [Nat.zero_max] at whole

theorem many {reader : Reader Nat α} {write : α → Bytes} {depth : α → Nat} {values : List α}
    (each : ∀ value ∈ values, Restores limit (depth value) reader (write value) value) :
    Restores limit (deepest depth values) (Reader.many reader values.length)
      (values.flatMap write) values := by
  induction values with
  | nil => exact done []
  | cons head rest ih =>
    have inRest := ih fun value member => each value (List.mem_cons_of_mem _ member)
    exact (each head List.mem_cons_self).bind (inRest.last rfl)

theorem list {reader : Reader Nat α} {write : α → Bytes} {depth : α → Nat} {values : List α}
    (few : Countable values.length)
    (each : ∀ value ∈ values, Restores limit (depth value) reader (write value) value) :
    Restores limit (deepest depth values) (Reader.list reader) (Bytes.ofList write values)
      values := by
  have whole := (length few).bind (many each)
  rwa [Nat.zero_max] at whole

/-- As far as its parts are restored below some depth, so is a list that keeps below it. -/
theorem listBelow {reader : Reader Nat α} {write : α → Bytes} (depth : α → Nat) {values : List α}
    (few : Countable values.length)
    (each : ∀ value ∈ values, depth value < bound →
      Restores limit (depth value) reader (write value) value)
    (below : deepest depth values < bound) :
    Restores limit (deepest depth values) (Reader.list reader) (Bytes.ofList write values)
      values := by
  refine list few fun value member => each value member ?_
  exact Nat.lt_of_le_of_lt (depth_le_deepest depth member) below

theorem optionBelow {reader : Reader Nat α} {write : α → Bytes} (depth : α → Nat) {value : Option α}
    (present : ∀ inner ∈ value, depth inner < bound →
      Restores limit (depth inner) reader (write inner) inner)
    (below : (value.map depth).getD 0 < bound) :
    Restores limit ((value.map depth).getD 0) (Reader.option reader) (Bytes.ofOption write value)
      value := by
  refine option fun inner member => present inner member ?_
  rwa [Option.mem_def.mp member] at below

end Restores
end ConstraintTree.Reader
