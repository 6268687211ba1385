import ConstraintTree.Proofs.Snapshot.Canonical
import ConstraintTree.Proofs.Snapshot.Extension
import ConstraintTree.Proofs.Snapshot.RoundTrip

namespace ConstraintTree.Snapshot

theorem length_bytes_le (decoded : decode stored = .ok snapshot) :
    snapshot.bytes.length ≤ stored.length := by
  obtain ⟨split, -⟩ := split_of_decode decoded
  rw [split, List.length_append]
  omega

section Cut

variable (snapshot : Snapshot) (current : snapshot.formVersion = version)
  (few : Countable snapshot.items.length) (storable : ∀ item ∈ snapshot.items, item.Storable)
  (nonempty : snapshot.items ≠ []) (front : Bytes) (cut : front <+: snapshot.bytes)
  (proper : front ≠ snapshot.bytes)

include current few storable nonempty cut proper

/-- Decoding stops for want of bytes, or else before the cut for the nesting of the trees. -/
theorem decode_cut :
    ∃ fault, decode front = .error (.malformed fault) ∧
      (fault.isEndOfInput = true ∨
        fault = .nestedTooDeep maxNesting ∧ ∃ item ∈ snapshot.items, maxNesting < item.depth) := by
  obtain ⟨rest, whole⟩ := cut
  rcases decodeFrom_extended (Nesting.limited maxNesting) 0 front rest with
    same | ⟨fault, short, failed⟩
  · change decode (front ++ rest) = decode front at same
    rw [whole] at same
    by_cases deep : ∃ item ∈ snapshot.items, maxNesting < item.depth
    · have refused := decode_deep snapshot current few storable [] deep
      rw [List.append_nil, same] at refused
      exact ⟨_, refused, .inr ⟨rfl, deep⟩⟩
    -- A front that is decided would decode to the whole, for which it is too short.
    · have shallow : ∀ item ∈ snapshot.items, item.depth ≤ maxNesting := by simpa using deep
      have decoded := decode_shallow snapshot current few storable [] nonempty shallow
      rw [List.append_nil, same] at decoded
      have length := length_bytes_le decoded
      exact absurd (List.IsPrefix.eq_of_length_le ⟨rest, whole⟩ length) proper
  · exact ⟨fault, failed, .inl short⟩

end Cut

/-- Every proper front of what is written for a snapshot is refused as malformed, however deep its
items nest; where they all keep to 128 levels, it is refused for want of bytes. -/
theorem decode_truncated (items : List Item) (nonempty : items ≠ [])
    (few : items.length < UInt64.size) (storable : ∀ item ∈ items, item.Storable) :
    ∃ bytes, encode { items } = .ok bytes ∧
      ∀ front, front <+: bytes → front ≠ bytes →
        ∃ fault, decode front = .error (.malformed fault) ∧
          ((∀ item ∈ items, item.depth ≤ 128) → fault = .endOfInput ∨ fault = .endOfText) := by
  refine ⟨bytes { items }, by simp [encode, nonempty], fun front cut proper => ?_⟩
  obtain ⟨fault, failed, short | ⟨-, item, member, deep⟩⟩ :=
    decode_cut { items } rfl few storable nonempty front cut proper
  · exact ⟨fault, failed, fun _ => DecodeError.isEndOfInput_iff.mp short⟩
  · exact ⟨fault, failed, fun shallow => absurd (shallow item member) (Nat.not_le.mpr deep)⟩

/-- A call whose last argument is a text of one letter that takes two bytes. -/
def accentedCall : List Item := [.expression (.call "f" [.null, .text "é"])]

/-- A cut between the two bytes of the letter is no fault of the text but a want of bytes. -/
theorem decode_truncated_accent :
    ∃ bytes, encode { items := accentedCall } = .ok bytes ∧
      ∃ fault, decode bytes.dropLast = .error (.malformed fault) ∧
        (fault = .endOfInput ∨ fault = .endOfText) := by
  have text : Utf8.Countable "é" := by decide
  have call : (Expr.call "f" [.null, .text "é"]).Storable := by
    refine .call (by decide) (by decide) ?_
    simpa using ⟨.literal trivial, .literal text⟩
  obtain ⟨bytes, encoded, refused⟩ :=
    decode_truncated accentedCall (by decide) (by decide)
      (by simpa [accentedCall, Item.Storable] using call)
  have written : bytes ≠ [] := by
    rintro rfl
    cases encoded
  have shorter : bytes.dropLast ≠ bytes := by
    intro same
    have length := congrArg List.length same
    have positive := List.length_pos_iff.mpr written
    rw [List.length_dropLast] at length
    omega
  obtain ⟨fault, failed, short⟩ := refused bytes.dropLast (List.dropLast_prefix bytes) shorter
  exact ⟨bytes, encoded, fault, failed, short (by decide)⟩

end ConstraintTree.Snapshot
