import ConstraintTree.Proofs.Snapshot.RoundTrip

namespace ConstraintTree

/-- A reader that restores two values from the same bytes restores one value, and leaves one rest. -/
theorem Reader.Restores.unique (first : Restores limit depth reader written value)
    (second : Restores limit depth' reader written' value') (room : depth ≤ limit)
    (room' : depth' ≤ limit) (same : written ++ trailing = written' ++ trailing') :
    value = value' ∧ trailing = trailing' := by
  have read := first.within 0 trailing (by omega)
  have read' := second.within 0 trailing' (by omega)
  rw [same, read'] at read
  obtain ⟨sameValue, sameCursor⟩ := EStateM.Result.ok.inj read
  exact ⟨sameValue.symm, congrArg Cursor.rest sameCursor.symm⟩

namespace Snapshot

/-- Snapshots that have a stored form: there is something to store, and all texts and lists can be
counted. How deep the trees nest does not matter. -/
structure Writable (snapshot : Snapshot) : Prop where
  nonempty : snapshot.items ≠ []
  few : Countable snapshot.items.length
  storable : ∀ item ∈ snapshot.items, item.Storable

theorem Writable.encode_eq (writable : Writable snapshot) : encode snapshot = .ok snapshot.bytes := by
  simp [encode, writable.nonempty]

/-- What is written for two snapshots begins the same bytes only if they are one. -/
theorem bytes_unique (writable : Writable first) (writable' : Writable second)
    (same : first.bytes ++ trailing = second.bytes ++ trailing') :
    first = second ∧ trailing = trailing' := by
  have enough := deepest_lt_nodes first trailing
  have enough' := deepest_lt_nodes second trailing'
  rw [← same] at enough'
  -- The limit of decoding may be too low for either; one that lies above both refuses neither.
  let limit := max (deepest Item.depth first.items) (deepest Item.depth second.items)
  have restores : Reader.Restores limit _ _ first.bytes first :=
    restores_read writable.few writable.storable enough
  have restores' : Reader.Restores limit _ _ second.bytes second :=
    restores_read writable'.few writable'.storable enough'
  exact restores.unique restores' (Nat.le_max_left _ _) (Nat.le_max_right _ _) same

/-- Stored forms are uniquely decodable at every depth: whatever follows them, the same bytes come
from the same snapshot, of which every bit is settled, and leave the same rest. So no stored form is a
proper front of another, and no two snapshots have the same. -/
theorem encode_prefix_free (writable : Writable first) (writable' : Writable second) :
    ∃ written written', encode first = .ok written ∧ encode second = .ok written' ∧
      (∀ trailing trailing', written ++ trailing = written' ++ trailing' →
        first = second ∧ trailing = trailing') ∧
      (written <+: written' → written = written') ∧
      (written = written' → first = second) := by
  refine ⟨first.bytes, second.bytes, writable.encode_eq, writable'.encode_eq, ?_, ?_, ?_⟩
  · intro trailing trailing' same
    exact bytes_unique writable writable' same
  · rintro ⟨trailing, same⟩
    have split : first.bytes ++ trailing = second.bytes ++ [] := by rw [same, List.append_nil]
    obtain ⟨rfl, -⟩ := bytes_unique writable writable' split
    rfl
  · intro same
    exact (bytes_unique writable writable' (congrArg (· ++ []) same)).1

/-- Negations one inside another, around a predicate without arguments. -/
def negations : Nat → Predicate
  | 0 => .atom "p" []
  | count + 1 => .negation (negations count)

private theorem storable_negations (count : Nat) : (negations count).Storable := by
  induction count with
  | zero => exact .atom (by decide) (by decide) (by simp)
  | succ count ih => exact .negation ih

private theorem depth_negations (count : Nat) : (negations count).depth = count + 1 := by
  induction count with
  | zero => rfl
  | succ count ih => rw [negations, Predicate.depth, ih]

/-- Also of two snapshots that are not decoded for their nesting, neither begins the other. -/
theorem encode_prefix_free_negations :
    ∃ written written', encode { items := [.predicate (negations 128)] } = .ok written ∧
      encode { items := [.predicate (negations 200)] } = .ok written' ∧ ¬written <+: written' := by
  have writable (count : Nat) : Writable { items := [.predicate (negations count)] } :=
    ⟨by simp, (by decide : Countable 1), by simpa [Item.Storable] using storable_negations count⟩
  obtain ⟨written, written', encoded, encoded', -, front, injective⟩ :=
    encode_prefix_free (writable 128) (writable 200)
  refine ⟨written, written', encoded, encoded', fun begins => ?_⟩
  have depths : (negations 128).depth = (negations 200).depth := by
    simpa [Item.depth] using
      congrArg (fun snapshot => deepest Item.depth snapshot.items) (injective (front begins))
  simp [depth_negations] at depths

end Snapshot
end ConstraintTree
