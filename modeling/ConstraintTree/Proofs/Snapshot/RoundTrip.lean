import ConstraintTree.Proofs.Snapshot.Restoring
import ConstraintTree.Snapshot.Continuation
import ConstraintTree.Snapshot.Decoding

namespace ConstraintTree

open Reader (Restores)

theorem Column.restores_read {column : Column} (storable : column.Storable) :
    Restores limit 0 Column.read column.encode column := by
  have table : Restores limit ((column.table.map fun _ => 0).getD 0) (Reader.option Reader.text)
      (Bytes.ofOption Bytes.ofText column.table) column.table :=
    .option fun name member => .text (storable.owned name member)
  have none : (column.table.map fun _ => 0).getD 0 = 0 := by cases column.table <;> rfl
  rw [none] at table
  exact table.bind ((Restores.text storable.named).last rfl)

theorem Literal.restores_read {literal : Literal} (storable : literal.Storable) :
    Restores limit 0 Literal.read literal.encode literal := by
  have kind (kind : LiteralKind) : Restores limit 0 (Reader.variant : Reader Nat LiteralKind)
      (Bytes.ofVariant kind) kind := .variant kind
  cases literal with
  | null => exact (kind .null).last rfl
  | boolean value => exact (kind .boolean).bind ((Restores.flag value).last rfl)
  | integer value =>
    refine (kind .integer).bind ((Restores.nat 8 value.toUInt64.toNat_lt).last ?_)
    rw [UInt64.ofNat_toNat, Int64.toInt64_toUInt64]
  | number value => exact (kind .number).bind ((Restores.number value).last rfl)
  | text content => exact (kind .text).bind ((Restores.text storable).last rfl)

theorem DimElement.restores_read {element : DimElement} (named : Utf8.Countable element.name) :
    Restores limit 0 DimElement.read element.encode element := by
  refine .as (.bind (.text named) <| .bind (.number element.lower) <|
    .bind (.number element.upper) <| .last (.number element.tolerance) rfl) ?_ rfl
  simp [encode]

namespace Expr

/-- Reading goes through as long as the nodes suffice, since each level takes one. -/
theorem restores_read {expr : Expr} (storable : expr.Storable) {nodes : Nat}
    (enough : expr.depth < nodes) :
    Restores limit expr.depth (Expr.read (Nesting.limited limit) nodes) expr.encode expr := by
  -- On the nodes and not on the tree: children of every kind are read with one node less.
  induction nodes generalizing expr with
  | zero => omega
  | succ nodes ih =>
    cases storable with
    | column storable =>
      exact .bind (.variant ExprKind.column) (.last (Column.restores_read storable) rfl)
    | literal storable =>
      exact .bind (.variant ExprKind.literal) (.last (Literal.restores_read storable) rfl)
    | binary op left right =>
      rw [depth] at enough
      refine .as (.bind (.variant ExprKind.binary) <| .bind (.variant op) <|
        .bind (.field (ih left (by omega))) <| .last (.field (ih right (by omega))) rfl) ?_ ?_
      · simp [encode]
      · rw [depth]
        omega
    | unary op operand =>
      rw [depth] at enough
      refine .as (.bind (.variant ExprKind.unary) <| .bind (.variant op) <|
        .last (.field (ih operand (by omega))) rfl) ?_ ?_
      · simp [encode]
      · rw [depth]
        omega
    | call named few each =>
      rw [depth, depthEach_eq] at enough
      refine .as (.bind (.variant ExprKind.call) <| .bind (.text named) <| .last (.field
        (.listBelow depth few (fun arg member => ih (each arg member)) (by omega))) rfl) ?_ ?_
      · simp [encode, encodeEach_eq_flatMap, Bytes.ofList]
      · rw [depth, depthEach_eq]
        omega
    | between negated test lower upper =>
      simp only [depth, depthOperand_eq] at enough
      refine .as (.bind (.variant ExprKind.between) <|
        .bind (.field (.optionBelow depth (fun expr member => ih (test expr member)) (by omega))) <|
        .bind (.field (.optionBelow depth (fun expr member => ih (lower expr member)) (by omega))) <|
        .bind (.field (.optionBelow depth (fun expr member => ih (upper expr member)) (by omega))) <|
        .last (.flag negated) rfl) ?_ ?_
      · simp [encode, encodeOperand_eq_ofOption]
      · simp only [depth, depthOperand_eq]
        omega
    | inList negated operand few each =>
      rw [depth, depthEach_eq] at enough
      refine .as (.bind (.variant ExprKind.inList) <| .bind (.field (ih operand (by omega))) <|
        .bind (.field (.listBelow depth few (fun choice member => ih (each choice member)) (by omega))) <|
        .last (.flag negated) rfl) ?_ ?_
      · simp [encode, encodeEach_eq_flatMap, Bytes.ofList]
      · rw [depth, depthEach_eq]
        omega
    | @dimArray elements few each =>
      have inside : Restores limit (deepest (fun _ => 0) elements) (Reader.list DimElement.read)
          (Bytes.ofList DimElement.encode elements) elements :=
        .list few fun element member => DimElement.restores_read (each element member)
      refine .as (.bind (.variant ExprKind.dimArray) (.last inside rfl)) ?_ ?_
      · simp [encode]
      · simp [depth]

end Expr

namespace Predicate

theorem restores_read {predicate : Predicate} (storable : predicate.Storable) {nodes : Nat}
    (enough : predicate.depth < nodes) :
    Restores limit predicate.depth (Predicate.read (Nesting.limited limit) nodes) predicate.encode
      predicate := by
  induction nodes generalizing predicate with
  | zero => omega
  | succ nodes ih =>
    cases storable with
    | @quantification bound condition quantifier named body =>
      have optional : Restores limit ((bound.map fun _ => 0).getD 0) (Reader.option Reader.text)
          (Bytes.ofOption Bytes.ofText bound) bound :=
        .option fun name member => .text (named name member)
      rw [depth, depthCondition_eq] at enough
      refine .as (.bind (.variant PredicateKind.quantification) <| .bind (.variant quantifier) <|
        .bind optional <| .last (.field
          (.optionBelow depth (fun predicate member => ih (body predicate member)) (by omega))) rfl) ?_ ?_
      · simp [encode, encodeCondition_eq_ofOption]
      · rw [depth, depthCondition_eq]
        cases bound <;> simp
    | atom named few each =>
      rw [depth] at enough
      refine .as (.bind (.variant PredicateKind.atom) <| .bind (.text named) <| .last (.field
        (.listBelow Expr.depth few (fun arg member => Expr.restores_read (each arg member)) (by omega))) rfl)
        ?_ ?_
      · simp [encode]
      · rw [depth]
        omega
    | negation operand =>
      rw [depth] at enough
      refine .as (.bind (.variant PredicateKind.negation) <|
        .last (.field (ih operand (by omega))) rfl) rfl ?_
      rw [depth]
      omega
    | junction op few each =>
      rw [depth, depthEach_eq] at enough
      refine .as (.bind (.variant PredicateKind.junction) <| .bind (.variant op) <| .last (.field
        (.listBelow depth few (fun operand member => ih (each operand member)) (by omega))) rfl) ?_ ?_
      · simp [encode, encodeEach_eq_flatMap, Bytes.ofList]
      · rw [depth, depthEach_eq]
        omega

end Predicate

theorem Item.restores_read {item : Item} (storable : item.Storable) {nodes : Nat}
    (enough : item.depth < nodes) :
    Restores limit item.depth (Item.read (Nesting.limited limit) nodes) item.encode item := by
  cases item with
  | expression tree =>
    refine .as (.bind (.variant ItemKind.expression) <|
      .last (Expr.restores_read storable enough) rfl) rfl ?_
    exact (Nat.zero_max _).symm
  | predicate tree =>
    refine .as (.bind (.variant ItemKind.predicate) <|
      .last (Predicate.restores_read storable enough) rfl) rfl ?_
    exact (Nat.zero_max _).symm

namespace Snapshot

theorem restores_readVersion (found : UInt32) :
    Restores limit 0 readVersion (Bytes.ofNat 4 found.toNat) found := by
  refine (Restores.nat 4 found.toNat_lt).last ?_
  rw [UInt32.ofNat_toNat]

theorem restores_read {snapshot : Snapshot} (few : Countable snapshot.items.length)
    (storable : ∀ item ∈ snapshot.items, item.Storable) {nodes : Nat}
    (enough : deepest Item.depth snapshot.items < nodes) :
    Restores limit (deepest Item.depth snapshot.items) (read (Nesting.limited limit) nodes)
      snapshot.bytes snapshot := by
  refine .as (.bind (restores_readVersion snapshot.formVersion) <| .last
    (.listBelow Item.depth few (fun item member => Item.restores_read (storable item member))
      enough) rfl) ?_ ?_
  · exact bytes_eq snapshot
  · omega

/-- The nodes that decoding allows suffice for whatever was written. -/
theorem deepest_lt_nodes (snapshot : Snapshot) (trailing : Bytes) :
    deepest Item.depth snapshot.items < (snapshot.bytes ++ trailing).length / 4 := by
  have listed := deepest_le_length fun item (_ : item ∈ snapshot.items) => item.depth_le_length
  have size : (snapshot.bytes ++ trailing).length =
      4 + (8 + (snapshot.items.flatMap Item.encode).length) + trailing.length := by
    simp [bytes_eq, Bytes.ofList, Nat.add_assoc]
  omega

/-- Whatever decoding says of bytes under the current version, the reading of the whole decides. -/
theorem decode_of_read (snapshot : Snapshot) (current : snapshot.formVersion = version)
    (trailing : Bytes) :
    decode (snapshot.bytes ++ trailing) =
      match read (Nesting.limited maxNesting) ((snapshot.bytes ++ trailing).length / 4)
        { rest := snapshot.bytes ++ trailing, nesting := 0 } with
      | .error fault _ => .error (.malformed fault)
      | .ok found _ => if found.items.isEmpty then .error .emptySnapshot else .ok found := by
  have versioned := (restores_readVersion snapshot.formVersion).within 0
    (Bytes.ofList Item.encode snapshot.items ++ trailing) (Nat.zero_le maxNesting)
  rw [← List.append_assoc, ← bytes_eq] at versioned
  simp only [decode, decodeFrom, versioned, current, ne_eq, not_true_eq_false, if_false]
  cases read (Nesting.limited maxNesting) ((snapshot.bytes ++ trailing).length / 4)
    { rest := snapshot.bytes ++ trailing, nesting := 0 } with
  | error fault after => simp only
  | ok found after => exact apply_ite Prod.fst _ _ _

section Written

variable (snapshot : Snapshot) (current : snapshot.formVersion = version)
  (few : Countable snapshot.items.length) (storable : ∀ item ∈ snapshot.items, item.Storable)
  (trailing : Bytes)

include current few storable

theorem decode_shallow (nonempty : snapshot.items ≠ [])
    (shallow : ∀ item ∈ snapshot.items, item.depth ≤ maxNesting) :
    decode (snapshot.bytes ++ trailing) = .ok snapshot := by
  have restores : Restores maxNesting _ _ _ _ :=
    restores_read few storable (deepest_lt_nodes snapshot trailing)
  have room : 0 + deepest Item.depth snapshot.items ≤ maxNesting := by
    rw [Nat.zero_add]
    exact deepest_le_iff.mpr shallow
  rw [decode_of_read snapshot current, restores.within 0 trailing room]
  simp [nonempty]

theorem decode_deep (deep : ∃ item ∈ snapshot.items, maxNesting < item.depth) :
    decode (snapshot.bytes ++ trailing) = .error (.malformed (.nestedTooDeep maxNesting)) := by
  have restores : Restores maxNesting _ _ _ _ :=
    restores_read few storable (deepest_lt_nodes snapshot trailing)
  obtain ⟨item, member, excess⟩ := deep
  have below := depth_le_deepest Item.depth member
  obtain ⟨after, failed⟩ := restores.beyond 0 trailing (Nat.zero_le _) (by omega)
  rw [decode_of_read snapshot current, failed]

end Written

/-- Decoding undoes encoding, whatever follows the bytes, exactly if every item keeps to 128 levels of
nesting. One that does not makes decoding fail for that reason alone. -/
theorem decode_encode_append (items : List Item) (nonempty : items ≠ [])
    (few : items.length < UInt64.size) (storable : ∀ item ∈ items, item.Storable) (trailing : Bytes) :
    ∃ bytes, encode { items } = .ok bytes ∧
      ((∀ item ∈ items, item.depth ≤ 128) → decode (bytes ++ trailing) = .ok { items }) ∧
      ((∃ item ∈ items, 128 < item.depth) →
        ∃ fault, decode (bytes ++ trailing) = .error (.malformed fault) ∧
          fault.message = "tree nested deeper than 128 levels") := by
  refine ⟨bytes { items }, by simp [encode, nonempty], ?_, ?_⟩
  · intro shallow
    exact decode_shallow { items } rfl few storable trailing nonempty shallow
  · intro deep
    exact ⟨.nestedTooDeep 128, decode_deep { items } rfl few storable trailing deep, by decide⟩

/-- Incomplete trees and a payload of not-a-number come back with a byte behind them. -/
theorem decode_encode_incomplete :
    ∃ bytes, encode { items := [.expression (.call "f" [.literal (.number ⟨0x7FF8000000000001⟩)]),
        .predicate (.quantification .universal none none)] } = .ok bytes ∧
      decode (bytes ++ [7]) =
        .ok { items := [.expression (.call "f" [.literal (.number ⟨0x7FF8000000000001⟩)]),
          .predicate (.quantification .universal none none)] } := by
  have call : (Expr.call "f" [.literal (.number ⟨0x7FF8000000000001⟩)]).Storable :=
    .call (by decide) (by decide) (by simpa using .literal trivial)
  have quantification : (Predicate.quantification .universal none none).Storable :=
    .quantification .universal (by simp) (by simp)
  obtain ⟨bytes, encoded, shallow, -⟩ := decode_encode_append
    [.expression (.call "f" [.literal (.number ⟨0x7FF8000000000001⟩)]),
      .predicate (.quantification .universal none none)] (by simp) (by decide)
    (by simpa using ⟨call, quantification⟩) [7]
  exact ⟨bytes, encoded, shallow (by decide)⟩

end Snapshot
end ConstraintTree
