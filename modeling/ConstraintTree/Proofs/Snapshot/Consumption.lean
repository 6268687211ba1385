import ConstraintTree.Proofs.Nodes
import ConstraintTree.Proofs.Snapshot.Allowance
import ConstraintTree.Proofs.Snapshot.Canonical
import ConstraintTree.Proofs.Snapshot.RoundTrip

namespace ConstraintTree

namespace Item

/-- The dimensions of a node itself. -/
def elements : Item → List DimElement
  | .expression (.dimArray elements) => elements
  | _ => []

def dimensions (item : Item) : List DimElement := item.nodes.flatMap elements

/-- A tree as it is stored within another one. -/
def stored : Item → Bytes
  | .expression tree => tree.encode
  | .predicate tree => tree.encode

/-- Bytes that a tree takes at least: four for each node, and thirty-two for each dimension. -/
def weight (item : Item) : Nat := 4 * item.nodes.length + 32 * item.dimensions.length

end Item

private theorem Bytes.length_ofNumber (number : Binary64) : (Bytes.ofNumber number).length = 8 :=
  Bytes.length_ofNat 8 _

theorem DimElement.length_encode (element : DimElement) : 32 ≤ element.encode.length := by
  simp only [encode, Bytes.ofText, List.length_append, Bytes.length_ofLength, Bytes.length_ofNumber]
  omega

/-- What takes so much by itself takes as many times as much in a row. -/
theorem length_flatMap_of_le {write : α → Bytes} {least : Nat}
    (each : ∀ value, least ≤ (write value).length) (values : List α) :
    least * values.length ≤ (values.flatMap write).length := by
  induction values with
  | nil => simp
  | cons head rest ih =>
    have atHead := each head
    rw [List.flatMap_cons, List.length_append, List.length_cons, Nat.mul_add_one]
    omega

/-- What is written for the members of a list, each behind the one before it, takes what they take. -/
theorem Item.weights_le {items : List Item} {write : Item → Bytes}
    (each : ∀ item ∈ items, item.weight ≤ (write item).length) :
    4 * (items.flatMap nodes).length + 32 * (items.flatMap dimensions).length ≤
      (items.flatMap write).length := by
  induction items with
  | nil => simp
  | cons head rest ih =>
    have atHead := each head List.mem_cons_self
    have inRest := ih fun item member => each item (List.mem_cons_of_mem _ member)
    simp only [weight] at atHead
    simp only [List.flatMap_cons, List.length_append]
    omega

theorem Expr.length_encodeOperand (operand : Option Expr) :
    (operand.toList.flatMap encode).length ≤ (encodeOperand operand).length := by
  cases operand <;> simp [encodeOperand]

private theorem Predicate.length_encodeCondition (condition : Option Predicate) :
    (condition.toList.flatMap encode).length ≤ (encodeCondition condition).length := by
  cases condition <;> simp [encodeCondition]

theorem Expr.own_le_encode (expr : Expr) :
    4 + 32 * (Item.expression expr).elements.length + (expr.children.flatMap encode).length ≤
      expr.encode.length := by
  cases expr with
  | column | literal => simp [Item.elements, children, encode]
  | binary op left right => simp [Item.elements, children, encode]
  | unary op operand => simp [Item.elements, children, encode]
  | call name args =>
    simp only [Item.elements, children, encode, encodeEach_eq_flatMap, List.length_append,
      Bytes.length_ofVariant, List.length_nil]
    omega
  | between test lower upper negated =>
    have first := length_encodeOperand test
    have second := length_encodeOperand lower
    have third := length_encodeOperand upper
    simp only [Item.elements, children, encode, List.flatMap_append, List.length_append,
      Bytes.length_ofVariant, List.length_nil]
    omega
  | inList tested choices negated =>
    simp only [Item.elements, children, encode, encodeEach_eq_flatMap, List.flatMap_cons,
      List.length_append, Bytes.length_ofVariant, List.length_nil]
    omega
  | dimArray elements =>
    have listed := length_flatMap_of_le DimElement.length_encode elements
    simp only [Item.elements, children, encode, Bytes.ofList, List.flatMap_nil, List.length_append,
      Bytes.length_ofVariant, List.length_nil]
    omega

namespace Item

theorem own_le_stored (item : Item) :
    4 + 32 * item.elements.length + (item.children.flatMap stored).length ≤ item.stored.length := by
  cases item with
  | expression expr =>
    have own := expr.own_le_encode
    rw [children, List.flatMap_map]
    exact own
  | predicate predicate =>
    cases predicate with
    | quantification quantifier bound condition =>
      have body := Predicate.length_encodeCondition condition
      have below : (condition.toList.map predicate).flatMap stored =
          condition.toList.flatMap Predicate.encode := List.flatMap_map ..
      simp only [elements, children, below, stored, Predicate.encode, List.length_append,
        Bytes.length_ofVariant, List.length_nil]
      omega
    | atom name args =>
      have below : (args.map expression).flatMap stored = args.flatMap Expr.encode :=
        List.flatMap_map ..
      simp only [elements, children, below, stored, Predicate.encode, Bytes.ofList,
        List.length_append, Bytes.length_ofVariant, List.length_nil]
      omega
    | negation operand => simp [elements, children, stored, Predicate.encode]
    | junction op operands =>
      have below : (operands.map predicate).flatMap stored = operands.flatMap Predicate.encode :=
        List.flatMap_map ..
      simp only [elements, children, below, stored, Predicate.encode,
        Predicate.encodeEach_eq_flatMap, List.length_append, Bytes.length_ofVariant, List.length_nil]
      omega

theorem weight_le_stored (item : Item) : item.weight ≤ item.stored.length := by
  induction item using Item.induct with
  | node item inChildren =>
    have below := weights_le inChildren
    have own := item.own_le_stored
    have joined : (item.children.flatMap nodes).flatMap elements =
        item.children.flatMap dimensions := List.flatMap_assoc
    rw [weight, dimensions, nodes_eq, List.flatMap_cons, joined, List.length_cons,
      List.length_append]
    omega

theorem weight_le_encode (item : Item) : item.weight ≤ item.encode.length := by
  have inside := item.weight_le_stored
  cases item <;> simp only [encode, stored, List.length_append] at inside ⊢ <;> omega

end Item

namespace Reader

/-- A row that is not read to its end fails at one element, behind those before it. -/
theorem error_of_many {element : Reader σ α} (failed : many element count before = .error fault after) :
    ∃ complete values middle, complete < count ∧
      many element complete before = .ok values middle ∧ element middle = .error fault after := by
  induction count generalizing before with
  | zero => cases failed
  | succ count ih =>
    cases first : element before with
    | error found stopped =>
      rw [many, bind_of_error first] at failed
      obtain ⟨rfl, rfl⟩ := EStateM.Result.error.inj failed
      exact ⟨0, [], before, Nat.zero_lt_succ count, rfl, first⟩
    | ok head middle =>
      rw [many, bind_of_ok first] at failed
      cases others : many element count middle with
      | ok rest stopped =>
        rw [bind_of_ok others] at failed
        cases failed
      | error found stopped =>
        rw [bind_of_error others] at failed
        obtain ⟨complete, values, last, fewer, read, ends⟩ := ih (others.trans failed)
        refine ⟨complete + 1, head :: values, last, Nat.succ_lt_succ fewer, ?_, ends⟩
        rw [many, bind_of_ok first, bind_of_ok read]
        rfl

/-- A list goes by the length that it declares. -/
theorem list_ofLength (element : Reader Nat α) (before : Cursor Nat) (few : Countable count) :
    list element { before with rest := Bytes.ofLength count ++ before.rest } =
      many element count before :=
  bind_of_ok ((Restores.length few).within before.nesting before.rest (Nat.le_add_right _ 0))

/-- Elements that take no less of the input than their weight, which is at least `least`, wherever
they are read with no more than `limit` fields open. The readers are given by how many nested nodes
they allow. -/
structure Rationed (limit least : Nat) (element : Nat → Reader Nat α) (weight : α → Nat) : Prop where
  settled : ∀ nodes before, before.rest.length / 4 ≤ nodes →
    element nodes before = element (before.rest.length / 4) before
  /-- The length of a list is what stands in front of it. -/
  declared : ∀ nodes before count, count < UInt64.size →
    list (element nodes) { before with rest := Bytes.ofLength count ++ before.rest } =
      many (element nodes) count before
  takes : ∀ nodes before value after, before.nesting ≤ limit →
    element nodes before = .ok value after →
      least ≤ weight value ∧ after.rest.length + weight value ≤ before.rest.length
  /-- One of more elements than there is room for fails, behind no more than there is room for. -/
  fails : ∀ nodes before count, before.nesting ≤ limit → before.rest.length < least * count →
    ∃ complete values middle fault after, complete < count ∧
      complete ≤ before.rest.length / least ∧
      many (element nodes) complete before = .ok values middle ∧
      element nodes middle = .error fault after ∧
      many (element nodes) count before = .error fault after

theorem Rationed.list_fails {element : Nat → Reader Nat α}
    (rationed : Rationed limit least element weight) (nodes : Nat) {before : Cursor Nat}
    (room : before.nesting ≤ limit) (few : count < UInt64.size)
    (short : before.rest.length < least * count) :
    ∃ fault after,
      list (element nodes) { before with rest := Bytes.ofLength count ++ before.rest } =
        .error fault after := by
  obtain ⟨-, -, -, fault, after, -, -, -, -, failed⟩ :=
    rationed.fails nodes before count room short
  exact ⟨fault, after, (rationed.declared nodes before count few).trans failed⟩

/-- What is read in a row was there. -/
theorem Spells.length_many {element : Reader Nat α} (spells : Spells limit element write depth)
    (least : Nat) (each : ∀ value, least ≤ (write value).length) (room : before.nesting ≤ limit)
    (read : Reader.many element count before = .ok values after) :
    least * count ≤ before.rest.length := by
  obtain ⟨took, rfl⟩ := spells.many room read
  have written := length_flatMap_of_le each values
  rw [took.bytes, List.length_append]
  omega

/-- Elements that are read from what would be written for them are rationed by what that takes. -/
theorem Spells.rationed {element : Nat → Reader Nat α}
    (spells : ∀ nodes, Spells limit (element nodes) write depth)
    (positive : 0 < least) (heavy : ∀ value, least ≤ weight value)
    (written : ∀ value, weight value ≤ (write value).length)
    (settled : ∀ nodes before, before.rest.length / 4 ≤ nodes →
      element nodes before = element (before.rest.length / 4) before) :
    Rationed limit least element weight where
  settled := settled
  declared nodes before _ few := list_ofLength (element nodes) before few
  takes nodes before value after room read := by
    have took := spells nodes before value after room read
    have size := written value
    rw [took.bytes, List.length_append]
    exact ⟨heavy value, by omega⟩
  fails nodes before count room short := by
    have each value := Nat.le_trans (heavy value) (written value)
    cases read : Reader.many (element nodes) count before with
    | ok values after =>
      have enough := (spells nodes).length_many least each room read
      omega
    | error fault after =>
      obtain ⟨complete, values, middle, fewer, front, ends⟩ := error_of_many read
      have fits := (spells nodes).length_many least each room front
      refine ⟨complete, values, middle, fault, after, fewer, ?_, front, ends, rfl⟩
      rwa [Nat.le_div_iff_mul_le positive, Nat.mul_comm]

end Reader

theorem Item.four_le_weight (item : Item) : 4 ≤ item.weight := by
  rw [weight, nodes_eq, List.length_cons]
  omega

theorem Item.rationed : Reader.Rationed 128 4 (Item.read (Nesting.limited 128)) Item.weight :=
  Reader.Spells.rationed Item.spells_read (by decide) Item.four_le_weight Item.weight_le_encode
    fun _ before more => Reader.AlikeBelow.enough (fun _ _ => .item _) before more

namespace Snapshot

/-- Under the current version, bytes that declare more items than they have room for decode to
nothing, however large the number is. -/
theorem decode_of_overdeclared {rest : Bytes} (few : count < UInt64.size)
    (short : rest.length < 4 * count) :
    ∃ fault, decode (Bytes.ofNat 4 version.toNat ++ (Bytes.ofLength count ++ rest)) =
      .error (.malformed fault) := by
  have versioned := (restores_readVersion version).within 0 (Bytes.ofLength count ++ rest)
    (Nat.zero_le maxNesting)
  generalize whole : Bytes.ofNat 4 version.toNat ++ (Bytes.ofLength count ++ rest) = stored
    at versioned ⊢
  have room : (Cursor.mk rest 0).nesting ≤ 128 := Nat.zero_le 128
  obtain ⟨fault, after, failed⟩ := Item.rationed.list_fails (stored.length / 4) room few short
  have refused : read (Nesting.limited maxNesting) (stored.length / 4)
      { rest := stored, nesting := 0 } = .error fault after := by
    rw [read, Reader.bind_of_ok versioned]
    exact Reader.bind_of_error failed
  refine ⟨fault, ?_⟩
  simp only [decode, decodeFrom, versioned, refused, ne_eq, not_true_eq_false, if_false]

/-- Trees and dimensions in a row are read only as far as the input has room for them, whatever length
is declared, and whatever number of fields is open. Reading ends on every input, of its own accord; and
a snapshot that decodes has no more nodes and dimensions than its bytes have room for. -/
theorem reading_within_input :
    Reader.Rationed 128 4 (Item.read (Nesting.limited 128)) Item.weight ∧
      Reader.Rationed 128 4 (Expr.read (Nesting.limited 128))
        (fun expr => (Item.expression expr).weight) ∧
      Reader.Rationed 128 4 (Predicate.read (Nesting.limited 128))
        (fun predicate => (Item.predicate predicate).weight) ∧
      Reader.Rationed 128 32 (fun _ => DimElement.read) (fun _ => 32) ∧
      (∀ nodes before, before.rest.length / 4 ≤ nodes →
        read (Nesting.limited 128) nodes before =
          read (Nesting.limited 128) (before.rest.length / 4) before) ∧
      ∀ stored snapshot, decode stored = .ok snapshot →
        4 * (snapshot.items.flatMap Item.nodes).length +
          32 * (snapshot.items.flatMap Item.dimensions).length ≤ stored.length := by
  refine ⟨Item.rationed, ?expressions, ?predicates, ?dimensions, ?ends, ?whole⟩
  case expressions =>
    exact Reader.Spells.rationed Expr.spells_read (by decide)
      (fun expr => (Item.expression expr).four_le_weight)
      (fun expr => (Item.expression expr).weight_le_stored)
      fun _ before more => Reader.AlikeBelow.enough (fun _ _ => .expr _) before more
  case predicates =>
    exact Reader.Spells.rationed Predicate.spells_read (by decide)
      (fun predicate => (Item.predicate predicate).four_le_weight)
      (fun predicate => (Item.predicate predicate).weight_le_stored)
      fun _ before more => Reader.AlikeBelow.enough (fun _ _ => .predicate _) before more
  case dimensions =>
    exact Reader.Spells.rationed (fun _ => DimElement.spells_read) (by decide)
      (fun _ => Nat.le_refl 32) DimElement.length_encode fun _ _ _ => rfl
  case ends =>
    exact fun _ before more => Reader.AlikeBelow.enough (fun _ _ => .snapshot _) before more
  case whole =>
    intro stored snapshot decoded
    obtain ⟨split, -⟩ := split_of_decode decoded
    have listed := Item.weights_le fun item (_ : item ∈ snapshot.items) => item.weight_le_encode
    have size := congrArg List.length split
    rw [List.length_append, bytes_eq, List.length_append, Bytes.ofList, List.length_append] at size
    omega

/-- The bytes of one literal, where no more fields can be opened. -/
def innermostNull : Cursor Nat where
  rest := [1, 0, 0, 0, 0, 0, 0, 0]
  nesting := 128

/-- Its eight bytes hold no list of as many expressions as can be declared. -/
theorem reading_within_input_null :
    Expr.read (Nesting.limited 128) 2 innermostNull = .ok .null { rest := [], nesting := 128 } ∧
      (Item.expression .null).weight ≤ 8 ∧
      (∃ complete values middle fault after, complete ≤ 2 ∧
        Reader.many (Expr.read (Nesting.limited 128) 2) complete innermostNull = .ok values middle ∧
        Expr.read (Nesting.limited 128) 2 middle = .error fault after ∧
        Reader.many (Expr.read (Nesting.limited 128) 2) (UInt64.size - 1) innermostNull =
          .error fault after) ∧
      4 * ([Item.expression .null].flatMap Item.nodes).length +
        32 * ([Item.expression .null].flatMap Item.dimensions).length ≤ 24 := by
  obtain ⟨-, expressions, -, -, -, whole⟩ := reading_within_input
  have read : Expr.read (Nesting.limited 128) 2 innermostNull =
      .ok .null { rest := [], nesting := 128 } := rfl
  have room : innermostNull.nesting ≤ 128 := Nat.le_refl 128
  have took := (expressions.takes 2 innermostNull _ _ room read).2
  rw [List.length_nil, Nat.zero_add] at took
  have fails := expressions.fails 2 innermostNull (UInt64.size - 1) room (by decide)
  obtain ⟨complete, values, middle, fault, after, -, few, front, ends, failed⟩ := fails
  refine ⟨read, took, ⟨complete, values, middle, fault, after, few, front, ends, failed⟩, ?_⟩
  exact whole [1, 0, 0, 0, 1, 0, 0, 0, 0, 0, 0, 0, 0, 0, 0, 0, 1, 0, 0, 0, 0, 0, 0, 0]
    { items := [.expression .null] } rfl

end Snapshot
end ConstraintTree
