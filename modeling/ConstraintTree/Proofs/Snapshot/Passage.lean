import ConstraintTree.Proofs.Snapshot.Lockstep

namespace ConstraintTree

/-- The decoders of nodes and of child fields, and whatever is put together from them: so also the
decoders of what stands behind the variant of a node. Nodes are bounded as in reading. -/
inductive Decoder : Type → Type 1 where
  | done (value : α) : Decoder α
  | andThen (first : Decoder α) (next : α → Decoder β) : Decoder β
  | natural (width : Nat) : Decoder Nat
  | variant [Listed α] : Decoder α
  | flag : Decoder Bool
  | text : Decoder String
  | number : Decoder Binary64
  | option (inner : Decoder α) : Decoder (Option α)
  | list (inner : Decoder α) : Decoder (List α)
  | field (child : Decoder α) : Decoder α
  | column : Decoder Column
  | literal : Decoder Literal
  | dimElement : Decoder DimElement
  | expr (nodes : Nat) : Decoder Expr
  | predicate (nodes : Nat) : Decoder Predicate
  | item (nodes : Nat) : Decoder Item
  | version : Decoder UInt32
  | snapshot (nodes : Nat) : Decoder Snapshot

namespace Decoder

def read (nesting : Nesting σ) : Decoder α → Reader σ α
  | .done value => pure value
  | .andThen first next => first.read nesting >>= fun value => (next value).read nesting
  | .natural width => Reader.nat width
  | @variant _ _ => Reader.variant
  | .flag => Reader.flag
  | .text => Reader.text
  | .number => Reader.number
  | .option inner => Reader.option (inner.read nesting)
  | .list inner => Reader.list (inner.read nesting)
  | .field child => Reader.field nesting (child.read nesting)
  | .column => Column.read
  | .literal => Literal.read
  | .dimElement => DimElement.read
  | .expr nodes => Expr.read nesting nodes
  | .predicate nodes => Predicate.read nesting nodes
  | .item nodes => Item.read nesting nodes
  | .version => Snapshot.readVersion
  | .snapshot nodes => Snapshot.read nesting nodes

end Decoder

namespace Reader

/-- However the reader ends, the cursor before and the cursor after are so related. -/
def Moves (Related : Cursor σ → Cursor σ → Prop) (reader : Reader σ α) : Prop :=
  ∀ before, Related before (stop (reader before))

/-- A field that is entered ends where its content ends, and leaves the books that this has. -/
theorem stop_field {nesting : Nesting σ} (child : Reader σ α) {before : Cursor σ}
    (entered : nesting.enter before.nesting = .ok inside) :
    stop (field nesting child before) =
      { stop (child { before with nesting := inside }) with
        nesting := nesting.leave (stop (child { before with nesting := inside })).nesting } := by
  simp only [field, entered]
  cases child { before with nesting := inside } <;> rfl

/-- A field that is refused leaves the cursor as it is. -/
theorem stop_refused {nesting : Nesting σ} (child : Reader σ α) {before : Cursor σ}
    (refused : nesting.enter before.nesting = .error limit) :
    stop (field nesting child before) = before := by
  simp only [field, refused]
  rfl

/-- A relation that survives the two things that touch a cursor, and any number of them. -/
structure Passage (nesting : Nesting σ) (Related : Cursor σ → Cursor σ → Prop) : Prop where
  refl : ∀ cursor, Related cursor cursor
  trans : ∀ before middle after, Related before middle → Related middle after → Related before after
  take : ∀ count missing, Moves Related (Reader.take count missing)
  field : ∀ {α : Type} {child : Reader σ α}, Moves Related child →
    Moves Related (Reader.field nesting child)

namespace Passage

variable {nesting : Nesting σ} {Related : Cursor σ → Cursor σ → Prop}
  (passage : Passage nesting Related)

include passage

theorem pure (value : α) : Moves Related (pure value : Reader σ α) :=
  fun before => passage.refl before

theorem throw (fault : DecodeError) : Moves Related (throw fault : Reader σ α) :=
  fun before => passage.refl before

theorem bind {reader : Reader σ α} {next : α → Reader σ β} (moves : Moves Related reader)
    (goesOn : ∀ value, Moves Related (next value)) : Moves Related (reader >>= next) := by
  intro before
  have here := moves before
  cases found : reader before with
  | ok value after =>
    rw [found] at here
    rw [bind_of_ok found]
    exact passage.trans before after _ here (goesOn value after)
  | error fault after =>
    rw [found] at here
    rw [bind_of_error found]
    exact here

/-- Behind a reader, only a value is put together. -/
theorem last {reader : Reader σ α} (moves : Moves Related reader) (finish : α → β) :
    Moves Related (reader >>= fun value => Pure.pure (finish value)) :=
  passage.bind moves fun value => passage.pure (finish value)

theorem nat (width : Nat) : Moves Related (Reader.nat width) :=
  passage.last (passage.take width .endOfInput) _

theorem byte : Moves Related Reader.byte := passage.last (passage.nat 1) _

theorem variant [Listed α] : Moves Related (Reader.variant : Reader σ α) := by
  refine passage.bind (passage.nat 4) fun index => ?_
  cases (Listed.values : List α)[index]? with
  | some value => exact passage.pure value
  | none => exact passage.throw _

theorem flag : Moves Related Reader.flag := by
  refine passage.bind passage.byte fun found => ?_
  split
  · exact passage.pure false
  · exact passage.pure true
  · exact passage.throw _

theorem text : Moves Related Reader.text := by
  refine passage.bind (passage.nat 8) fun length =>
    passage.bind (passage.take length .endOfText) fun content => ?_
  cases Utf8.decode content with
  | ok text => exact passage.pure text
  | error fault => exact passage.throw _

theorem number : Moves Related Reader.number := passage.last (passage.nat 8) _

theorem option {reader : Reader σ α} (moves : Moves Related reader) :
    Moves Related (Reader.option reader) := by
  refine passage.bind passage.byte fun found => ?_
  split
  · exact passage.pure none
  · exact passage.last moves some
  · exact passage.throw _

theorem many {reader : Reader σ α} (moves : Moves Related reader) (count : Nat) :
    Moves Related (Reader.many reader count) := by
  induction count with
  | zero => exact passage.pure []
  | succ count ih => exact passage.bind moves fun head => passage.last ih _

theorem list {reader : Reader σ α} (moves : Moves Related reader) :
    Moves Related (Reader.list reader) :=
  passage.bind (passage.nat 8) fun count => passage.many moves count

theorem column : Moves Related Column.read :=
  passage.bind (passage.option passage.text) fun _ => passage.last passage.text _

theorem literal : Moves Related Literal.read := by
  refine passage.bind passage.variant fun kind => ?_
  cases kind with
  | null => exact passage.pure _
  | boolean => exact passage.last passage.flag _
  | integer => exact passage.last (passage.nat 8) _
  | number => exact passage.last passage.number _
  | text => exact passage.last passage.text _

theorem dimElement : Moves Related DimElement.read :=
  passage.bind passage.text fun _ => passage.bind passage.number fun _ =>
    passage.bind passage.number fun _ => passage.last passage.number _

theorem expr (nodes : Nat) : Moves Related (Expr.read nesting nodes) := by
  induction nodes with
  | zero => exact passage.throw _
  | succ nodes ih =>
    have child := passage.field ih
    have operand := passage.field (passage.option ih)
    have listed := passage.field (passage.list ih)
    refine passage.bind passage.variant fun kind => ?_
    cases kind with
    | column => exact passage.last passage.column _
    | literal => exact passage.last passage.literal _
    | binary =>
      exact passage.bind passage.variant fun _ => passage.bind child fun _ => passage.last child _
    | unary => exact passage.bind passage.variant fun _ => passage.last child _
    | call => exact passage.bind passage.text fun _ => passage.last listed _
    | between =>
      exact passage.bind operand fun _ => passage.bind operand fun _ =>
        passage.bind operand fun _ => passage.last passage.flag _
    | inList =>
      exact passage.bind child fun _ => passage.bind listed fun _ => passage.last passage.flag _
    | dimArray => exact passage.last (passage.list passage.dimElement) _

theorem predicate (nodes : Nat) : Moves Related (Predicate.read nesting nodes) := by
  induction nodes with
  | zero => exact passage.throw _
  | succ nodes ih =>
    refine passage.bind passage.variant fun kind => ?_
    cases kind with
    | quantification =>
      exact passage.bind passage.variant fun _ => passage.bind (passage.option passage.text) fun _ =>
        passage.last (passage.field (passage.option ih)) _
    | atom =>
      exact passage.bind passage.text fun _ =>
        passage.last (passage.field (passage.list (passage.expr nodes))) _
    | negation => exact passage.last (passage.field ih) _
    | junction =>
      exact passage.bind passage.variant fun _ => passage.last (passage.field (passage.list ih)) _

theorem item (nodes : Nat) : Moves Related (Item.read nesting nodes) := by
  refine passage.bind passage.variant fun kind => ?_
  cases kind with
  | expression => exact passage.last (passage.expr nodes) _
  | predicate => exact passage.last (passage.predicate nodes) _

theorem version : Moves Related Snapshot.readVersion := passage.last (passage.nat 4) _

theorem snapshot (nodes : Nat) : Moves Related (Snapshot.read nesting nodes) :=
  passage.bind passage.version fun _ => passage.last (passage.list (passage.item nodes)) _

/-- Every decoder moves its cursor within the relation. -/
theorem decoder (decoder : Decoder α) : Moves Related (decoder.read nesting) := by
  induction decoder with
  | done value => exact passage.pure value
  | andThen first next inFirst inNext => exact passage.bind inFirst inNext
  | natural width => exact passage.nat width
  | variant => exact passage.variant
  | flag => exact passage.flag
  | text => exact passage.text
  | number => exact passage.number
  | option inner ih => exact passage.option ih
  | list inner ih => exact passage.list ih
  | field child ih => exact passage.field ih
  | column => exact passage.column
  | literal => exact passage.literal
  | dimElement => exact passage.dimElement
  | expr nodes => exact passage.expr nodes
  | predicate nodes => exact passage.predicate nodes
  | item nodes => exact passage.item nodes
  | version => exact passage.version
  | snapshot nodes => exact passage.snapshot nodes

end Passage
end Reader
end ConstraintTree
