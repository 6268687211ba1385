import ConstraintTree.Snapshot.Decoding

/-!
Two runs of the same reader beside each other. The runs may keep different books of their open fields,
or start from different bytes; a pairing says when they are abreast, with which faults both may stop,
and what is known of the second run once the first has stopped alone. A pairing that survives the
taking of bytes and the opening of fields survives the reading of a whole snapshot.
-/
namespace ConstraintTree.Reader

/-- Where a reader stopped, with a value or with a fault. -/
def stop : EStateM.Result DecodeError (Cursor σ) α → Cursor σ
  | .ok _ cursor => cursor
  | .error _ cursor => cursor

/-- What relates a first run to a second one. -/
structure Pairing (σ τ : Type) where
  /-- Neither run has stopped. -/
  Abreast : Cursor σ → Cursor τ → Prop
  /-- Both runs may stop with such a fault. -/
  Shared : DecodeError → Prop
  /-- The first run has stopped with the fault, and the second one may have gone on. -/
  Parted : DecodeError → Cursor τ → Prop

namespace Pairing

/-- Both runs find the same value or the same fault, unless the first stops alone. -/
inductive Outcome (pairing : Pairing σ τ) : EStateM.Result DecodeError (Cursor σ) α →
    EStateM.Result DecodeError (Cursor τ) α → Prop where
  | value (found : α) (abreast : pairing.Abreast after after') :
      Outcome pairing (.ok found after) (.ok found after')
  | fault (shared : pairing.Shared fault) (abreast : pairing.Abreast after after') :
      Outcome pairing (.error fault after) (.error fault after')
  | alone (result : EStateM.Result DecodeError (Cursor τ) α)
      (parted : pairing.Parted fault (stop result)) : Outcome pairing (.error fault after) result

/-- Two readers that keep to a pairing, and of which the second also keeps what is known of it once
the first has stopped. -/
structure Runs (pairing : Pairing σ τ) (first : Reader σ α) (second : Reader τ α) : Prop where
  outcome : ∀ before before', pairing.Abreast before before' →
    pairing.Outcome (first before) (second before')
  keeps : ∀ fault before', pairing.Parted fault before' →
    pairing.Parted fault (stop (second before'))

/-- A pairing that survives the two things that touch a cursor, under the given books. -/
structure Sound (pairing : Pairing σ τ) (outer : Nesting σ) (inner : Nesting τ) : Prop where
  shared : ∀ fault, (∀ limit, fault ≠ .nestedTooDeep limit) → pairing.Shared fault
  take : ∀ count missing, missing.isEndOfInput →
    pairing.Runs (Reader.take count missing) (Reader.take count missing)
  field : ∀ {α : Type} {first : Reader σ α} {second : Reader τ α}, pairing.Runs first second →
    pairing.Runs (Reader.field outer first) (Reader.field inner second)

/-- A first run may stop for want of input whatever the second one does, and once it has stopped
nothing is known of the second one. -/
structure Loose (pairing : Pairing σ τ) : Prop where
  short : ∀ cursor, pairing.Parted .endOfInput cursor
  blind : ∀ fault cursor cursor', pairing.Parted fault cursor → pairing.Parted fault cursor'

/-- Nodes that two runs may have: the same, or more in the second run if the pairing is loose. -/
def Suffices (pairing : Pairing σ τ) (nodes nodes' : Nat) : Prop :=
  nodes = nodes' ∨ nodes ≤ nodes' ∧ pairing.Loose

theorem Suffices.next {pairing : Pairing σ τ} (enough : pairing.Suffices (nodes + 1) nodes') :
    ∃ left, nodes' = left + 1 ∧ pairing.Suffices nodes left := by
  rcases enough with rfl | ⟨less, loose⟩
  · exact ⟨nodes, rfl, .inl rfl⟩
  · cases nodes' with
    | zero => omega
    | succ left => exact ⟨left, rfl, .inr ⟨by omega, loose⟩⟩

/-! Runs are put together as readers are. -/

namespace Runs

variable {pairing : Pairing σ τ}

theorem pure (value : α) : pairing.Runs (pure value) (pure value) where
  outcome _ _ abreast := .value value abreast
  keeps _ _ parted := parted

theorem bind {first : Reader σ α} {second : Reader τ α} {next : α → Reader σ β}
    {next' : α → Reader τ β} (runs : pairing.Runs first second)
    (goesOn : ∀ value, pairing.Runs (next value) (next' value)) :
    pairing.Runs (first >>= next) (second >>= next') := by
  constructor
  · intro before before' abreast
    have here := runs.outcome before before' abreast
    cases left : first before with
    | ok value after =>
      cases right : second before' with
      | ok value' after' =>
        rw [left, right] at here
        cases here with
        | value found abreast =>
          rw [bind_of_ok left, bind_of_ok right]
          exact (goesOn value).outcome after after' abreast
      | error fault' after' =>
        rw [left, right] at here
        cases here
    | error fault after =>
      rw [bind_of_error left]
      rw [left] at here
      cases right : second before' with
      | ok value' after' =>
        rw [right] at here
        cases here with
        -- The second run goes on by itself.
        | alone result parted =>
          rw [bind_of_ok right]
          exact .alone _ ((goesOn value').keeps fault after' parted)
      | error fault' after' =>
        rw [bind_of_error right]
        rw [right] at here
        cases here with
        | fault shared abreast => exact .fault shared abreast
        | alone result parted => exact .alone _ parted
  · intro fault before' parted
    have there := runs.keeps fault before' parted
    cases right : second before' with
    | ok value' after' =>
      rw [right] at there
      rw [bind_of_ok right]
      exact (goesOn value').keeps fault after' there
    | error fault' after' =>
      rw [right] at there
      rw [bind_of_error right]
      exact there

/-- A first run without nodes has run out of input; a second one that has nodes left goes on. -/
theorem exhausted (loose : pairing.Loose) (second : Reader τ α) :
    pairing.Runs (throw .endOfInput : Reader σ α) second where
  outcome _ _ _ := .alone _ (loose.short _)
  keeps fault _ parted := loose.blind fault _ _ parted

end Runs

namespace Sound

variable {pairing : Pairing σ τ} {outer : Nesting σ} {inner : Nesting τ}

theorem throw (sound : pairing.Sound outer inner) {fault : DecodeError}
    (own : ∀ limit, fault ≠ .nestedTooDeep limit) :
    pairing.Runs (throw fault : Reader σ α) (throw fault : Reader τ α) where
  outcome _ _ abreast := .fault (sound.shared fault own) abreast
  keeps _ _ parted := parted

variable (sound : pairing.Sound outer inner)

include sound

theorem nat (width : Nat) : pairing.Runs (Reader.nat width) (Reader.nat width) :=
  (sound.take width .endOfInput rfl).bind fun _ => .pure _

theorem byte : pairing.Runs Reader.byte Reader.byte :=
  (sound.nat 1).bind fun _ => .pure _

theorem variant [Listed α] : pairing.Runs (Reader.variant : Reader σ α) Reader.variant := by
  refine (sound.nat 4).bind fun index => ?_
  cases (Listed.values : List α)[index]? with
  | some value => exact .pure value
  | none => exact sound.throw (by simp)

theorem flag : pairing.Runs Reader.flag Reader.flag := by
  refine sound.byte.bind fun found => ?_
  split
  · exact .pure false
  · exact .pure true
  · exact sound.throw (by simp)

theorem text : pairing.Runs Reader.text Reader.text := by
  refine (sound.nat 8).bind fun length => (sound.take length .endOfText rfl).bind fun content => ?_
  cases Utf8.decode content with
  | ok text => exact .pure text
  | error fault => exact sound.throw (by simp)

theorem number : pairing.Runs Reader.number Reader.number :=
  (sound.nat 8).bind fun _ => .pure _

theorem option {first : Reader σ α} {second : Reader τ α} (runs : pairing.Runs first second) :
    pairing.Runs (Reader.option first) (Reader.option second) := by
  refine sound.byte.bind fun found => ?_
  split
  · exact .pure none
  · exact runs.bind fun value => .pure (some value)
  · exact sound.throw (by simp)

omit sound in
theorem many {first : Reader σ α} {second : Reader τ α} (runs : pairing.Runs first second)
    (count : Nat) : pairing.Runs (Reader.many first count) (Reader.many second count) := by
  induction count with
  | zero => exact .pure []
  | succ count ih => exact runs.bind fun head => ih.bind fun rest => .pure (head :: rest)

theorem list {first : Reader σ α} {second : Reader τ α} (runs : pairing.Runs first second) :
    pairing.Runs (Reader.list first) (Reader.list second) :=
  (sound.nat 8).bind fun count => many runs count

/-! Every stored tree is read with these. -/

theorem column : pairing.Runs Column.read Column.read :=
  (sound.option sound.text).bind fun _ => sound.text.bind fun _ => .pure _

theorem literal : pairing.Runs Literal.read Literal.read := by
  refine sound.variant.bind fun kind => ?_
  cases kind with
  | null => exact .pure _
  | boolean => exact sound.flag.bind fun _ => .pure _
  | integer => exact (sound.nat 8).bind fun _ => .pure _
  | number => exact sound.number.bind fun _ => .pure _
  | text => exact sound.text.bind fun _ => .pure _

theorem dimElement : pairing.Runs DimElement.read DimElement.read :=
  sound.text.bind fun _ => sound.number.bind fun _ => sound.number.bind fun _ =>
    sound.number.bind fun _ => .pure _

theorem expr (enough : pairing.Suffices nodes nodes') :
    pairing.Runs (Expr.read outer nodes) (Expr.read inner nodes') := by
  induction nodes generalizing nodes' with
  | zero =>
    rcases enough with rfl | ⟨-, loose⟩
    · exact sound.throw (by simp)
    · exact .exhausted loose _
  | succ nodes ih =>
    obtain ⟨left, rfl, fewer⟩ := enough.next
    have child := ih fewer
    have operand := sound.field (sound.option child)
    have listed := sound.field (sound.list child)
    refine sound.variant.bind fun kind => ?_
    cases kind with
    | column => exact sound.column.bind fun _ => .pure _
    | literal => exact sound.literal.bind fun _ => .pure _
    | binary =>
      exact sound.variant.bind fun _ => (sound.field child).bind fun _ =>
        (sound.field child).bind fun _ => .pure _
    | unary => exact sound.variant.bind fun _ => (sound.field child).bind fun _ => .pure _
    | call => exact sound.text.bind fun _ => listed.bind fun _ => .pure _
    | between =>
      exact operand.bind fun _ => operand.bind fun _ => operand.bind fun _ =>
        sound.flag.bind fun _ => .pure _
    | inList =>
      exact (sound.field child).bind fun _ => listed.bind fun _ => sound.flag.bind fun _ => .pure _
    | dimArray => exact (sound.list sound.dimElement).bind fun _ => .pure _

theorem predicate (enough : pairing.Suffices nodes nodes') :
    pairing.Runs (Predicate.read outer nodes) (Predicate.read inner nodes') := by
  induction nodes generalizing nodes' with
  | zero =>
    rcases enough with rfl | ⟨-, loose⟩
    · exact sound.throw (by simp)
    · exact .exhausted loose _
  | succ nodes ih =>
    obtain ⟨left, rfl, fewer⟩ := enough.next
    have child := ih fewer
    refine sound.variant.bind fun kind => ?_
    cases kind with
    | quantification =>
      exact sound.variant.bind fun _ => (sound.option sound.text).bind fun _ =>
        (sound.field (sound.option child)).bind fun _ => .pure _
    | atom =>
      exact sound.text.bind fun _ => (sound.field (sound.list (sound.expr fewer))).bind fun _ => .pure _
    | negation => exact (sound.field child).bind fun _ => .pure _
    | junction =>
      exact sound.variant.bind fun _ => (sound.field (sound.list child)).bind fun _ => .pure _

theorem item (enough : pairing.Suffices nodes nodes') :
    pairing.Runs (Item.read outer nodes) (Item.read inner nodes') := by
  refine sound.variant.bind fun kind => ?_
  cases kind with
  | expression => exact (sound.expr enough).bind fun _ => .pure _
  | predicate => exact (sound.predicate enough).bind fun _ => .pure _

theorem version : pairing.Runs Snapshot.readVersion Snapshot.readVersion :=
  (sound.nat 4).bind fun _ => .pure _

/-- Two runs that are abreast at the start of a snapshot keep to their pairing to its end. -/
theorem snapshot (enough : pairing.Suffices nodes nodes') :
    pairing.Runs (Snapshot.read outer nodes) (Snapshot.read inner nodes') :=
  sound.version.bind fun _ => (sound.list (sound.item enough)).bind fun _ => .pure _

end Sound
end Pairing
end ConstraintTree.Reader
